import GuardedCnf.Literal
/-! # Packed values — bits in words

    The values of finitely many variables are packed in words of 32 bits: the
    variable `32 * i + j` is bit `j` of word `i`.  Only the last word may have
    bits above the last variable.

    Counting on adds one to the first word, and goes on to the next word where
    the addition wraps to zero.  The last word has run through its values when
    it reaches the bit above its variables, or wraps if it has no such bit. -/

namespace GuardedCnf

/-- The values of the variables below `size`, packed in words. -/
structure Packed where
  size : Nat
  words : List UInt32
  length_words : words.length = (size + 31) / 32

namespace Packed

/-- The bits of the words in order, those above the last variable included. -/
def value (p : Packed) : Valuation := fun v =>
  (p.words.getD (v / 32) 0).toNat.testBit (v % 32)

/-- The values of the variables, in order. -/
def values (p : Packed) : List Bool :=
  (p.words.flatMap fun w => (List.range 32).map w.toNat.testBit).take p.size

/-! ## Packing. -/

/-- The first 32 values of a list as a word. -/
def word (bs : List Bool) : UInt32 :=
  UInt32.ofNat ((bs.take 32).foldr (fun b n => 2 * n + b.toNat) 0)

/-- The first values of a list in `n` words. -/
def pack : Nat → List Bool → List UInt32
  | 0, _ => []
  | n + 1, bs => word bs :: pack n (bs.drop 32)

theorem length_pack (n : Nat) (bs : List Bool) : (pack n bs).length = n := by
  induction n generalizing bs with
  | zero => rfl
  | succ n ih => rw [pack, List.length_cons, ih]

/-- The values of a list, packed. -/
def ofValues (bs : List Bool) : Packed :=
  ⟨bs.length, pack ((bs.length + 31) / 32) bs, length_pack _ bs⟩

/-- The values of `n` variables that are all false. -/
def allFalse (n : Nat) : Packed := ⟨n, List.replicate ((n + 31) / 32) 0, List.length_replicate⟩

/-! ## Counting on. -/

/-- What the last word holds when it has run through its values. -/
def overflow (size : Nat) : UInt32 :=
  if size % 32 = 0 then 0 else 1 <<< UInt32.ofNat (size % 32)

/-- Adds one to a number in words, lowest word first; the flag tells whether
    the last word did not overflow.  There has to be a last word. -/
def countOn (overflow : UInt32) : List UInt32 → Option (List UInt32 × Bool)
  | [] => none
  | [w] => some (if w + 1 = overflow then ([0], false) else ([w + 1], true))
  | w :: ws =>
      if w + 1 = 0 then (countOn overflow ws).map fun (ws, more) => (0 :: ws, more)
      else some ((w + 1) :: ws, true)

theorem length_countOn {overflow : UInt32} {ws ws' : List UInt32} {more : Bool}
    (h : countOn overflow ws = some (ws', more)) : ws'.length = ws.length := by
  induction ws generalizing ws' more with
  | nil => exact nomatch h
  | cons w ws ih =>
      cases ws with
      | nil =>
          rw [countOn] at h
          split at h <;> cases h <;> rfl
      | cons w' ws =>
          rw [countOn] at h
          · split at h
            · obtain ⟨⟨rest, more'⟩, hrest, heq⟩ := Option.map_eq_some_iff.mp h
              cases heq
              exact congrArg (· + 1) (ih hrest)
            · cases h
              rfl
          · exact fun h => nomatch h

/-- The next values, and whether there are any: after the last values come the
    first.  Without variables there are no other values. -/
def next? (p : Packed) : Option (Packed × Bool) :=
  if p.size = 0 then some (p, false)
  else match h : countOn (overflow p.size) p.words with
    | none => none
    | some (ws, more) => some (⟨p.size, ws, (length_countOn h).trans p.length_words⟩, more)

theorem isSome_countOn {overflow : UInt32} {ws : List UInt32} (h : ws ≠ []) :
    (countOn overflow ws).isSome = true := by
  induction ws with
  | nil => exact absurd rfl h
  | cons w ws ih =>
      cases ws with
      | nil => rfl
      | cons w' ws =>
          rw [countOn]
          · split
            · rw [Option.isSome_map]
              exact ih (List.cons_ne_nil w' ws)
            · rfl
          · exact fun h => nomatch h

/-- With variables there is a last word. -/
theorem words_ne_nil {p : Packed} (h : p.size ≠ 0) : p.words ≠ [] := by
  intro hnil
  have hlength := p.length_words
  rw [hnil, List.length_nil] at hlength
  omega

theorem isSome_next? (p : Packed) : p.next?.isSome = true := by
  unfold next?
  split
  · rfl
  · next hsize =>
      have hsome : (countOn (overflow p.size) p.words).isSome = true :=
        isSome_countOn (words_ne_nil hsize)
      split
      · next hnone =>
          rw [hnone] at hsome
          exact nomatch hsome
      · rfl

end Packed

end GuardedCnf
