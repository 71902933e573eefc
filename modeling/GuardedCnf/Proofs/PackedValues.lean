import GuardedCnf.Proofs.BinaryNumbers
import Mathlib.Data.List.GetD
import Mathlib.Data.List.Nodup
import Mathlib.Data.List.Range
import Mathlib.Tactic.Ring
/-! # Packed values — words as one number

    The words of packed values are one number, and every value is a binary digit
    of it.  So packed values whose last word has nothing above the last variable
    are determined by their number, which is that of the values.  Packing a list
    of values makes such words, and unpacking them gives back the list. -/

namespace GuardedCnf

namespace Packed

variable {p q : Packed} {w o : UInt32} {ws ws' : List UInt32} {bs : List Bool} {n v : Nat}

/-! ## Words as a number. -/

/-- The number that words are, lowest word first. -/
def number : List UInt32 → Nat
  | [] => 0
  | w :: ws => 2 ^ 32 * number ws + w.toNat

/-- Words of 32 bits make a number that needs no more bits. -/
theorem number_lt (ws : List UInt32) : number ws < 2 ^ (32 * ws.length) := by
  induction ws with
  | nil => exact Nat.one_pos
  | cons w ws ih =>
      have hw : w.toNat < 2 ^ 32 := w.toNat_lt
      calc number (w :: ws)
          < 2 ^ 32 * number ws + 2 ^ 32 := Nat.add_lt_add_left hw _
        _ = 2 ^ 32 * (number ws + 1) := by ring
        _ ≤ 2 ^ 32 * 2 ^ (32 * ws.length) := Nat.mul_le_mul_left _ ih
        _ = 2 ^ (32 * (w :: ws).length) := by rw [List.length_cons]; ring

/-- So many words are determined by their number. -/
theorem eq_of_number_eq (hlength : ws.length = ws'.length) (h : number ws = number ws') :
    ws = ws' := by
  induction ws generalizing ws' with
  | nil => exact (List.length_eq_zero_iff.mp hlength.symm).symm
  | cons w ws ih =>
      cases ws' with
      | nil => exact nomatch hlength
      | cons w' ws' =>
          have hw : w.toNat < 2 ^ 32 := w.toNat_lt
          have hw' : w'.toNat < 2 ^ 32 := w'.toNat_lt
          rw [number, number] at h
          have hfirst : w = w' := UInt32.toNat_inj.mp (by omega)
          have hrest : ws = ws' := ih (Nat.succ.inj hlength) (by omega)
          rw [hfirst, hrest]

/-- The bits of the first word come first, and then those of the others. -/
theorem testBit_number_cons (w : UInt32) (ws : List UInt32) (v : Nat) :
    (number (w :: ws)).testBit v =
      if v < 32 then w.toNat.testBit v else (number ws).testBit (v - 32) :=
  Nat.testBit_two_pow_mul_add _ w.toNat_lt v

/-- A bit of the words is a digit of their number. -/
theorem testBit_number (ws : List UInt32) (v : Nat) :
    (number ws).testBit v = (ws.getD (v / 32) 0).toNat.testBit (v % 32) := by
  induction ws generalizing v with
  | nil =>
      show Nat.testBit 0 v = Nat.testBit 0 (v % 32)
      rw [Nat.zero_testBit, Nat.zero_testBit]
  | cons w ws ih =>
      rw [testBit_number_cons]
      by_cases hv : v < 32
      · rw [if_pos hv, Nat.div_eq_of_lt hv, Nat.mod_eq_of_lt hv, List.getD_cons_zero]
      · have hdiv : v / 32 = (v - 32) / 32 + 1 := by omega
        have hmod : v % 32 = (v - 32) % 32 := by omega
        rw [if_neg hv, ih, hdiv, hmod, List.getD_cons_succ]

/-- The value of a variable is a bit of the number. -/
theorem value_eq_testBit (p : Packed) : p.value = (number p.words).testBit :=
  funext fun v => (testBit_number p.words v).symm

/-- The bits above the last variable are not set. -/
def Trimmed (p : Packed) : Prop := ∀ v, p.size ≤ v → p.value v = false

/-- No bit is set above the last variable exactly when the number is small enough. -/
theorem trimmed_iff : p.Trimmed ↔ number p.words < 2 ^ p.size := by
  rw [Trimmed, value_eq_testBit]
  constructor
  · exact Nat.lt_pow_two_of_testBit _
  · intro h v hv
    exact Nat.testBit_lt_two_pow (Nat.lt_of_lt_of_le h (Nat.pow_le_pow_right (by decide) hv))

/-- The values of the variables are the digits of the number. -/
theorem binary_value (h : p.Trimmed) : binary p.size p.value = number p.words := by
  rw [value_eq_testBit, binary_testBit_of_lt (trimmed_iff.mp h)]

/-- The size and the number tell the packed values. -/
theorem eq_of_number (hsize : p.size = q.size) (h : number p.words = number q.words) :
    p = q := by
  obtain ⟨size, words, hwords⟩ := p
  obtain ⟨size', words', hwords'⟩ := q
  obtain rfl : size = size' := hsize
  obtain rfl : words = words' := eq_of_number_eq (hwords.trans hwords'.symm) h
  rfl

theorem number_allFalse (n : Nat) : number (allFalse n).words = 0 := by
  show number (List.replicate ((n + 31) / 32) 0) = 0
  induction (n + 31) / 32 with
  | zero => rfl
  | succ k ih => rw [List.replicate_succ, number, ih]; rfl

theorem trimmed_allFalse (n : Nat) : (allFalse n).Trimmed := by
  rw [trimmed_iff, number_allFalse]
  exact Nat.two_pow_pos n

/-! ## Packing and unpacking. -/

/-- The number of a list of digits, lowest first. -/
theorem testBit_foldr (bs : List Bool) (v : Nat) :
    (bs.foldr (fun b k => 2 * k + b.toNat) 0 : Nat).testBit v = bs.getD v false := by
  induction bs generalizing v with
  | nil => exact Nat.zero_testBit v
  | cons b bs ih =>
      rw [List.foldr_cons]
      cases v with
      | zero => cases b <;> simp [Nat.testBit_zero, Nat.add_mod]
      | succ v =>
          rw [Nat.testBit_succ, List.getD_cons_succ, ← ih v]
          refine congrArg (Nat.testBit · v) ?_
          cases b <;> simp only [Bool.toNat_true, Bool.toNat_false] <;> omega

/-- A bit of a word is the value at its place, and not set beyond the values. -/
theorem testBit_word (bs : List Bool) {v : Nat} (hv : v < 32) :
    (word bs).toNat.testBit v = bs.getD v false := by
  rw [word, UInt32.toNat_ofNat', Nat.testBit_mod_two_pow, testBit_foldr, decide_eq_true hv,
    Bool.true_and, List.getD_eq_getElem?_getD, List.getElem?_take_of_lt hv,
    ← List.getD_eq_getElem?_getD]

/-- A bit of packed words is the value at its place. -/
theorem testBit_pack (bs : List Bool) (hv : v < 32 * n) :
    (number (pack n bs)).testBit v = bs.getD v false := by
  induction n generalizing bs v with
  | zero => exact absurd hv (Nat.not_lt_zero v)
  | succ n ih =>
      rw [pack, testBit_number_cons]
      by_cases hfirst : v < 32
      · rw [if_pos hfirst, testBit_word bs hfirst]
      · rw [if_neg hfirst, ih (bs.drop 32) (by omega), List.getD_eq_getElem?_getD,
          List.getElem?_drop, ← List.getD_eq_getElem?_getD]
        exact congrArg (bs.getD · false) (by omega)

/-- Packing keeps the values, and nothing else is set. -/
theorem value_ofValues (bs : List Bool) (v : Nat) : (ofValues bs).value v = bs.getD v false := by
  rw [value_eq_testBit]
  show (number (pack ((bs.length + 31) / 32) bs)).testBit v = _
  by_cases hv : v < 32 * ((bs.length + 31) / 32)
  · exact testBit_pack bs hv
  · have hlt := number_lt (pack ((bs.length + 31) / 32) bs)
    have hrange : bs.length ≤ v := by omega
    rw [length_pack] at hlt
    rw [List.getD_eq_default _ _ hrange]
    exact Nat.testBit_lt_two_pow
      (Nat.lt_of_lt_of_le hlt (Nat.pow_le_pow_right (by decide) (Nat.le_of_not_lt hv)))

/-- Packing values sets no bit beyond them. -/
theorem trimmed_ofValues (bs : List Bool) : (ofValues bs).Trimmed := by
  intro v hv
  rw [value_ofValues]
  exact List.getD_eq_default _ _ hv

/-- The bits of words in order are those of the number. -/
theorem getElem?_flatMap_bits (ws : List UInt32) (hv : v < 32 * ws.length) :
    (ws.flatMap fun w => (List.range 32).map w.toNat.testBit)[v]? =
      some ((number ws).testBit v) := by
  induction ws generalizing v with
  | nil => exact absurd hv (Nat.not_lt_zero v)
  | cons w ws ih =>
      have hlength : ((List.range 32).map w.toNat.testBit).length = 32 := by
        rw [List.length_map, List.length_range]
      rw [List.flatMap_cons, testBit_number_cons]
      by_cases hfirst : v < 32
      · rw [if_pos hfirst, List.getElem?_append_left (hlength ▸ hfirst), List.getElem?_map,
          List.getElem?_range hfirst, Option.map_some]
      · rw [List.length_cons] at hv
        rw [if_neg hfirst, List.getElem?_append_right (hlength ▸ Nat.le_of_not_lt hfirst), hlength,
          ih (by omega)]

theorem size_le (p : Packed) : p.size ≤ 32 * p.words.length := by
  rw [p.length_words]
  omega

/-- The values in order are those of the variables. -/
theorem getElem?_values (hv : v < p.size) : p.values[v]? = some (p.value v) := by
  rw [values, List.getElem?_take_of_lt hv, value_eq_testBit]
  exact getElem?_flatMap_bits p.words (Nat.lt_of_lt_of_le hv p.size_le)

theorem length_values (p : Packed) : p.values.length = p.size := by
  have hlength : (p.words.flatMap fun w => (List.range 32).map w.toNat.testBit).length =
      32 * p.words.length := by
    rw [List.length_flatMap]
    simp [Nat.mul_comm]
  rw [values, List.length_take, hlength, Nat.min_eq_left p.size_le]

/-- Unpacking gives back what was packed. -/
theorem values_ofValues (bs : List Bool) : (ofValues bs).values = bs := by
  refine List.ext_getElem? fun v => ?_
  by_cases hv : v < bs.length
  · rw [getElem?_values hv, value_ofValues, List.getD_eq_getElem _ _ hv,
      List.getElem?_eq_getElem hv]
  · rw [List.getElem?_eq_none (by rw [length_values]; exact Nat.le_of_not_lt hv),
      List.getElem?_eq_none (Nat.le_of_not_lt hv)]

/-- Trimmed words are determined by the values in them. -/
theorem eq_of_values_eq (hp : p.Trimmed) (hq : q.Trimmed) (h : p.values = q.values) : p = q := by
  have hsize : p.size = q.size := by rw [← length_values, h, length_values]
  refine eq_of_number hsize ?_
  rw [← binary_value hp, ← binary_value hq, ← hsize]
  refine binary_congr fun v hv => Option.some.inj ?_
  rw [← getElem?_values hv, h, getElem?_values (hsize ▸ hv)]

end Packed

end GuardedCnf
