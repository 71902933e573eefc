import GuardedCnf.Literal
import GuardedCnf.Text.Blank
import GuardedCnf.Text.Decimal
import GuardedCnf.Proofs.Bytes
import Mathlib.Algebra.Group.Nat.Defs
/-! # Numerals — numbers and words are read back

    The written form of a number has only digits, whose value is the number, so
    every reader of numbers reads it back within its bounds.  Words with a blank
    between them are the words of the text. -/

namespace GuardedCnf.Text

variable {c : Char} {cs w rest : List Char} {n limit : Nat} {overflow : NumberError}

/-! ## Digits. -/

/-- The value of a decimal digit is its distance from `0`. -/
theorem digit?_of_isDigit (h : c.isDigit = true) : digit? c = some (c.toNat - 48) := if_pos h

/-- Digits that follow make a number no smaller, so that a number too large stays so. -/
theorem le_ofDigitChars (n : Nat) (cs : List Char) : n ≤ Nat.ofDigitChars 10 cs n := by
  induction cs generalizing n with
  | nil => exact Nat.le_refl n
  | cons c cs ih =>
      rw [Nat.ofDigitChars_cons]
      exact Nat.le_trans (by omega) (ih _)

/-- Digits are read as their value, up to the limit. -/
theorem readDigits_eq (hdigits : ∀ c ∈ cs, c.isDigit = true)
    (hlimit : Nat.ofDigitChars 10 cs n ≤ limit) :
    readDigits limit overflow n cs = .ok (Nat.ofDigitChars 10 cs n) := by
  induction cs generalizing n with
  | nil => rfl
  | cons c cs ih =>
      obtain ⟨hc, hcs⟩ := List.forall_mem_cons.mp hdigits
      rw [Nat.ofDigitChars_cons] at hlimit ⊢
      have hfits : ¬limit < 10 * n + (c.toNat - 48) :=
        Nat.not_lt.mpr (Nat.le_trans (le_ofDigitChars _ cs) hlimit)
      rw [readDigits, digit?_of_isDigit hc]
      exact (if_neg hfits).trans (ih hcs hlimit)

/-- Digits alone are read as the number they write. -/
theorem readSpaced_eq (hdigits : ∀ c ∈ cs, c.isDigit = true) :
    readSpaced n cs = .ok (Nat.ofDigitChars 10 cs n) := by
  induction cs generalizing n with
  | nil => rfl
  | cons c cs ih =>
      obtain ⟨hc, hcs⟩ := List.forall_mem_cons.mp hdigits
      have hunderscore : c ≠ '_' := by
        rintro rfl
        exact nomatch hc
      rw [Nat.ofDigitChars_cons, readSpaced, digit?_of_isDigit hc]
      · exact ih hcs
      · exact fun h => hunderscore h

/-! ## Numbers. -/

theorem toList_toString (n : Nat) : (toString n).toList = Nat.toDigits 10 n := Nat.toList_repr

theorem isDigit_of_mem_toString (h : c ∈ (toString n).toList) : c.isDigit = true :=
  Nat.isDigit_of_mem_toDigits (by decide) (by decide) (toList_toString n ▸ h)

/-- The written form of a number begins with a digit, and its digits have the
    value of the number. -/
theorem exists_digits (n : Nat) : ∃ c cs, (toString n).toList = c :: cs ∧ c.isDigit = true ∧
    (∀ d ∈ c :: cs, d.isDigit = true) ∧ Nat.ofDigitChars 10 (c :: cs) 0 = n := by
  have hdigits : ∀ d ∈ (toString n).toList, d.isDigit = true := fun d => isDigit_of_mem_toString
  have hvalue := ofDigitChars_toString n
  cases hlist : (toString n).toList with
  | nil => exact absurd (toList_toString n ▸ hlist) Nat.toDigits_ne_nil
  | cons c cs =>
      rw [hlist] at hdigits hvalue
      exact ⟨c, cs, rfl, hdigits c (List.mem_cons_self ..), hdigits, hvalue⟩

/-- A number below 2^64 is read back. -/
theorem readNat64_toString (h : n < 2 ^ 64) : readNat64 (toString n) = .ok n := by
  obtain ⟨c, cs, hlist, hc, hdigits, hvalue⟩ := exists_digits n
  have hplus : c ≠ '+' := by
    rintro rfl
    exact nomatch hc
  have hlimit : Nat.ofDigitChars 10 (c :: cs) 0 ≤ Nat.pow 2 64 - 1 :=
    hvalue.symm ▸ Nat.le_sub_one_of_lt h
  rw [readNat64, hlist]
  split
  · next heq => exact nomatch heq
  · next heq => exact absurd (List.cons.inj heq).1 hplus
  · rw [readDigits_eq hdigits hlimit, hvalue]

/-- Without a bound every number is read back. -/
theorem readNatural_toString (n : Nat) : readNatural (toString n) = .ok n := by
  obtain ⟨c, cs, hlist, hc, hdigits, hvalue⟩ := exists_digits n
  have hplus : ∀ ds, c :: cs ≠ '+' :: ds := by
    rintro ds ⟨⟩
    exact nomatch hc
  have hunderscore : ∀ ds, c :: cs ≠ '_' :: ds := by
    rintro ds ⟨⟩
    exact nomatch hc
  have hread : readNatural (toString n) = readSpaced 0 (c :: cs) := by
    unfold readNatural
    rw [hlist]
    dsimp only
    -- what is read and what is left of a sign are decided by the same character
    split
    · next heq =>
        split at heq
        · exact absurd ‹_› (hplus _)
        · exact absurd ‹_› (hplus _)
        · exact nomatch heq
    · next heq =>
        split at heq
        · exact absurd ‹_› (hplus _)
        · exact absurd ‹_› (hplus _)
        · exact absurd heq (hunderscore _)
    · split
      · exact absurd ‹_› (hplus _)
      · exact absurd ‹_› (hplus _)
      · rfl
  rw [hread, readSpaced_eq hdigits, hvalue]

/-- An integer whose size is below 2^63 is read back, with its sign. -/
theorem readInt64_toString {k : Int} (h : k.natAbs < 2 ^ 63) : readInt64 (toString k) = .ok k := by
  cases k with
  | ofNat m =>
      obtain ⟨c, cs, hlist, hc, hdigits, hvalue⟩ := exists_digits m
      have hplus : c ≠ '+' := by
        rintro rfl
        exact nomatch hc
      have hminus : c ≠ '-' := by
        rintro rfl
        exact nomatch hc
      have hlimit : Nat.ofDigitChars 10 (c :: cs) 0 ≤ Nat.pow 2 63 - 1 :=
        hvalue.symm ▸ Nat.le_sub_one_of_lt h
      have htext : toString (Int.ofNat m) = toString m := rfl
      rw [readInt64, htext, hlist]
      -- the first character is a digit, so no sign is read
      split
      · next heq => exact nomatch heq
      · next heq => exact absurd (List.cons.inj heq).1 hplus
      · next heq => exact absurd (List.cons.inj heq).1 hminus
      · rw [readDigits_eq hdigits hlimit, hvalue]
        rfl
  | negSucc m =>
      obtain ⟨c, cs, hlist, hc, hdigits, hvalue⟩ := exists_digits (m + 1)
      have hlimit : Nat.ofDigitChars 10 (c :: cs) 0 ≤ Nat.pow 2 63 :=
        hvalue.symm ▸ Nat.le_of_lt h
      have htext : (toString (Int.negSucc m)).toList = '-' :: c :: cs := by
        rw [← hlist]
        exact String.toList_append
      rw [readInt64, htext]
      simp only [readSigned, List.isEmpty_cons, Bool.false_eq_true, if_false,
        readDigits_eq hdigits hlimit, hvalue]
      rfl

/-! ## Words. -/

theorem words_cons_blank (h : isBlank c = true) (cs : List Char) : words (c :: cs) = words cs :=
  (words.eq_def (c :: cs)).trans (if_pos h)

/-- A word at the front, which a blank or the end of the text ends. -/
theorem words_append (hne : w ≠ []) (hw : ∀ c ∈ w, isBlank c = false)
    (hrest : ∀ c ∈ rest.head?, isBlank c = true) : words (w ++ rest) = w :: words rest := by
  induction w with
  | nil => exact absurd rfl hne
  | cons c w ih =>
      obtain ⟨hc, hw⟩ := List.forall_mem_cons.mp hw
      have hnot : ¬isBlank c = true := Bool.eq_false_iff.mp hc
      rw [List.cons_append, words.eq_def]
      refine (if_neg hnot).trans ?_
      -- the word ends where a blank follows, or nothing
      cases w with
      | nil =>
          cases rest with
          | nil => rfl
          | cons d rest =>
              rw [List.nil_append]
              exact if_pos (hrest d rfl)
      | cons d w =>
          have hd : ¬isBlank d = true := Bool.eq_false_iff.mp (hw d (List.mem_cons_self ..))
          rw [ih (List.cons_ne_nil _ _) hw]
          exact if_neg hd

/-- A text without blanks is its only word. -/
theorem words_singleton (hne : w ≠ []) (hw : ∀ c ∈ w, isBlank c = false) : words w = [w] := by
  have h : words (w ++ []) = w :: words [] := words_append hne hw fun c hc => nomatch hc
  rwa [List.append_nil] at h

/-- A word before a blank. -/
theorem words_append_blank (hne : w ≠ []) (hw : ∀ c ∈ w, isBlank c = false)
    (hc : isBlank c = true) (rest : List Char) : words (w ++ c :: rest) = w :: words rest := by
  rw [words_append hne hw, words_cons_blank hc]
  rintro _ ⟨⟩
  exact hc

/-- A text that is one word. -/
def IsWord (s : String) : Prop := s ≠ "" ∧ ∀ c ∈ s.toList, isBlank c = false

instance (s : String) : Decidable (IsWord s) :=
  haveI : Decidable (∀ c ∈ s.toList, isBlank c = false) :=
    List.decidableBAll (fun c => isBlank c = false) s.toList
  inferInstanceAs (Decidable (s ≠ "" ∧ ∀ c ∈ s.toList, isBlank c = false))

theorem IsWord.toList_ne_nil {s : String} (h : IsWord s) : s.toList ≠ [] :=
  fun hnil => h.1 (String.toList_eq_nil_iff.mp hnil)

/-- A word does not break a line. -/
theorem IsWord.unbroken {s : String} (h : IsWord s) : Unbroken s := by
  intro c hc
  have hblank := h.2 c hc
  constructor
  · rintro rfl
    exact nomatch hblank
  · rintro rfl
    exact nomatch hblank

/-- Words that are joined by blanks are cut again. -/
theorem wordsOf_intercalate {ss : List String} (h : ∀ s ∈ ss, IsWord s) :
    wordsOf (" ".intercalate ss) = ss := by
  unfold wordsOf
  induction ss with
  | nil => rfl
  | cons s ss ih =>
      obtain ⟨hs, hrest⟩ := List.forall_mem_cons.mp h
      cases ss with
      | nil =>
          rw [String.intercalate_singleton, words_singleton hs.toList_ne_nil hs.2,
            List.map_singleton, String.ofList_toList]
      | cons t ss =>
          have hlist : (" ".intercalate (s :: t :: ss)).toList
              = s.toList ++ ' ' :: (" ".intercalate (t :: ss)).toList := by
            rw [String.intercalate_cons_cons, String.toList_append, String.toList_append,
              List.append_assoc]
            rfl
          rw [hlist, words_append_blank hs.toList_ne_nil hs.2 (by decide), List.map_cons,
            ih hrest, String.ofList_toList]

/-- Words with spaces between them stay on one line. -/
theorem unbroken_intercalate {ss : List String} (h : ∀ s ∈ ss, IsWord s) :
    Unbroken (" ".intercalate ss) := by
  induction ss with
  | nil => exact fun c hc => nomatch hc
  | cons s ss ih =>
      obtain ⟨hs, hrest⟩ := List.forall_mem_cons.mp h
      cases ss with
      | nil =>
          rw [String.intercalate_singleton]
          exact hs.unbroken
      | cons t ss =>
          have hspace : Unbroken " " := by decide
          rw [String.intercalate_cons_cons]
          exact (hs.unbroken.append hspace).append (ih hrest)

/-- Where the digits stand among the characters. -/
theorem bounds_of_isDigit (h : c.isDigit = true) : 48 ≤ c.toNat ∧ c.toNat ≤ 57 := by
  simp only [Char.isDigit, Bool.and_eq_true, decide_eq_true_eq, ge_iff_le,
    UInt32.le_iff_toNat_le] at h
  exact h

theorem not_isBlank_of_isDigit (h : c.isDigit = true) : isBlank c = false := by
  obtain ⟨hlow, hhigh⟩ := bounds_of_isDigit h
  simp only [isBlank, Bool.or_eq_false_iff, Bool.and_eq_false_iff, decide_eq_false_iff_not,
    beq_eq_false_iff_ne]
  omega

theorem not_isBlank_of_mem_toString (h : c ∈ (toString n).toList) : isBlank c = false :=
  not_isBlank_of_isDigit (isDigit_of_mem_toString h)

theorem toList_toString_ne_nil (n : Nat) : (toString n).toList ≠ [] :=
  toList_toString n ▸ Nat.toDigits_ne_nil

/-- A written number is one word. -/
theorem isWord_toString (n : Nat) : IsWord (toString n) :=
  ⟨fun h => toList_toString_ne_nil n (String.toList_eq_nil_iff.mpr h),
    fun _ => not_isBlank_of_mem_toString⟩

theorem isAscii_toString (n : Nat) : IsAscii (toString n) := by
  intro c hc
  have hhigh := (bounds_of_isDigit (isDigit_of_mem_toString hc)).2
  omega

/-- A written integer is one word, its sign included. -/
theorem isWord_toString_int (k : Int) : IsWord (toString k) := by
  cases k with
  | ofNat m => exact isWord_toString m
  | negSucc m =>
      have hlist : (toString (Int.negSucc m)).toList = '-' :: (toString (m + 1)).toList :=
        String.toList_append
      constructor
      · intro h
        rw [h] at hlist
        exact nomatch hlist
      · rw [hlist, List.forall_mem_cons]
        exact ⟨by decide, (isWord_toString (m + 1)).2⟩

end GuardedCnf.Text
