import GuardedCnf.Proofs.LineEnds
import GuardedCnf.Proofs.Numerals
/-! # Lines of words — what a report is read as

    A report is read line by line, and each line word by word, so that all that
    a report can say is in the words of its lines.  Blanks around words have no
    meaning.  So lines can be joined with line feeds and cut again: carriage
    returns before the line feeds and an empty last line are lost, but no
    words. -/

namespace GuardedCnf.Text

variable {c : Char} {cs : List Char} {s : String}

/-- The lines of a text. -/
def linesOf (s : String) : List String := (textLines (encode s)).filterMap id

/-- The words of the lines of a text. -/
def wordLines (s : String) : List (List String) := (linesOf s).map wordsOf

/-! ## Lines. -/

theorem textLines_eq_map_linesOf (s : String) : textLines (encode s) = (linesOf s).map some := by
  have hsome : ∀ lines : List (Option String), none ∉ lines →
      lines = (lines.filterMap id).map some := by
    intro lines h
    induction lines with
    | nil => rfl
    | cons line lines ih =>
        obtain ⟨hline, hlines⟩ := List.ne_and_not_mem_of_not_mem_cons h
        cases line with
        | none => exact absurd rfl hline
        | some t => exact congrArg (some t :: ·) (ih hlines)
  exact hsome _ (none_not_mem_textLines s)

theorem linesOf_piece (h : '\n' ∉ s.toList) (t : String) :
    linesOf (s ++ "\n" ++ t) = withoutReturn s :: linesOf t := by
  rw [linesOf, textLines_piece h]
  rfl

theorem linesOf_last (h : '\n' ∉ s.toList) : linesOf s = if s = "" then [] else [s] := by
  rw [linesOf, textLines_last h]
  split <;> rfl

theorem feed_not_mem_withoutReturn (h : '\n' ∉ s.toList) : '\n' ∉ (withoutReturn s).toList := by
  unfold withoutReturn
  split
  · rw [String.toList_ofList]
    exact fun hmem => h ((List.dropLast_sublist _).subset hmem)
  · exact h

/-- A line has no line feed. -/
theorem feed_not_mem_of_mem_linesOf {t : String} (h : t ∈ linesOf s) : '\n' ∉ t.toList := by
  induction s using piece_induction with
  | last w hw =>
      rw [linesOf_last hw] at h
      split at h
      · exact nomatch h
      · rwa [List.mem_singleton.mp h]
  | line w s hw ih =>
      rw [linesOf_piece hw] at h
      rcases List.mem_cons.mp h with rfl | h
      · exact feed_not_mem_withoutReturn hw
      · exact ih h

/-- Lines that are joined by line feeds are cut again, if none is empty. -/
theorem linesOf_eq {ss : List String} (hs : s = "\n".intercalate ss)
    (h : ∀ t ∈ ss, t ≠ "" ∧ Unbroken t) : linesOf s = ss := by
  have hmap := textLines_intercalate h
  rw [← hs, textLines_eq_map_linesOf] at hmap
  exact List.map_injective_iff.mpr (fun _ _ => Option.some.inj) hmap

/-! ## Words. -/

theorem words_cons_of_not_blank (h : isBlank c = false) (cs : List Char) :
    ∃ w ws, words (c :: cs) = (c :: w) :: ws := by
  have hnot : ¬isBlank c = true := Bool.eq_false_iff.mp h
  rw [words.eq_def]
  dsimp only
  rw [if_neg hnot]
  cases cs with
  | nil => exact ⟨_, _, rfl⟩
  | cons d cs =>
      dsimp only
      split
      · exact ⟨_, _, rfl⟩
      · split <;> exact ⟨_, _, rfl⟩

/-- A blank at the end is no part of a word. -/
theorem words_append_singleton (h : isBlank c = true) (cs : List Char) :
    words (cs ++ [c]) = words cs := by
  induction cs with
  | nil => exact words_cons_blank h []
  | cons d cs ih =>
      rw [List.cons_append, words.eq_def, words.eq_def (d :: cs)]
      dsimp only
      rw [ih]
      cases cs with
      | nil =>
          rw [List.nil_append]
          dsimp only
          rw [if_pos h]
          rfl
      | cons e cs => rfl

theorem wordsOf_withoutReturn (s : String) : wordsOf (withoutReturn s) = wordsOf s := by
  by_cases hend : s.toList.getLast? = some '\r'
  · conv_rhs => rw [← withoutReturn_append hend]
    rw [wordsOf, wordsOf, String.toList_append]
    exact congrArg _ (words_append_singleton (by decide) _).symm
  · rw [withoutReturn_of_ne hend]

/-- **NO WORDS ARE LOST** when lines are joined by line feeds and cut again; a
    line without words may be, at the end. -/
theorem exists_wordLines_intercalate {ss : List String} (h : ∀ s ∈ ss, '\n' ∉ s.toList) :
    ∃ k, wordLines ("\n".intercalate ss) ++ List.replicate k [] = ss.map wordsOf := by
  induction ss with
  | nil =>
      refine ⟨0, ?_⟩
      rw [String.intercalate_nil, wordLines, linesOf_last (by decide)]
      rfl
  | cons s ss ih =>
      obtain ⟨hs, hss⟩ := List.forall_mem_cons.mp h
      cases ss with
      | nil =>
          rw [String.intercalate_singleton, wordLines, linesOf_last hs]
          -- an empty last line is none, and had no words anyway
          by_cases hempty : s = ""
          · exact ⟨1, by rw [if_pos hempty, hempty]; rfl⟩
          · exact ⟨0, by rw [if_neg hempty]; rfl⟩
      | cons t ss =>
          obtain ⟨k, hk⟩ := ih hss
          refine ⟨k, ?_⟩
          rw [String.intercalate_cons_cons, wordLines, linesOf_piece hs, List.map_cons,
            wordsOf_withoutReturn, List.cons_append, ← wordLines, hk, List.map_cons (a := s)]

end GuardedCnf.Text
