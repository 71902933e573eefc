import GuardedCnf.Proofs.Bytes
/-! # Line ends — a text as the sequence of its lines

    A text is a piece without line feeds, or such a piece, a line feed and a text.
    A piece before a line feed is a line, apart from a carriage return at its end;
    the last piece is a line as it is, if it is not empty.  So the lines of a text
    and a line feed go before those of whatever follows, and the line feed changes
    nothing but the last line. -/

namespace GuardedCnf.Text

variable {s : String}

/-- The number of line feeds in a text. -/
def feeds (s : String) : Nat := s.toList.count '\n'

/-- A text without the carriage return at its end, if it has one. -/
def withoutReturn (s : String) : String :=
  if s.toList.getLast? = some '\r' then String.ofList s.toList.dropLast else s

theorem withoutReturn_of_ne (h : s.toList.getLast? ≠ some '\r') : withoutReturn s = s := if_neg h

/-- A carriage return at the end is taken off, and nothing else. -/
theorem withoutReturn_append (h : s.toList.getLast? = some '\r') : withoutReturn s ++ "\r" = s := by
  obtain ⟨cs, hcs⟩ := List.getLast?_eq_some_iff.mp h
  apply String.toList_injective
  rw [withoutReturn, if_pos h, String.toList_append, String.toList_ofList, hcs,
    List.dropLast_concat]
  rfl

theorem toList_feed : "\n".toList = ['\n'] := rfl

/-- Induction over a text, from its last piece back to its first one. -/
@[elab_as_elim]
theorem piece_induction {P : String → Prop} (last : ∀ w, '\n' ∉ w.toList → P w)
    (line : ∀ w s, '\n' ∉ w.toList → P s → P (w ++ "\n" ++ s)) (s : String) : P s := by
  by_cases hfeed : '\n' ∈ s.toList
  · obtain ⟨as, bs, hs, has⟩ := List.eq_append_cons_of_mem hfeed
    have hsplit : String.ofList as ++ "\n" ++ String.ofList bs = s := by
      apply String.toList_injective
      rw [String.toList_append, String.toList_append, toList_feed, String.toList_ofList,
        String.toList_ofList, hs, List.append_assoc, List.singleton_append]
    rw [← hsplit]
    exact line _ _ (by rwa [String.toList_ofList]) (piece_induction last line (String.ofList bs))
  · exact last s hfeed
termination_by s.toList.length
decreasing_by
  rw [String.toList_ofList, hs, List.length_append, List.length_cons]
  omega

/-! ## Line feeds. -/

/-- The line feeds of two texts add up. -/
theorem feeds_append (s t : String) : feeds (s ++ t) = feeds s + feeds t := by
  rw [feeds, String.toList_append, List.count_append]
  rfl

/-- A text on one line has no line feeds. -/
theorem feeds_of_not_mem (h : '\n' ∉ s.toList) : feeds s = 0 := List.count_eq_zero.mpr h

/-- A piece and a line feed have one line feed. -/
theorem feeds_piece (h : '\n' ∉ s.toList) (t : String) : feeds (s ++ "\n" ++ t) = feeds t + 1 := by
  rw [feeds_append, feeds_append, feeds_of_not_mem h, Nat.zero_add, Nat.add_comm]
  rfl

/-! ## Lines. -/

/-- A piece is the line before its line feed. -/
theorem textLines_piece (h : '\n' ∉ s.toList) (t : String) :
    textLines (encode (s ++ "\n" ++ t)) = some (withoutReturn s) :: textLines (encode t) := by
  rw [encode_append (s ++ "\n") t]
  by_cases hend : s.toList.getLast? = some '\r'
  · have hs := withoutReturn_append hend
    rw [← hs, String.toList_append] at h
    conv_lhs => rw [← hs]
    exact textLines_append_return (fun hmem => h (List.mem_append_left _ hmem)) (encode t)
  · rw [withoutReturn_of_ne hend]
    exact textLines_append_feed h hend (encode t)

theorem textLines_empty : textLines (encode "") = [] := by
  rw [encode_empty]
  rfl

/-- The last piece is a line, if it is not empty. -/
theorem textLines_last (h : '\n' ∉ s.toList) :
    textLines (encode s) = if s = "" then [] else [some s] := by
  by_cases hs : s = ""
  · rw [if_pos hs, hs, textLines_empty]
  · rw [if_neg hs, textLines_encode hs h]

/-- A piece without line feeds, ended by one, is one line. -/
theorem textLines_ended_piece (h : '\n' ∉ s.toList) :
    textLines (encode (s ++ "\n")) = [some (withoutReturn s)] := by
  have hpiece := textLines_piece h ""
  rwa [String.append_empty, textLines_empty] at hpiece

/-- **LINES ADD UP**: the lines of a text go before those of what follows its
    line feed. -/
theorem textLines_append (s t : String) :
    textLines (encode (s ++ "\n" ++ t)) =
      textLines (encode (s ++ "\n")) ++ textLines (encode t) := by
  induction s using piece_induction with
  | last w hw => rw [textLines_piece hw, textLines_ended_piece hw, List.singleton_append]
  | line w s hw ih =>
      rw [String.append_assoc, String.append_assoc, textLines_piece hw, ← String.append_assoc, ih,
        String.append_assoc, textLines_piece hw, List.cons_append]

/-- Every line feed ends one line. -/
theorem length_textLines (s : String) :
    (textLines (encode (s ++ "\n"))).length = feeds s + 1 := by
  induction s using piece_induction with
  | last w hw => rw [textLines_ended_piece hw, feeds_of_not_mem hw, List.length_singleton]
  | line w s hw ih =>
      rw [String.append_assoc, textLines_piece hw, List.length_cons, ih, feeds_piece hw]

/-- The lines of a text are texts. -/
theorem none_not_mem_textLines (s : String) : none ∉ textLines (encode s) := by
  induction s using piece_induction with
  | last w hw =>
      rw [textLines_last hw]
      split
      · exact List.not_mem_nil
      · exact fun h => nomatch List.mem_singleton.mp h
  | line w s hw ih =>
      rw [textLines_piece hw]
      exact List.not_mem_cons_of_ne_of_not_mem (fun h => nomatch h) ih

/-- **A LINE FEED ONLY ENDS THE LAST LINE**: if there was none, it is empty, and
    otherwise it loses the carriage return at its end. -/
theorem exists_last_line (s : String) :
    ∃ before w, textLines (encode s) = before ++ (if w = "" then [] else [some w]) ∧
      textLines (encode (s ++ "\n")) = before ++ [some (withoutReturn w)] ∧
      (s.toList.getLast? ≠ some '\r' → withoutReturn w = w) := by
  induction s using piece_induction with
  | last w hw =>
      exact ⟨[], w, textLines_last hw, textLines_ended_piece hw, withoutReturn_of_ne⟩
  | line w s hw ih =>
      obtain ⟨before, v, hlines, hended, hv⟩ := ih
      refine ⟨some (withoutReturn w) :: before, v, ?_, ?_, fun hend => hv fun hlast => hend ?_⟩
      · rw [textLines_piece hw, hlines, List.cons_append]
      · rw [String.append_assoc, textLines_piece hw, hended, List.cons_append]
      · rw [String.toList_append, List.getLast?_append, hlast]
        rfl

/-- A text can be cut before any of its lines. -/
theorem exists_cut {before : List (Option String)} {line : Option String}
    {after : List (Option String)} (h : textLines (encode s) = before ++ line :: after) :
    ∃ t u, s = t ++ u ∧ feeds t = before.length ∧ textLines (encode t) = before ∧
      textLines (encode u) = line :: after := by
  induction s using piece_induction generalizing before with
  | last w hw =>
      cases before with
      | nil => exact ⟨"", w, String.empty_append.symm, rfl, textLines_empty, h⟩
      | cons first before =>
          -- the last piece has no second line
          rw [textLines_last hw] at h
          split at h
          · exact nomatch h
          · exact absurd (List.cons.inj h).2 (List.append_ne_nil_of_right_ne_nil _
              (List.cons_ne_nil _ _)).symm
  | line w s hw ih =>
      cases before with
      | nil => exact ⟨"", _, String.empty_append.symm, rfl, textLines_empty, h⟩
      | cons first before =>
          rw [textLines_piece hw, List.cons_append] at h
          obtain ⟨rfl, hrest⟩ := List.cons.inj h
          obtain ⟨t, u, rfl, hfeeds, ht, hu⟩ := ih hrest
          refine ⟨w ++ "\n" ++ t, u, (String.append_assoc ..).symm, ?_, ?_, hu⟩
          · rw [feeds_piece hw, hfeeds, List.length_cons]
          · rw [textLines_piece hw, ht]

end GuardedCnf.Text
