import GuardedCnf.Format.Registry
import GuardedCnf.Proofs.Lexemes
import GuardedCnf.Proofs.LineEnds
import GuardedCnf.Proofs.TextLines
/-! # Line by line — a text is read as the sequence of its lines

    Reading some lines and then others is reading all of them: the map goes from
    the first ones to the others, and so do the numbers of lines.  A carriage
    return at the end of a line is a blank among others, so the first of two texts
    is read in the same way whether it ends there or goes on after a line feed.  A
    line that is no expression is refused before any of its identifiers is
    declared. -/

namespace GuardedCnf

/-- The number of the line that is refused, if it is one line. -/
def ReadError.line? : ReadError → Option Nat
  | .line i _ => some i
  | .undeclared i _ => some i
  | _ => none

/-- The failure of a text that has `n` more lines at its front. -/
def ReadError.later (n : Nat) : ReadError → ReadError
  | .line i e => .line (i + n) e
  | .undeclared i e => .undeclared (i + n) e
  | e => e

/-- An error that is met later is one of a later line. -/
theorem ReadError.line?_later (n : Nat) (e : ReadError) :
    (e.later n).line? = e.line?.map (· + n) := by
  cases e <;> rfl

/-- A blank at the end of a line does not change what is read. -/
theorem Expr.ofLine_append_space {c : Char} (hc : Token.isSpace c = true) {line : List Char}
    {e : Expr} : Expr.ofLine (line ++ [c]) = .ok e ↔ Expr.ofLine line = .ok e := by
  have htokens := Token.ofText_append_space hc line
  rw [Token.ofText, Token.ofText] at htokens
  rw [Expr.ofLine_ok_iff, Expr.ofLine_ok_iff, htokens]

namespace Format.Text

open GuardedCnf.Text

variable {vars vars' : VariableMap} {i : Nat} {lines : List (Option String)}

/-! ## One after the other. -/

/-- Lines are read one after the other. -/
theorem readLines_append (i : Nat) (before after : List (Option String)) :
    readLines i (before ++ after) = do
      let cs ← readLines i before
      let ds ← readLines (i + before.length) after
      return cs ++ ds := by
  induction before generalizing i with
  | nil =>
      rw [readLines, pure_bind]
      exact (bind_pure _).symm
  | cons line before ih =>
      cases line with
      | none => rfl
      | some line =>
          rw [List.cons_append, readLines, readLines, ih, List.length_cons, Nat.add_right_comm]
          simp only [bind_assoc, pure_bind, List.append_assoc]
          rfl

/-- The number of a line matters to its error only. -/
theorem readLine_later (i n : Nat) (line : String) :
    readLine (i + n) line = (readLine i line).adaptExcept (.later n) := by
  by_cases hblank : (content line).all isBlank = true
  · rw [readLine_of_blank hblank, readLine_of_blank hblank]
    rfl
  · cases hread : Expr.ofLine (content line) with
    | error e =>
        rw [readLine_of_error hblank hread, readLine_of_error hblank hread]
        rfl
    | ok e =>
        rw [readLine_of_ok hblank hread, readLine_of_ok hblank hread, state_adapt_bind,
          state_adapt_adapt]
        rfl

/-- Lines that come later are refused later, and nothing else changes. -/
theorem readLines_later (i n : Nat) (lines : List (Option String)) :
    readLines (i + n) lines = (readLines i lines).adaptExcept (.later n) := by
  induction lines generalizing i with
  | nil => rfl
  | cons line lines ih =>
      cases line with
      | none => rfl
      | some line =>
          rw [readLines, readLines, readLine_later, Nat.add_right_comm, ih, state_adapt_bind]
          simp only [state_adapt_bind]
          rfl

/-! ## Line ends. -/

/-- A reading without the wording of its failures: only the number of the line
    is kept. -/
def placed {α : Type} (p : Parsing α) : EStateM (Option Nat) VariableMap α :=
  p.adaptExcept ReadError.line?

/-- A carriage return at the end of a line belongs to a comment, or to its content. -/
theorem content_append (line : String) :
    content (line ++ "\r") = content line ∨ content (line ++ "\r") = content line ++ ['\r'] := by
  rw [content, String.toList_append, List.takeWhile_append]
  split
  · next hlength =>
      have hall := (List.takeWhile_prefix (· != '#') (l := line.toList)).eq_of_length hlength
      rw [content, hall]
      exact Or.inr rfl
  · exact Or.inl rfl

/-- A carriage return at the end of a line only matters to the wording of a
    failure. -/
theorem placed_readLine_append (i : Nat) (line : String) :
    placed (readLine i (line ++ "\r")) = placed (readLine i line) := by
  rcases content_append line with hcontent | hcontent
  · -- the carriage return belongs to the comment
    rw [readLine, readLine, hcontent]
  · have hall : (content (line ++ "\r")).all isBlank = (content line).all isBlank := by
      rw [hcontent, List.all_append]
      exact Bool.and_true _
    have hread {e : Expr} :
        Expr.ofLine (content (line ++ "\r")) = .ok e ↔ Expr.ofLine (content line) = .ok e := by
      rw [hcontent]
      exact Expr.ofLine_append_space rfl
    by_cases hblank : (content line).all isBlank = true
    · rw [readLine_of_blank hblank, readLine_of_blank (hall.trans hblank)]
    · have hblank' : ¬(content (line ++ "\r")).all isBlank = true := by rwa [hall]
      cases h : Expr.ofLine (content line) with
      | ok e => rw [readLine_of_ok hblank h, readLine_of_ok hblank' (hread.mpr h)]
      | error err =>
          -- the two errors may quote different texts
          cases h' : Expr.ofLine (content (line ++ "\r")) with
          | ok e => cases h.symm.trans (hread.mp h')
          | error err' =>
              rw [readLine_of_error hblank h, readLine_of_error hblank' h']
              rfl

/-- Whether a line ends with a carriage return matters to the wording of an error only.
    -/
theorem placed_readLine_withoutReturn (i : Nat) (line : String) :
    placed (readLine i (withoutReturn line)) = placed (readLine i line) := by
  by_cases hend : line.toList.getLast? = some '\r'
  · conv_rhs => rw [← withoutReturn_append hend]
    exact (placed_readLine_append i _).symm
  · rw [withoutReturn_of_ne hend]

/-- A single line makes at most one conjunct. -/
theorem readLines_singleton (i : Nat) (line : String) :
    readLines i [some line] = do return (← readLine i line).toList := by
  simp only [readLines, pure_bind, List.append_nil]

/-- **ENDING THE LAST LINE DOES NOT MATTER**: a text is read in the same way
    whether a line feed follows or not, and with the same failure if it does not
    end with a carriage return. -/
theorem placed_readLines_ended (i : Nat) (s : String) :
    placed (readLines i (textLines (encode (s ++ "\n")))) =
      placed (readLines i (textLines (encode s))) ∧
    (s.toList.getLast? ≠ some '\r' →
      readLines i (textLines (encode (s ++ "\n"))) = readLines i (textLines (encode s))) := by
  -- all lines but the last are the same
  obtain ⟨before, w, hlines, hended, hw⟩ := exists_last_line s
  rw [hlines, hended, readLines_append, readLines_append]
  by_cases hempty : w = ""
  · -- an empty line has no conjunct
    subst hempty
    exact ⟨rfl, fun _ => rfl⟩
  · rw [if_neg hempty]
    refine ⟨?_, fun hend => by rw [hw hend]⟩
    have hlast : placed (readLines (i + before.length) [some (withoutReturn w)]) =
        placed (readLines (i + before.length) [some w]) := by
      have hline := placed_readLine_withoutReturn (i + before.length) w
      rw [placed, placed] at hline
      rw [readLines_singleton, readLines_singleton, placed, placed, state_adapt_bind,
        state_adapt_bind, hline]
    rw [placed, placed] at hlast
    simp only [placed, state_adapt_bind, hlast]

/-! ## Failures. -/

/-- A line is refused because it is no expression, with the map as it was, or because
    its names cannot be declared. -/
theorem readLine_error {line : String} {err : ReadError}
    (h : (readLine i line).run vars = .error err vars') :
    (∃ e, err = .line i e ∧ ¬(content line).all isBlank = true ∧
      Expr.ofLine (content line) = .error e ∧ vars' = vars) ∨
    ∃ e, err = .undeclared i e := by
  by_cases hblank : (content line).all isBlank = true
  · rw [readLine_of_blank hblank] at h
    exact nomatch h
  · cases hread : Expr.ofLine (content line) with
    | error e =>
        rw [readLine_of_error hblank hread] at h
        injection h with herr hvars
        exact Or.inl ⟨e, herr.symm, hblank, rfl, hvars.symm⟩
    | ok e =>
        rw [readLine_of_ok hblank hread] at h
        rcases state_bind_error.mp h with hlower | ⟨f, t, -, hpure⟩
        · obtain ⟨e', -, herr⟩ := state_adapt_error.mp hlower
          exact Or.inr ⟨e', herr.symm⟩
        · exact nomatch hpure

/-- Lines of texts are refused at one of them. -/
theorem readLines_error {err : ReadError} (hlines : none ∉ lines)
    (h : (readLines i lines).run vars = .error err vars') : ∃ k, err.line? = some k := by
  induction lines generalizing i vars with
  | nil => exact nomatch h
  | cons line lines ih =>
      cases line with
      | none => exact absurd (List.mem_cons_self ..) hlines
      | some line =>
          rcases state_bind_error.mp h with hline | ⟨c, t, -, h⟩
          · rcases readLine_error hline with ⟨e, rfl, -⟩ | ⟨e, rfl⟩ <;> exact ⟨i, rfl⟩
          · rcases state_bind_error.mp h with hrest | ⟨cs, u, -, hpure⟩
            · exact ih (List.not_mem_of_not_mem_cons hlines) hrest
            · exact nomatch hpure

/-- **A LINE THAT IS NO EXPRESSION DECLARES NOTHING**: it leaves the map that the
    lines before it left. -/
theorem readLines_refused {k : Nat} {e : LineError}
    (h : (readLines i lines).run vars = .error (.line k e) vars') :
    ∃ before line after cs, lines = before ++ some line :: after ∧ k = i + before.length ∧
      (readLines i before).run vars = .ok cs vars' ∧ ¬(content line).all isBlank = true ∧
      Expr.ofLine (content line) = .error e := by
  induction lines generalizing i vars with
  | nil => exact nomatch h
  | cons line lines ih =>
      cases line with
      | none => exact nomatch h
      | some line =>
          rcases state_bind_error.mp h with hline | ⟨c, t, hline, h⟩
          · -- the first line is refused, and if it is no expression before it declares anything
            rcases readLine_error hline with ⟨e', herr, hblank, hread, rfl⟩ | ⟨e', herr⟩
            · obtain ⟨rfl, rfl⟩ := ReadError.line.inj herr
              exact ⟨[], line, lines, [], rfl, rfl, rfl, hblank, hread⟩
            · exact nomatch herr
          · rcases state_bind_error.mp h with hrest | ⟨cs, u, -, hpure⟩
            · -- the refused line is among the others, which are read with the map of the first
              obtain ⟨before, line', after, cs, rfl, rfl, hbefore, hrefused⟩ := ih hrest
              refine ⟨some line :: before, line', after, c.toList ++ cs, rfl, ?_, ?_, hrefused⟩
              · rw [List.length_cons]
                omega
              · exact state_bind_ok.mpr ⟨c, t, hline, state_bind_ok.mpr ⟨cs, vars', hbefore, rfl⟩⟩
            · exact nomatch hpure

/-! ## Texts. -/

/-- Reads a text. -/
def read (s : String) : Parsing Formula := Format.text.parse (.ok (encode s))

variable {s t : String} {f : Formula} {err : ReadError}

/-- A text is read as the conjunction of its lines. -/
theorem read_ok_iff : (read s).run vars = .ok f vars' ↔
    ∃ cs, (readLines 1 (textLines (encode s))).run vars = .ok cs vars' ∧ f = .and cs := by
  refine state_bind_ok.trans (exists_congr fun cs => ?_)
  constructor
  · rintro ⟨u, hlines, hpure⟩
    obtain ⟨rfl, rfl⟩ := state_pure_ok.mp hpure
    exact ⟨hlines, rfl⟩
  · rintro ⟨hlines, rfl⟩
    exact ⟨vars', hlines, rfl⟩

/-- A text is refused as its lines are. -/
theorem read_error_iff : (read s).run vars = .error err vars' ↔
    (readLines 1 (textLines (encode s))).run vars = .error err vars' := by
  refine state_bind_error.trans ⟨fun h => ?_, Or.inl⟩
  rcases h with hlines | ⟨cs, u, -, hpure⟩
  · exact hlines
  · exact nomatch hpure

/-- The lines of a text and then those of another are read one after the
    other. -/
theorem readLines_followed (s t : String) :
    readLines 1 (textLines (encode (s ++ "\n" ++ t))) = do
      let cs ← readLines 1 (textLines (encode (s ++ "\n")))
      let ds ← (readLines 1 (textLines (encode t))).adaptExcept (.later (feeds s + 1))
      return cs ++ ds := by
  rw [textLines_append, readLines_append, length_textLines, readLines_later]

/-- A line end after the last line changes nothing about lines that are read. -/
theorem readLines_ended_ok {cs : List Formula}
    (h : (readLines i (textLines (encode s))).run vars = .ok cs vars') :
    (readLines i (textLines (encode (s ++ "\n")))).run vars = .ok cs vars' := by
  have hplaced : (placed (readLines i (textLines (encode s)))).run vars = .ok cs vars' :=
    state_adapt_ok.mpr h
  rw [← (placed_readLines_ended i s).1] at hplaced
  exact state_adapt_ok.mp hplaced

/-- A line end after the last line leaves an error on its line, and in its wording
    unless it follows a carriage return. -/
theorem readLines_ended_error
    (h : (readLines i (textLines (encode s))).run vars = .error err vars') :
    ∃ err', (readLines i (textLines (encode (s ++ "\n")))).run vars = .error err' vars' ∧
      err'.line? = err.line? ∧ (s.toList.getLast? ≠ some '\r' → err' = err) := by
  by_cases hend : s.toList.getLast? = some '\r'
  · have hplaced : (placed (readLines i (textLines (encode s)))).run vars =
        .error err.line? vars' := state_adapt_error.mpr ⟨err, h, rfl⟩
    rw [← (placed_readLines_ended i s).1] at hplaced
    obtain ⟨err', h', hline⟩ := state_adapt_error.mp hplaced
    exact ⟨err', h', hline, fun hne => absurd hend hne⟩
  · rw [(placed_readLines_ended i s).2 hend]
    exact ⟨err, h, rfl, fun _ => rfl⟩

/-- **A TEXT IS READ LINE BY LINE**, also when it is refused.  Let a text be
    followed by a line feed and another text.  If the first is refused, so are both
    together, at the same line and with the same map.  If the first is accepted, the
    second is read with the map that it left: the conjuncts of both are joined, or
    the second is refused as it is alone, as many lines later as the first has.  In
    any text, a line that is no expression leaves the map that the text before the
    line leaves. -/
theorem texts_are_read_line_by_line (s t : String) (vars : VariableMap) :
    (∀ err vars', (read s).run vars = .error err vars' →
      ∃ k err', err.line? = some k ∧ err'.line? = some k ∧
        (s.toList.getLast? ≠ some '\r' → err' = err) ∧
        (read (s ++ "\n" ++ t)).run vars = .error err' vars') ∧
    (∀ f vars', (read s).run vars = .ok f vars' → ∃ cs, f = .and cs ∧
      (∀ g last, (read t).run vars' = .ok g last → ∃ ds, g = .and ds ∧
        (read (s ++ "\n" ++ t)).run vars = .ok (.and (cs ++ ds)) last) ∧
      (∀ err last, (read t).run vars' = .error err last →
        ∃ k, err.line? = some k ∧ (err.later (feeds s + 1)).line? = some (k + (feeds s + 1)) ∧
          (read (s ++ "\n" ++ t)).run vars = .error (err.later (feeds s + 1)) last)) ∧
    (∀ k e vars', (read s).run vars = .error (.line k e) vars' →
      ∃ before rest f line after, s = before ++ rest ∧ k = feeds before + 1 ∧
        (read before).run vars = .ok f vars' ∧ textLines (encode rest) = some line :: after ∧
        ¬(content line).all isBlank = true ∧ Expr.ofLine (content line) = .error e) := by
  refine ⟨fun err vars' h => ?_, fun f vars' h => ?_, fun k e vars' h => ?_⟩
  · -- the text after it does not come into play, but the line end before it may
    have h := read_error_iff.mp h
    obtain ⟨k, hk⟩ := readLines_error (none_not_mem_textLines s) h
    obtain ⟨err', hended, hline, hsame⟩ := readLines_ended_error h
    refine ⟨k, err', hk, hline.trans hk, hsame, read_error_iff.mpr ?_⟩
    rw [readLines_followed]
    exact state_bind_of_error hended
  · -- the second text goes on from the map that the first has left
    obtain ⟨cs, hcs, rfl⟩ := read_ok_iff.mp h
    have hended := readLines_ended_ok hcs
    refine ⟨cs, rfl, fun g last hg => ?_, fun err last herr => ?_⟩
    · obtain ⟨ds, hds, rfl⟩ := read_ok_iff.mp hg
      refine ⟨ds, rfl, read_ok_iff.mpr ⟨cs ++ ds, ?_, rfl⟩⟩
      rw [readLines_followed, state_bind_of_ok hended]
      exact state_bind_of_ok (state_adapt_ok.mpr hds)
    · have herr := read_error_iff.mp herr
      obtain ⟨k, hk⟩ := readLines_error (none_not_mem_textLines t) herr
      refine ⟨k, hk, by rw [ReadError.line?_later, hk]; rfl, read_error_iff.mpr ?_⟩
      rw [readLines_followed, state_bind_of_ok hended]
      exact state_bind_of_error (state_adapt_error.mpr ⟨err, herr, rfl⟩)
  · -- the text is cut before the line that is refused
    obtain ⟨lines, line, after, cs, hlines, hk, hbefore, hrefused⟩ :=
      readLines_refused (read_error_iff.mp h)
    obtain ⟨before, rest, rfl, hfeeds, rfl, hrest⟩ := exists_cut hlines
    refine ⟨before, rest, .and cs, line, after, rfl, ?_, read_ok_iff.mpr ⟨cs, hbefore, rfl⟩, hrest,
      hrefused⟩
    rw [hk, hfeeds, Nat.add_comm]

/-- The second line of three is no expression.  It leaves the map that the first
    line left, and the third is not read. -/
theorem texts_are_read_line_by_line_second :
    ∃ f vars e, (read "a # 1\r").run (.empty 3) = .ok f vars ∧
      (read "b &").run vars = .error (.line 1 e) vars ∧
      (read "a # 1\r\nb &").run (.empty 3) = .error (.line 2 e) vars ∧
      (read "a # 1\r\nb &\nc").run (.empty 3) = .error (.line 2 e) vars := by
  obtain ⟨hfirst, hread⟩ : Reads [some "a # 1\r"] [.var "a"] ∧
      Expr.ofLine (content "b &") = .error (.leftover "b &" "&") := by
    refine ⟨.expression (by decide) ?_ .nil, ?_⟩
    · exact ofLine_of_tokens [.name "a"] (by decide +kernel) rfl
    · have hscan : Token.scan (content "b &") =
          [(.name "b", ['b', ' ', '&']), (.and, ['&'])] := by decide +kernel
      simp only [Expr.ofLine, hscan]
      rfl
  rw [← textLines_encode (by decide) (by decide)] at hfirst
  obtain ⟨f, vars, ha⟩ := exists_parse hfirst (.empty 3) (by
    rw [VariableMap.newNames_empty]
    decide)
  have hb : (read "b &").run vars = .error (.line 1 (.leftover "b &" "&")) vars := by
    rw [read_error_iff, textLines_encode (by decide) (by decide), readLines_singleton,
      readLine_of_error (by decide) hread]
    rfl
  obtain ⟨-, hsecond, -⟩ := texts_are_read_line_by_line "a # 1\r" "b &" (.empty 3)
  obtain ⟨-, -, -, hrefused⟩ := hsecond f vars ha
  obtain ⟨-, -, -, hboth⟩ := hrefused _ vars hb
  obtain ⟨hall, -, -⟩ := texts_are_read_line_by_line "a # 1\r\nb &" "c" (.empty 3)
  obtain ⟨k, err', -, -, hsame, hthree⟩ := hall _ vars hboth
  rw [hsame (by decide)] at hthree
  exact ⟨f, vars, _, ha, hb, hboth, hthree⟩

end Format.Text

end GuardedCnf
