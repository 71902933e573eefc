import GuardedCnf.Tool
import GuardedCnf.Proofs.Numerals
import GuardedCnf.Proofs.Search
/-! # Reports — what correct tools print is understood

    A tool prints answers, each on a line of its own, and remarks among them.
    Remarks are dropped, and the answers are cut into the words that were
    printed.  So a solver that is right about a file is understood to give a
    model of its clauses, or to say that there is none, and a counter that is
    right is understood to give their number of models. -/

namespace GuardedCnf

open Text (encode textLines wordsOf IsWord Unbroken)

/-- Output that has answers among remarks, each on a line of its own.  The words
    of an answer have a blank between them. -/
inductive Prints {α : Type} (words : α → List String) (IsRemark : String → Prop) :
    List UInt8 → List α → Prop where
  | nil : Prints words IsRemark [] []
  | answer {output : List UInt8} {answers : List α} (a : α)
      (rest : Prints words IsRemark output answers) :
      Prints words IsRemark (encode (" ".intercalate (words a) ++ "\n") ++ output) (a :: answers)
  | remark {output : List UInt8} {answers : List α} {t : String} (remark : IsRemark t)
      (rest : Prints words IsRemark output answers) :
      Prints words IsRemark (encode (t ++ "\n") ++ output) answers

/-! ## Lines that are kept. -/

namespace Tool

variable {keep : String → Bool}

/-- A line at the front of an output is kept if it passes the test, and the other lines
    are kept as without it. -/
theorem keptLines_line {s : String} (h : Unbroken s) (output : List UInt8) :
    keptLines keep (encode (s ++ "\n") ++ output) =
      (keptLines keep output).map fun lines => if keep s then s :: lines else lines := by
  unfold keptLines
  rw [Text.textLines_line h, List.mapM_cons]
  cases (textLines output).mapM id with
  | none => rfl
  | some lines => exact congrArg some List.filter_cons

variable {α : Type} {words : α → List String} {IsRemark : String → Prop} {output : List UInt8}
  {answers : List α}

/-- Of what is printed the answers are kept, and not the remarks. -/
theorem keptLines_of_prints (h : Prints words IsRemark output answers)
    (hwords : ∀ a, ∀ w ∈ words a, IsWord w)
    (hkeep : ∀ a, keep (" ".intercalate (words a)) = true)
    (hdrop : ∀ t, IsRemark t → Unbroken t ∧ keep t = false) :
    keptLines keep output = some (answers.map fun a => " ".intercalate (words a)) := by
  induction h with
  | nil => rfl
  | answer a _ ih =>
      rw [keptLines_line (Text.unbroken_intercalate (hwords a)), ih, Option.map_some,
        if_pos (hkeep a), List.map_cons]
  | remark ht _ ih =>
      obtain ⟨hunbroken, hdropped⟩ := hdrop _ ht
      rw [keptLines_line hunbroken, ih, Option.map_some,
        if_neg (Bool.eq_false_iff.mp hdropped)]

/-- Answers that are joined again have the lines that were printed. -/
theorem rejoin_answers (hwords : ∀ a, ∀ w ∈ words a, IsWord w) (hne : ∀ a, words a ≠ [])
    (answers : List α) :
    rejoin (answers.map fun a => " ".intercalate (words a)) =
      answers.map fun a => some (" ".intercalate (words a)) := by
  rw [rejoin, Text.textLines_intercalate, List.map_map]
  · rfl
  · intro line hline
    obtain ⟨a, -, rfl⟩ := List.mem_map.mp hline
    refine ⟨fun hnil => hne a ?_, Text.unbroken_intercalate (hwords a)⟩
    rw [← Text.wordsOf_intercalate (hwords a), hnil]
    rfl

end Tool

/-! ## Solvers. -/

/-- A line with which a solver answers. -/
inductive SolverLine where
  | status (satisfiable : Bool)
  /-- Numbers of literals, and a 0 after the last one. -/
  | values (ks : List Int)

namespace SolverLine

/-- The words of a line. -/
def words : SolverLine → List String
  | .status true => ["s", "SATISFIABLE"]
  | .status false => ["s", "UNSATISFIABLE"]
  | .values ks => "v" :: ks.map toString

/-- The status on a line, if it has one. -/
def status? : SolverLine → Option Bool
  | .status b => some b
  | .values _ => none

/-- The numbers on a line. -/
def numbers : SolverLine → List Int
  | .status _ => []
  | .values ks => ks

/-- A line that is no answer of a solver. -/
def IsRemark (t : String) : Prop :=
  Unbroken t ∧ t.startsWith "s " = false ∧ t.startsWith "v " = false ∧ t ≠ "v"

theorem isWord_words (l : SolverLine) : ∀ w ∈ l.words, IsWord w := by
  cases l with
  | status b => cases b <;> decide
  | values ks =>
      refine List.forall_mem_cons.mpr ⟨by decide, fun w hw => ?_⟩
      obtain ⟨k, -, rfl⟩ := List.mem_map.mp hw
      exact Text.isWord_toString_int k

theorem words_ne_nil (l : SolverLine) : l.words ≠ [] := by
  cases l with
  | status b => cases b <;> exact List.cons_ne_nil _ _
  | values ks => exact List.cons_ne_nil _ _

/-- Two words and more begin with the first and a space. -/
theorem startsWith_intercalate (w w' : String) (ws : List String) :
    (" ".intercalate (w :: w' :: ws)).startsWith (w ++ " ") = true := by
  rw [String.intercalate_cons_cons, String.startsWith_string_iff,
    String.toList_append (s := w ++ " ")]
  exact List.prefix_append _ _

/-- Lines of a solver are kept for the verdict. -/
theorem keepForVerdict_words (l : SolverLine) :
    Tool.keepForVerdict (" ".intercalate l.words) = true := by
  have hstatus (w : String) : Tool.keepForVerdict (" ".intercalate ["s", w]) = true := by
    have h : (" ".intercalate ["s", w]).startsWith "s " = true := startsWith_intercalate "s" w []
    rw [Tool.keepForVerdict, h]
    rfl
  cases l with
  | status b => cases b <;> exact hstatus _
  | values ks =>
      cases ks with
      | nil =>
          have h : (" ".intercalate (values []).words == "v") = true := beq_self_eq_true "v"
          rw [Tool.keepForVerdict, h, Bool.or_true]
      | cons k ks =>
          have h : (" ".intercalate (values (k :: ks)).words).startsWith "v " = true :=
            startsWith_intercalate "v" (toString k) (ks.map toString)
          rw [Tool.keepForVerdict, h, Bool.or_true]
          rfl

/-- Remarks of a solver are not kept for the verdict. -/
theorem keepForVerdict_remark {t : String} (h : IsRemark t) :
    Unbroken t ∧ Tool.keepForVerdict t = false := by
  obtain ⟨hunbroken, hs, hv, hne⟩ := h
  refine ⟨hunbroken, ?_⟩
  rw [Tool.keepForVerdict, hs, hv, beq_eq_false_iff_ne.mpr hne]
  rfl

end SolverLine

/-- Without its sign a literal has the number of its variable. -/
theorem Literal.natAbs_number (l : Literal) : l.number.natAbs = l.var.number := by
  unfold number
  split
  · exact Int.natAbs_natCast _
  · rw [Int.natAbs_neg, Int.natAbs_natCast]

namespace Verdict

variable {n i : Nat} {status : Option Bool} {ks ls : List Literal} {ended : Bool}
  {lines : List SolverLine}

/-- The last status after some lines. -/
def lastStatus (status : Option Bool) (lines : List SolverLine) : Option Bool :=
  (lines.filterMap SolverLine.status?).foldl (fun _ b => some b) status

/-- A status line sets the status. -/
theorem readLine_status (n i : Nat) (p : Progress) (b : Bool) :
    readLine n i p (" ".intercalate (SolverLine.status b).words) =
      .ok { p with status := some b } := by
  unfold readLine
  rw [Text.wordsOf_intercalate (SolverLine.isWord_words _)]
  cases b <;> rfl

/-- A line of values is read number by number. -/
theorem readLine_values (n i : Nat) (p : Progress) (ks : List Int) :
    readLine n i p (" ".intercalate (SolverLine.values ks).words) =
      readLiterals n i p (ks.map toString) := by
  unfold readLine
  rw [Text.wordsOf_intercalate (SolverLine.isWord_words _)]
  rfl

/-- Literals within bounds are added to those so far. -/
theorem readLiterals_numbers (hn : n < 2 ^ 63) (hls : ∀ l ∈ ls, l.var < n)
    (rest : List String) :
    readLiterals n i ⟨status, ks, false⟩ ((ls.map Literal.number).map toString ++ rest) =
      readLiterals n i ⟨status, ks ++ ls, false⟩ rest := by
  induction ls generalizing ks with
  | nil => rw [List.append_nil]; rfl
  | cons l ls ih =>
      obtain ⟨hl, hls⟩ := List.forall_mem_cons.mp hls
      have hsize : l.number.natAbs < 2 ^ 63 := by
        rw [Literal.natAbs_number]
        exact Nat.lt_of_le_of_lt hl hn
      rw [List.map_cons, List.map_cons, List.cons_append, readLiterals,
        Text.readInt64_toString hsize]
      simp only [Literal.ofNumber?_number, Bool.false_eq_true, if_false,
        if_neg (Nat.not_le.mpr hl)]
      rw [ih hls, List.append_assoc, List.singleton_append]

/-- Lines without numbers only give a status. -/
theorem readLines_status (h : lines.flatMap SolverLine.numbers = []) :
    readLines n i ⟨status, ks, ended⟩ (lines.map fun l => some (" ".intercalate l.words)) =
      .ok ⟨lastStatus status lines, ks, ended⟩ := by
  induction lines generalizing i status with
  | nil => rfl
  | cons line lines ih =>
      rw [List.flatMap_cons, List.append_eq_nil_iff] at h
      obtain ⟨hline, hlines⟩ := h
      rw [List.map_cons, readLines]
      cases line with
      | status b =>
          rw [readLine_status]
          exact ih hlines
      | values nums =>
          have hnil : nums = [] := hline
          rw [readLine_values, hnil]
          exact ih hlines

/-- **VALUES MAY STAND ON SEVERAL LINES**: what counts is that their numbers in
    sequence are those of literals, and a 0 after them. -/
theorem readLines_values (hn : n < 2 ^ 63) (hls : ∀ l ∈ ls, l.var < n)
    (h : lines.flatMap SolverLine.numbers = ls.map Literal.number ++ [0]) :
    readLines n i ⟨status, ks, false⟩ (lines.map fun l => some (" ".intercalate l.words)) =
      .ok ⟨lastStatus status lines, ks ++ ls, true⟩ := by
  -- the literals that are still to come lose those of the line
  induction lines generalizing i status ks ls with
  | nil => exact absurd h.symm (List.append_ne_nil_of_right_ne_nil _ (List.cons_ne_nil _ _))
  | cons line lines ih =>
      rw [List.map_cons, readLines]
      cases line with
      | status b =>
          rw [readLine_status]
          exact ih hls h
      | values nums =>
          have h : nums ++ lines.flatMap SolverLine.numbers = ls.map Literal.number ++ [0] := h
          rw [readLine_values]
          -- the 0 is on this line if no numbers follow, and on a later one if some do
          obtain hnone | ⟨more, k, hmore⟩ :=
            List.eq_nil_or_concat' (lines.flatMap SolverLine.numbers)
          · rw [hnone, List.append_nil] at h
            rw [h, List.map_append, readLiterals_numbers hn hls]
            exact readLines_status hnone
          · rw [hmore, ← List.append_assoc] at h
            obtain ⟨hnums, hk⟩ := List.append_inj' h rfl
            obtain ⟨first, later, rfl, rfl, rfl⟩ := List.map_eq_append_iff.mp hnums.symm
            obtain ⟨hfirst, hlater⟩ := List.forall_mem_append.mp hls
            have hline : readLiterals n i ⟨status, ks, false⟩ _ = _ :=
              readLiterals_numbers hn hfirst []
            rw [List.append_nil] at hline
            rw [hline, ← List.append_assoc]
            exact ih hlater (hmore.trans (congrArg _ hk))

end Verdict

/-- A run of a solver that is right about a file: what it prints are a status and
    the values of a model, where variables without value are false, or the
    status of clauses without model, and the exit code is that of the status. -/
inductive Dimacs.SolvedBy (d : Dimacs) (r : ToolRun) : Prop where
  | satisfiable {lines : List SolverLine} {ls : List Literal}
      (prints : Prints SolverLine.words SolverLine.IsRemark r.output lines)
      (status : lines.filterMap SolverLine.status? = [true])
      (values : lines.flatMap SolverLine.numbers = ls.map Literal.number ++ [0])
      (range : ∀ l ∈ ls, l.var < d.varCount)
      (model : Cnf.eval (Valuation.ofLiterals ls) d.clauses = true)
      (code : r.code = some 10)
  | unsatisfiable {lines : List SolverLine}
      (prints : Prints SolverLine.words SolverLine.IsRemark r.output lines)
      (status : lines.filterMap SolverLine.status? = [false])
      (values : lines.flatMap SolverLine.numbers = [])
      (refuted : ∀ v, Cnf.eval v d.clauses = false)
      (code : r.code = some 20)

namespace Verdict

variable {n : Nat} {ls : List Literal} {lines : List SolverLine}

/-- Lines with the status of satisfiability, and with all literals before a 0, are
    accepted as a model. -/
theorem ofLines_satisfiable (hn : n < 2 ^ 63) (hls : ∀ l ∈ ls, l.var < n)
    (hstatus : lines.filterMap SolverLine.status? = [true])
    (hvalues : lines.flatMap SolverLine.numbers = ls.map Literal.number ++ [0]) :
    ofLines (lines.map fun l => some (" ".intercalate l.words)) (some 10) n =
      .ok (.satisfiable (Model.ofLiterals n ls)) := by
  have hlast : lastStatus none lines = some true := by rw [lastStatus, hstatus]; rfl
  rw [ofLines, readLines_values hn hls hvalues, hlast]
  rfl

/-- Lines with the status of unsatisfiability, and no values, are accepted as such. -/
theorem ofLines_unsatisfiable (hstatus : lines.filterMap SolverLine.status? = [false])
    (hvalues : lines.flatMap SolverLine.numbers = []) :
    ofLines (lines.map fun l => some (" ".intercalate l.words)) (some 20) n =
      .ok .unsatisfiable := by
  have hlast : lastStatus none lines = some false := by rw [lastStatus, hstatus]; rfl
  rw [ofLines, readLines_status hvalues, hlast]
  rfl

end Verdict

/-- **CORRECT SOLVERS ARE UNDERSTOOD**: the report of a solver on a file is
    accepted, and tells whether the clauses of the file have a model. -/
theorem Tool.exists_verdict (tool : Tool) {f : Cnf} {n : Nat} {as : List Literal} {d : Dimacs}
    {r : ToolRun} (h : d.SolvedBy r) (hcount : d.varCount = max n f.varCount)
    (hclauses : d.clauses = f.withUnits as) (hrange : d.clauses.Within (· < d.varCount))
    (hsize : d.varCount < 2 ^ 63) :
    ∃ verdict, tool.verdict f n as r = .ok verdict ∧
      (verdict.model?.isSome = true ↔ ∃ v, d.clauses.eval v = true) := by
  have hkept {lines : List SolverLine}
      (hprints : Prints SolverLine.words SolverLine.IsRemark r.output lines) :
      keptLines keepForVerdict r.output =
        some (lines.map fun l => " ".intercalate l.words) :=
    keptLines_of_prints hprints SolverLine.isWord_words SolverLine.keepForVerdict_words
      fun _ => SolverLine.keepForVerdict_remark
  have hrejoin := rejoin_answers SolverLine.isWord_words SolverLine.words_ne_nil
  unfold verdict
  rw [← hcount, ← hclauses]
  cases h with
  | @satisfiable lines ls hprints hstatus hvalues hls hmodel hcode =>
      -- the model is checked again, on the variables that the clauses have
      have hsame : d.clauses.eval (Model.ofLiterals d.varCount ls).value = true := by
        rw [← hmodel]
        exact Cnf.eval_congr hrange fun x hx => Model.value_ofLiterals ls hx
      refine ⟨.satisfiable (Model.ofLiterals d.varCount ls), ?_, ?_⟩
      · simp only [hkept hprints, hrejoin, hcode,
          Verdict.ofLines_satisfiable hsize hls hstatus hvalues, hsame, if_true]
      · exact iff_of_true rfl ⟨_, hmodel⟩
  | @unsatisfiable lines hprints hstatus hvalues hrefuted hcode =>
      refine ⟨.unsatisfiable, ?_, ?_⟩
      · simp only [hkept hprints, hrejoin, hcode,
          Verdict.ofLines_unsatisfiable hstatus hvalues]
      · refine iff_of_false Bool.false_ne_true ?_
        rintro ⟨v, hv⟩
        exact nomatch (hrefuted v).symm.trans hv

/-! ## Counters. -/

/-- The words of a line with a count. -/
def countWords (c : Nat) : List String := ["s", "mc", toString c]

/-- A line that is no answer of a counter. -/
def IsCountRemark (t : String) : Prop :=
  Unbroken t ∧ t.startsWith "c" = true ∧ t.startsWith "c s " = false

/-- A run of a counter that is right about a file: it prints the number of models
    over the variables of the file. -/
structure Dimacs.CountedBy (d : Dimacs) (r : ToolRun) : Prop where
  prints : Prints countWords IsCountRemark r.output
    [countOver (Finset.range d.varCount) fun v => Cnf.eval v d.clauses = true]
  code : r.code = some 0

theorem isWord_countWords (c : Nat) : ∀ w ∈ countWords c, IsWord w := by
  simp only [countWords, List.forall_mem_cons]
  exact ⟨by decide, by decide, Text.isWord_toString c, fun _ h => nomatch h⟩

/-- The line of a count is kept. -/
theorem keepForCount_countWords (c : Nat) :
    Tool.keepForCount (" ".intercalate (countWords c)) = true := by
  have hfirst : (" ".intercalate (countWords c)).startsWith "c" = false := by
    rw [Bool.eq_false_iff, ne_eq, String.startsWith_string_iff, countWords,
      String.intercalate_cons_cons, String.toList_append, String.toList_append]
    rintro ⟨rest, h⟩
    exact absurd (List.cons.inj h).1 (by decide)
  rw [Tool.keepForCount, hfirst]
  rfl

/-- Remarks of a counter are not kept. -/
theorem keepForCount_remark {t : String} (h : IsCountRemark t) :
    Unbroken t ∧ Tool.keepForCount t = false := by
  obtain ⟨hunbroken, hc, hs⟩ := h
  refine ⟨hunbroken, ?_⟩
  rw [Tool.keepForCount, hc, hs]
  rfl

/-- The line of a count is accepted as the count. -/
theorem Count.ofLines_count (c : Nat) :
    ofLines [some (" ".intercalate (countWords c))] = .ok c := by
  have hline (p : Progress) : readLine 1 p (" ".intercalate (countWords c)) =
      take 1 p (toString c) := by
    unfold readLine
    rw [Text.wordsOf_intercalate (isWord_countWords c)]
    rfl
  rw [ofLines, readLines, hline, take, Text.readNatural_toString]
  rfl

/-- **CORRECT COUNTERS ARE UNDERSTOOD**: the report of a counter on a file is
    accepted, and gives the number of models. -/
theorem Tool.count_eq {tool : Tool} {d : Dimacs} {r : ToolRun} (h : d.CountedBy r) :
    tool.count r =
      .ok (countOver (Finset.range d.varCount) fun v => d.clauses.eval v = true) := by
  have hkept := keptLines_of_prints h.prints isWord_countWords keepForCount_countWords
    fun _ => keepForCount_remark
  have hrejoin := rejoin_answers isWord_countWords fun c => List.cons_ne_nil _ _
  have hexit : isCounterExit (some 0) = true := rfl
  unfold count
  simp only [hkept, hrejoin, h.code, hexit, if_true]
  rw [List.map_singleton, Count.ofLines_count]
  rfl

end GuardedCnf
