import GuardedCnf.Proofs.Assumptions
import GuardedCnf.Proofs.Offsets
import GuardedCnf.Proofs.ToolAnswers
/-! # Checked models — a reported model is a model

    Nothing is assumed of a solver: it may print any bytes, and end with any exit
    code or signal.  What it prints is read, and a model that is read from it is
    compared with all clauses and all assumptions before it is reported.  Where
    the clauses are those of an encoding, and the assumptions those of a choice of
    conjuncts, the selectors take the comparison back to the conjuncts. -/

namespace GuardedCnf

open Encoding (ValidChoice Chosen)

variable {f : Cnf} {n : Nat} {as : List Literal} {m : Model}

/-! ## The solver's answer. -/

/-- A model that is read has the variables that were asked for. -/
theorem Verdict.size_of_ofLines {lines : List (Option String)} {code : Option Int}
    (h : ofLines lines code n = .ok (.satisfiable m)) : m.size = n := by
  obtain ⟨p, -, h⟩ := except_bind_ok.mp h
  obtain ⟨sat, -, h⟩ := except_bind_ok.mp h
  split at h
  · split at h
    · rw [← Verdict.satisfiable.inj (Except.ok.inj h)]
      exact Model.size_ofLiterals n p.literals
    · exact nomatch h
  · exact nomatch Except.ok.inj h

/-- **THE CHECK**: only a model of the clauses and the assumptions is
    accepted. -/
theorem Tool.verdict_satisfiable {tool : Tool} {r : ToolRun}
    (h : tool.verdict f n as r = .ok (.satisfiable m)) :
    m.size = max n f.varCount ∧ (f.withUnits as).eval m.value = true := by
  unfold verdict at h
  split at h
  · exact nomatch h
  · next lines _ =>
      split at h
      · exact nomatch h
      · exact nomatch Except.ok.inj h
      · next found hread =>
          -- the model that was read is compared with the clauses of the file
          split at h
          · next hcheck =>
              rw [← Verdict.satisfiable.inj (Except.ok.inj h)]
              exact ⟨Verdict.size_of_ofLines hread, hcheck⟩
          · exact nomatch h

namespace Surroundings

variable {α β : Type} {s : Surroundings} {past : List Request}

/-- Runs in sequence end with a result only if both do. -/
theorem play_bind_ok {x : Run α} {g : α → Run β} {b : β}
    (h : (s.play past (x >>= g)).1 = .ok b) :
    ∃ a past', (s.play past x).1 = .ok a ∧ (s.play past' (g a)).1 = .ok b := by
  rw [play_bind] at h
  split at h
  · next a past' hplay => exact ⟨a, past', congrArg Prod.fst hplay, h⟩
  · exact nomatch h

theorem play_ofExcept_ok {ε : Type} {cause : ε → RunError} {x : Except ε α} {a : α}
    (h : (s.play past (Run.ofExcept cause x)).1 = .ok a) : x = .ok a := by
  cases x with
  | ok b => exact congrArg Except.ok (Except.ok.inj h)
  | error e => exact nomatch h

/-- A run with a solver ends with the verdict on some run of the tool. -/
theorem play_solveBy_ok {tool : Tool} {keep : Bool} {answer : Verdict}
    (h : (s.play past (Run.solveBy tool f n as keep)).1 = .ok answer) :
    ∃ r, tool.verdict f n as r = .ok answer := by
  obtain ⟨r, past', -, h⟩ := play_bind_ok h
  exact ⟨r, play_ofExcept_ok h⟩

end Surroundings

/-! ## Models of encodings. -/

namespace Encoding

variable {e : Encoding} {fs : List Formula} {b : Nat} {negated free : List Nat}

/-- If there are conjuncts, the clauses of an encoding are on more variables than
    these, as the root implies a selector. -/
theorem Encodes.varCount_le (h : e.Encodes fs b) (hfs : (Formula.and fs).varCount ≤ b) :
    (Formula.and fs).varCount ≤ e.cnf.varCount := by
  cases hconjuncts : e.conjuncts with
  | nil =>
      have hlength := h.length_conjuncts
      rw [hconjuncts] at hlength
      rw [List.length_eq_zero_iff.mp hlength.symm]
      exact Nat.zero_le _
  | cons g gs =>
      have hclause : [⟨e.root, false⟩, g.selected] ∈ e.cnf := by
        refine List.mem_append_right _ (List.mem_map.mpr ⟨g, ?_, rfl⟩)
        rw [hconjuncts]
        exact List.mem_cons_self ..
      have hroot : e.root < e.cnf.varCount :=
        Cnf.varCount_le_iff.mp (Nat.le_refl _) _ hclause _ (List.mem_cons_self ..)
      rw [h.root] at hroot
      exact Nat.le_trans hfs (Nat.le_trans (Nat.le_add_right ..) (Nat.le_of_lt hroot))

/-- A model of the clauses and of the assumptions of a choice gives conjuncts the
    values that are chosen. -/
theorem Encodes.chosen_of_model (h : e.Encodes fs b) (hdisjoint : ∀ i ∈ negated, i ∉ free)
    {v : Valuation} (hcnf : e.cnf.eval v = true)
    (has : ∀ l ∈ select negated free 1 e.conjuncts, l.eval v = true) :
    Chosen negated free 1 (fs.map (Formula.eval v)) := by
  rw [← h.map_selectors (fun _ _ => rfl) hcnf]
  exact (eval_select hdisjoint v 1 e.conjuncts).mp has

end Encoding

namespace Tool

/-- **REPORTED MODELS ARE RIGHT**, whatever the solver does.  A model that a run
    with a solver ends with has all variables that were asked for and those of
    the clauses, and makes every clause and every assumption true.  So on the
    encoding of a conjunction, under the assumptions of a valid choice, it makes
    the negated conjuncts false and all but them and the free ones true. -/
theorem reported_models_are_right (s : Surroundings) (past : List Request) (tool : Tool)
    (keep : Bool) :
    (∀ f n as m, (s.play past (Run.solveBy tool f n as keep)).1 = .ok (.satisfiable m) →
      m.size = max n f.varCount ∧ (∀ c ∈ f, c.eval m.value = true) ∧
        ∀ l ∈ as, l.eval m.value = true) ∧
    ∀ fs vars vars' e negated free,
      (Encoding.ofFormula (.and fs)).run vars = .ok e vars' →
      ValidChoice fs.length negated free →
      ∃ as, e.assumptions negated free = .ok as ∧ ∀ n m,
        (s.play past (Run.solveBy tool e.cnf n as keep)).1 = .ok (.satisfiable m) →
          (Formula.and fs).varCount ≤ m.size ∧
            Chosen negated free 1 (fs.map (Formula.eval m.value)) := by
  -- a verdict is checked against clauses and assumptions before it is passed on
  have hright : ∀ f n as m,
      (s.play past (Run.solveBy tool f n as keep)).1 = .ok (.satisfiable m) →
      m.size = max n f.varCount ∧ f.eval m.value = true ∧ ∀ l ∈ as, l.eval m.value = true := by
    intro f n as m h
    obtain ⟨r, hverdict⟩ := Surroundings.play_solveBy_ok h
    obtain ⟨hsize, hcheck⟩ := verdict_satisfiable hverdict
    exact ⟨hsize, Cnf.eval_withUnits.mp hcheck⟩
  constructor
  · intro f n as m h
    obtain ⟨hsize, hf, has⟩ := hright f n as m h
    exact ⟨hsize, List.all_eq_true.mp hf, has⟩
  · -- a model of the clauses and the assumptions meets the choice, through the
    -- selectors
    intro fs vars vars' e negated free h hchoice
    have henc := (Encoding.ofFormula_ok h).1
    rw [← henc.length_conjuncts] at hchoice
    refine ⟨_, Encoding.assumptions_ok_iff.mpr ⟨hchoice, rfl⟩, fun n m hm => ?_⟩
    obtain ⟨hsize, hcnf, has⟩ := hright e.cnf n _ m hm
    refine ⟨?_, henc.chosen_of_model hchoice.disjoint hcnf has⟩
    rw [hsize]
    exact Nat.le_trans (henc.varCount_le (Nat.le_max_right ..)) (Nat.le_max_right ..)

/-- The values are on two lines, one of them before the status, and leave out
    the first variable and the root; the second conjunct is negated. -/
theorem reported_models_are_right_two :
    let fs : List Formula := [.or [.lit ⟨0, true⟩, .lit ⟨1, true⟩], .lit ⟨0, true⟩]
    let e : Encoding := ⟨[⟨2, [[⟨0, true⟩, ⟨1, true⟩, ⟨2, false⟩]],
        [[⟨0, false⟩, ⟨2, true⟩], [⟨1, false⟩, ⟨2, true⟩]]⟩,
      ⟨3, [[⟨0, true⟩, ⟨3, false⟩]], [[⟨0, false⟩, ⟨3, true⟩]]⟩], 4⟩
    let m : Model := ⟨[false, true, true, false, false]⟩
    let as : List Literal := [⟨2, true⟩, ⟨3, false⟩]
    let r : ToolRun := ⟨Text.encode "v 2 3\ns SATISFIABLE\nv -4 0\n", [], none, some 9⟩
    let solver := Surroundings.launching r
    (∃ vars', (Encoding.ofFormula (.and fs)).run (.empty 5) = .ok e vars') ∧
      e.assumptions [2] [] = .ok as ∧
      (solver.play [] (Run.solveBy ⟨"tool", []⟩ e.cnf 0 as false)).1 = .ok (.satisfiable m) ∧
      m.size = 5 ∧ Chosen [2] [] 1 (fs.map (Formula.eval m.value)) := by
  intro fs e m as r solver
  have hrun : ∃ vars', (Encoding.ofFormula (.and fs)).run (.empty 5) = .ok e vars' := ⟨_, rfl⟩
  have hcount : max 0 e.cnf.varCount = 5 := by decide
  have hverdict : verdict ⟨"tool", []⟩ e.cnf 0 as r = .ok (.satisfiable m) := by
    let lines : List SolverLine := [.values [2, 3], .status true, .values [-4, 0]]
    -- the tool was killed by a signal, but what it had printed is an answer
    have hprints : Prints SolverLine.words SolverLine.IsRemark _ lines :=
      .answer _ (.answer _ (.answer _ .nil))
    simp only [← Text.encode_append, List.append_nil] at hprints
    have hkept : keptLines keepForVerdict r.output =
        some (lines.map fun l => " ".intercalate l.words) :=
      keptLines_of_prints hprints SolverLine.isWord_words SolverLine.keepForVerdict_words
        fun _ => SolverLine.keepForVerdict_remark
    have hrejoin := rejoin_answers SolverLine.isWord_words SolverLine.words_ne_nil lines
    have hvalues : lines.flatMap SolverLine.numbers =
        [⟨1, true⟩, ⟨2, true⟩, ⟨3, false⟩].map Literal.number ++ [0] := rfl
    have hread : Verdict.ofLines (lines.map fun l => some (" ".intercalate l.words)) none 5 =
        .ok (.satisfiable m) := by
      rw [Verdict.ofLines, Verdict.readLines_values (by decide) (by decide) hvalues]
      rfl
    have hcode : r.code = none := rfl
    have hcheck : (e.cnf.withUnits as).eval m.value = true := rfl
    unfold verdict
    simp only [hkept, hrejoin, hcode, hcount, hread, hcheck, if_true]
  have hplay : (solver.play [] (Run.solveBy ⟨"tool", []⟩ e.cnf 0 as false)).1 =
      .ok (.satisfiable m) := by
    show (solver.play _ (Run.ofExcept .tool (verdict ⟨"tool", []⟩ e.cnf 0 as r))).1 = _
    rw [hverdict]
    rfl
  obtain ⟨vars', h⟩ := hrun
  obtain ⟨hright, hchosen⟩ := reported_models_are_right solver [] ⟨"tool", []⟩ false
  obtain ⟨as', has, hmodel⟩ := hchosen fs (.empty 5) vars' e [2] [] h ⟨by simp [fs], by simp⟩
  rw [← Except.ok.inj has] at hmodel
  obtain ⟨hsize, -, -⟩ := hright e.cnf 0 as m hplay
  rw [hcount] at hsize
  exact ⟨⟨vars', h⟩, rfl, hplay, hsize, (hmodel 0 m hplay).2⟩

end Tool

end GuardedCnf
