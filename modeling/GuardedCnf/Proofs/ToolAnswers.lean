import GuardedCnf.Proofs.DimacsFiles
import GuardedCnf.Proofs.Enumeration
import GuardedCnf.Proofs.Reports
import GuardedCnf.Proofs.Runs
/-! # Tool answers — tools agree with the search

    A tool gets a file in which the assumptions are unit clauses, and the search
    fixes the variables of the assumptions.  Values satisfy the clauses of the
    file just if they satisfy the clauses and the assumptions, so a tool that is
    right about its file answers what the search answers, if that is not
    refused.  This holds as far as files can be read, which have no more than
    2^28 variables. -/

namespace GuardedCnf

open Text (encode)

namespace Cnf

variable {f : Cnf} {ls : List Literal} {p : Var → Prop} {v : Valuation}

/-- Values satisfy the clauses with units just if they satisfy the clauses and
    the literals. -/
theorem eval_withUnits :
    eval v (f.withUnits ls) = true ↔ f.eval v = true ∧ ∀ l ∈ ls, l.eval v = true := by
  unfold eval withUnits
  rw [List.all_append, Bool.and_eq_true, List.all_map, List.all_eq_true (l := ls)]
  refine and_congr_right fun _ => forall₂_congr fun l _ => ?_
  show (l.eval v || false) = true ↔ l.eval v = true
  rw [Bool.or_false]

theorem Within.withUnits (hf : f.Within p) (hls : ∀ l ∈ ls, p l.var) :
    Within p (f.withUnits ls) := by
  refine List.forall_mem_append.mpr ⟨hf, fun c hc => ?_⟩
  obtain ⟨l, hl, rfl⟩ := List.mem_map.mp hc
  exact List.forall_mem_singleton.mpr (hls l hl)

end Cnf

/-! ## Files for tools. -/

namespace Tool

variable {f : Cnf} {n : Nat} {as : List Literal}

theorem within_withUnits (has : ∀ l ∈ as, l.var < max n f.varCount) :
    (f.withUnits as).Within (· < max n f.varCount) :=
  (Cnf.within_max n f).withUnits has

/-- Assumptions do not add variables. -/
theorem input_eq (has : ∀ l ∈ as, l.var < max n f.varCount) :
    input f n as = ⟨max n f.varCount, f.withUnits as⟩ := by
  rw [input, Dimacs.ofCnf, Cnf.max_varCount (within_withUnits has)]

/-- The file for a tool is read as the clauses and the unit clauses. -/
theorem ofBytes_input (has : ∀ l ∈ as, l.var < max n f.varCount)
    (hvars : max n f.varCount ≤ Dimacs.maxNumber) (hcount : f.length + as.length < 2 ^ 64) :
    Dimacs.ofBytes (encode (input f n as).toText) =
      .ok ⟨max n f.varCount, f.withUnits as⟩ := by
  have hclauses := Cnf.varCount_le_iff.mpr (within_withUnits has)
  have hlength : (f.withUnits as).length < 2 ^ 64 := by
    rwa [Cnf.withUnits, List.length_append, List.length_map]
  let d : Dimacs := ⟨max n f.varCount, f.withUnits as⟩
  have hcomments : ∀ text ∈ ([] : List String), Dimacs.State.IsComment text := fun _ h => nomatch h
  have hread : Dimacs.ofBytes (encode (String.join [] ++ d.toText)) = .ok d :=
    Dimacs.ofBytes_toText hcomments hvars hclauses hlength
  rw [String.join_nil, String.empty_append] at hread
  rwa [input_eq has]

end Tool

namespace Surroundings

variable {s : Surroundings} {tool : Tool} {f : Cnf} {n : Nat} {as : List Literal}

/-- A tool runs to its end on a file, and the run is a correct one for what the
    file says. -/
def Answers (s : Surroundings) (tool : Tool) (text : String)
    (Correct : Dimacs → ToolRun → Prop) : Prop :=
  ∀ past keep, ∃ r, s past (.launch ⟨tool, text, keep⟩) = .ended r ∧
    ∀ d, Dimacs.ofBytes (encode text) = .ok d → Correct d r

theorem exists_launch {Correct : Dimacs → ToolRun → Prop} {input d : Dimacs}
    (h : s.Answers tool input.toText Correct)
    (hread : Dimacs.ofBytes (encode input.toText) = .ok d) (past : List Request) (keep : Bool) :
    ∃ r, Correct d r ∧ s.Does past (Run.launch tool input keep) r [] := by
  -- how the tool runs may depend on what was asked before
  obtain ⟨middle, hclock, hnothing⟩ := Does.ask s past .clock rfl
  obtain ⟨r, hended, hcorrect⟩ := h middle keep
  refine ⟨r, hcorrect d hread, Does.after hclock hnothing ?_⟩
  refine (Does.ask s middle (.launch ⟨tool, input.toText, keep⟩) rfl).andThen fun past' => ?_
  rw [hended]
  exact (does_observeTime past' _ _).andThen fun past'' => Does.pure s past'' r

/-- A solver that is right about its file has a verdict, which says whether
    there are values that satisfy the clauses and the assumptions. -/
theorem exists_solveBy (has : ∀ l ∈ as, l.var < max n f.varCount)
    (hvars : max n f.varCount ≤ Dimacs.maxNumber) (hcount : f.length + as.length < 2 ^ 64)
    (h : s.Answers tool (Tool.input f n as).toText Dimacs.SolvedBy) (past : List Request)
    (keep : Bool) :
    ∃ verdict, s.Does past (Run.solveBy tool f n as keep) verdict [] ∧
      (verdict.model?.isSome = true ↔ ∃ v, f.eval v = true ∧ ∀ l ∈ as, l.eval v = true) := by
  obtain ⟨r, hsolved, hlaunch⟩ :=
    exists_launch h (Tool.ofBytes_input has hvars hcount) past keep
  have hsize : max n f.varCount < 2 ^ 63 := Nat.lt_of_le_of_lt hvars (by decide)
  obtain ⟨verdict, hverdict, hiff⟩ := Tool.exists_verdict tool hsolved rfl rfl
    (Tool.within_withUnits has) hsize
  refine ⟨verdict, hlaunch.andThen fun past' => ?_, ?_⟩
  · rw [hverdict]
    exact Does.pure s past' verdict
  · rw [hiff]
    exact exists_congr fun v => Cnf.eval_withUnits

/-- A counter that is right about its file counts the values that satisfy the
    clauses and the assumptions. -/
theorem does_countBy (has : ∀ l ∈ as, l.var < max n f.varCount)
    (hvars : max n f.varCount ≤ Dimacs.maxNumber) (hcount : f.length + as.length < 2 ^ 64)
    (h : s.Answers tool (Tool.input f n as).toText Dimacs.CountedBy) (past : List Request)
    (keep : Bool) :
    s.Does past (Run.countBy tool f n as keep)
      (countOver (Finset.range (max n f.varCount)) fun v =>
        f.eval v = true ∧ ∀ l ∈ as, l.eval v = true) [] := by
  obtain ⟨r, hcounted, hlaunch⟩ :=
    exists_launch h (Tool.ofBytes_input has hvars hcount) past keep
  refine hlaunch.andThen fun past' => ?_
  rw [Tool.count_eq hcounted, countOver_congr fun v => Cnf.eval_withUnits]
  exact Does.pure s past' _

/-- Surroundings in which every tool runs in the same way. -/
def launching (r : ToolRun) : Surroundings := fun past request =>
  match request with
  | .launch _ => .ended r
  | request => serving [] past request

theorem answers_launching {r : ToolRun} {text : String} {Correct : Dimacs → ToolRun → Prop}
    {d : Dimacs} (hread : Dimacs.ofBytes (encode text) = .ok d) (h : Correct d r) :
    (launching r).Answers tool text Correct := by
  refine fun past keep => ⟨r, rfl, fun d' hd' => ?_⟩
  rwa [← Except.ok.inj (hread.symm.trans hd')]

end Surroundings

namespace Tool

/-- **TOOLS AGREE WITH THE SEARCH**.  Clauses and assumptions on their variables
    are written to a file that is read as the clauses and a unit clause for each
    assumption, over the variables of the clauses, if a header can declare so
    many variables and clauses.  A solver that is right about the file is
    understood, and finds a model just if the search does, when the search is not
    refused.  A counter that is right about the file is understood, and counts as
    many models as the search, when the search is not refused. -/
theorem tools_agree_with_search (f : Cnf) (n : Nat) (as : List Literal)
    (has : ∀ l ∈ as, l.var < max n f.varCount)
    (hvars : max n f.varCount ≤ Dimacs.maxNumber) (hcount : f.length + as.length < 2 ^ 64) :
    Dimacs.ofBytes (encode (input f n as).toText) =
        .ok ⟨max n f.varCount, f.withUnits as⟩ ∧
      (∀ (s : Surroundings) (tool : Tool),
        s.Answers tool (input f n as).toText Dimacs.SolvedBy → ∀ past keep,
          ∃ verdict, s.Does past (Run.solveBy tool f n as keep) verdict [] ∧
            ∀ found, Enumeration.solve f n as = .ok found →
              verdict.model?.isSome = found.isSome) ∧
      ∀ (s : Surroundings) (tool : Tool),
        s.Answers tool (input f n as).toText Dimacs.CountedBy → ∀ past keep,
          ∃ c, s.Does past (Run.countBy tool f n as keep) c [] ∧
            ∀ c', Enumeration.count f n as = .ok c' → c = c' := by
  have hf := Cnf.within_max n f
  -- both answers are about the values that satisfy the clauses and the assumptions
  refine ⟨ofBytes_input has hvars hcount, ?_, ?_⟩
  · intro s tool h past keep
    obtain ⟨verdict, hdoes, hverdict⟩ :=
      Surroundings.exists_solveBy has hvars hcount h past keep
    refine ⟨verdict, hdoes, fun found hfound => ?_⟩
    rw [← Enumeration.search_solve_eq, ← Search.solve_max] at hfound
    rw [Bool.eq_iff_iff, hverdict, Search.isSome_of_solve hf has hfound]
  · intro s tool h past keep
    refine ⟨_, Surroundings.does_countBy has hvars hcount h past keep, fun c' hc' => ?_⟩
    rw [← Enumeration.search_count_eq, ← Search.count_max] at hc'
    exact (Search.eq_of_count hf has hc').symm

/-- Under the assumption that the first variable is false, the second one is
    true and the third one is free. -/
theorem tools_agree_with_search_small :
    let f : Cnf := [[⟨0, true⟩, ⟨1, true⟩]]
    let as : List Literal := [⟨0, false⟩]
    let tool : Tool := ⟨"tool", []⟩
    let solver := Surroundings.launching
      ⟨encode "c a remark\nv -1 2\ns SATISFIABLE\nv 0\n", [], some 10, none⟩
    let counter := Surroundings.launching ⟨encode "c a remark\ns mc 2\n", [], some 0, none⟩
    Dimacs.ofBytes (encode (input f 3 as).toText) =
        .ok ⟨3, [[⟨0, true⟩, ⟨1, true⟩], [⟨0, false⟩]]⟩ ∧
      solver.Answers tool (input f 3 as).toText Dimacs.SolvedBy ∧
      (∃ verdict, solver.Does [] (Run.solveBy tool f 3 as false) verdict [] ∧
        verdict.model?.isSome = true) ∧
      counter.Answers tool (input f 3 as).toText Dimacs.CountedBy ∧
      counter.Does [] (Run.countBy tool f 3 as false) 2 [] := by
  intro f as tool solver counter
  obtain ⟨hread, hsolver, hcounter⟩ := tools_agree_with_search f 3 as (by decide) (by decide)
    (by decide)
  have hsolve : Enumeration.solve f 3 as = .ok (some ⟨[false, true, false]⟩) := by
    rw [← Enumeration.search_solve_eq]
    rfl
  have hcount : Enumeration.count f 3 as = .ok 2 := by
    rw [← Enumeration.search_count_eq]
    rfl
  -- the outputs are those of a correct solver and a correct counter, with a remark each
  have hsolves : solver.Answers tool (input f 3 as).toText Dimacs.SolvedBy := by
    have hremark : SolverLine.IsRemark "c a remark" :=
      ⟨by decide, by decide +kernel, by decide +kernel, by decide⟩
    have hprints : Prints SolverLine.words SolverLine.IsRemark _ _ := .remark hremark
      (.answer (.values [-1, 2]) (.answer (.status true) (.answer (.values [0]) .nil)))
    simp only [← Text.encode_append, List.append_nil] at hprints
    have hvalues : [SolverLine.values [-1, 2], .status true, .values [0]].flatMap
        SolverLine.numbers = [⟨0, false⟩, ⟨1, true⟩].map Literal.number ++ [0] := rfl
    refine Surroundings.answers_launching hread ?_
    exact .satisfiable hprints rfl hvalues (by decide) (by decide) rfl
  have hcounts : counter.Answers tool (input f 3 as).toText Dimacs.CountedBy := by
    have hremark : IsCountRemark "c a remark" :=
      ⟨by decide, by decide +kernel, by decide +kernel⟩
    have hprints : Prints countWords IsCountRemark _ [2] := .remark hremark (.answer 2 .nil)
    simp only [← Text.encode_append, List.append_nil] at hprints
    have hmodels : countOver (Finset.range (max 3 f.varCount))
        (fun v => Cnf.eval v (f.withUnits as) = true) = 2 := by decide
    refine Surroundings.answers_launching hread ⟨?_, rfl⟩
    show Prints _ _ _ [countOver (Finset.range (max 3 f.varCount)) fun v =>
      Cnf.eval v (f.withUnits as) = true]
    rw [hmodels]
    exact hprints
  obtain ⟨verdict, hdoes, hverdict⟩ := hsolver solver tool hsolves [] false
  obtain ⟨c, hdoes', hc⟩ := hcounter counter tool hcounts [] false
  rw [hc 2 hcount] at hdoes'
  exact ⟨hread, hsolves, ⟨verdict, hdoes, hverdict _ hsolve⟩, hcounts, hdoes'⟩

/-- A file that declares more variables than it can have is refused. -/
theorem large_files_are_refused :
    ¬∀ (f : Cnf) (n : Nat) (as : List Literal), (∀ l ∈ as, l.var < max n f.varCount) →
      Dimacs.ofBytes (encode (input f n as).toText) =
        .ok ⟨max n f.varCount, f.withUnits as⟩ := by
  intro hall
  have htext : (input [] (2 ^ 28 + 1) []).toText = "p cnf 268435457 0\n" := rfl
  have hbytes : encode "p cnf 268435457 0\n" =
      [112, 32, 99, 110, 102, 32, 50, 54, 56, 52, 51, 53, 52, 53, 55, 32, 48, 10] :=
    Text.encode_of_ascii (by decide)
  have hrefused : Dimacs.ofBytes
      [112, 32, 99, 110, 102, 32, 50, 54, 56, 52, 51, 53, 52, 53, 55, 32, 48, 10] =
        .error (.tooLarge 2 26843545 7) := rfl
  have hread := hall [] (2 ^ 28 + 1) [] fun _ h => nomatch h
  rw [htext, hbytes, hrefused] at hread
  exact nomatch hread

end Tool

end GuardedCnf
