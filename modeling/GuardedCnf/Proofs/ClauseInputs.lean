import GuardedCnf.Proofs.AcceptedInputs
import GuardedCnf.Proofs.DimacsFiles
import GuardedCnf.Proofs.ModelCounts
/-! # Clause inputs — files with clauses, read into any map and counted

    A file is read with the variables that a map has for the numbers, and a map may
    have these anywhere.  So the formula is the file up to a renaming of its
    variables that is injective.  A file that is read into an empty map keeps its
    variables, also those that no clause has, and an encoding adds only variables
    that are determined by them: what is counted are the models of the clauses. -/

namespace GuardedCnf

namespace Encoding

variable {fs : List Formula} {vars : VariableMap}

/-- Without a choice all conjuncts are asked to hold. -/
theorem chosen_nil_nil (v : Valuation) (i : Nat) (fs : List Formula) :
    Chosen [] [] i (fs.map (Formula.eval v)) ↔ (Formula.and fs).eval v = true := by
  rw [Formula.eval_and]
  induction fs generalizing i with
  | nil => exact iff_of_true (chosen_nil i) rfl
  | cons f fs ih =>
      rw [List.map_cons, chosen_cons_of_not_free List.not_mem_nil, ih, List.all_cons,
        Bool.and_eq_true]
      rfl

/-- **CONJUNCTIONS ARE COUNTED THROUGH THEIR ENCODINGS**: the models are the values
    of the variables of the map for which the conjunction is true. -/
theorem Ready.exists_count (h : Ready vars fs) (hroom : vars.size + fs.length + 1 ≤ vars.limit)
    (hlimit : vars.size ≤ searchLimit) :
    ∃ e last ls, (ofFormula (.and fs)).run vars = .ok e last ∧
      e.countingAssumptions [] [] = .ok ls ∧
      Enumeration.count e.cnf last.size ls
        = .ok (countOver (Finset.range vars.size) fun v => (Formula.and fs).eval v = true) := by
  obtain ⟨e, last, hrun⟩ := h.exists_ofFormula_iff.mpr hroom
  have hencodes := (ofFormula_ok hrun).1
  have hsize := ofFormula_size hrun
  rw [h.inputCount_eq] at hencodes hsize
  have hvalid (n : Nat) : ValidChoice n [] [] := ⟨(fun _ hi => nomatch hi), fun _ hi => nomatch hi⟩
  refine ⟨e, last, e.countingLiterals [] [], hrun,
    countingAssumptions_ok_iff.mpr ⟨hvalid _, rfl⟩, ?_⟩
  rw [hsize, hencodes.count_counting (hvalid _), List.toFinset_nil, Finset.card_empty,
    Nat.add_zero, if_neg (Nat.not_lt.mpr hlimit)]
  exact congrArg Except.ok (countOver_congr fun v => chosen_nil_nil v 1 fs)

end Encoding

namespace Dimacs

open VariableMap (inputEntries)
open Format.Clauses (numerals)
open Text (encode)

/-- **FILES ARE READ INTO ANY MAP**.  A file with a fault leaves the map as it was.
    A map with room for the numbers that it does not have gets these, and then the
    file is the conjunction of its clauses, literal by literal, with the variables
    of the map that are called by the numbers.  These are different for different
    numbers, so the formula is true just where the clauses are with these values.
    From an empty map, the models of the clauses over all variables of the file are
    what is counted. -/
theorem files_are_read_into_any_map (bytes : List UInt8) :
    (∀ err, ofBytes bytes = .error err → ∀ vars,
      (Format.dimacs.parse (.ok bytes)).run vars = .error (.dimacs err) vars) ∧
    ∀ d, ofBytes bytes = .ok d →
      (∀ vars : VariableMap,
        vars.size + (vars.newNames (numerals 1 d.varCount)).length ≤ vars.limit →
        ∃ f vars', (Format.dimacs.parse (.ok bytes)).run vars = .ok f vars' ∧
          vars.Grows vars' (inputEntries (vars.newNames (numerals 1 d.varCount))) ∧
          f = .and (d.clauses.map fun c =>
            .or (c.map fun l => .lit ⟨vars'.numbered l.var, l.positive⟩)) ∧
          (∀ c ∈ d.clauses, ∀ l ∈ c, l.var < d.varCount) ∧
          (∀ x : Var, x < d.varCount → vars'.get? (toString x.number) = some (vars'.numbered x) ∧
            vars'.name? (vars'.numbered x) = some (toString x.number)) ∧
          Set.InjOn vars'.numbered {x | x < d.varCount} ∧
          ∀ v, f.eval v = d.clauses.eval fun x => v (vars'.numbered x)) ∧
      ∀ limit, d.varCount + d.clauses.length + 1 ≤ limit → d.varCount ≤ searchLimit →
        ∃ f vars' e last ls,
          (Format.dimacs.parse (.ok bytes)).run (.empty limit) = .ok f vars' ∧
          (Encoding.ofFormula f).run vars' = .ok e last ∧
          e.countingAssumptions [] [] = .ok ls ∧
          Enumeration.count e.cnf last.size ls = .ok (countOver (Finset.range d.varCount) fun v =>
            d.clauses.eval v = true) := by
  refine ⟨fun err hread vars => ?_,
    fun d hread => ⟨fun vars hroom => ?_, fun limit hroom hfew => ?_⟩⟩
  · show (Format.Clauses.parse (.ok bytes)).run vars = _
    unfold Format.Clauses.parse
    simp only [hread]
    rfl
  · -- the tree of the renamed clauses is what is read; the numbers in it are their
    -- names
    obtain ⟨f, vars', hparse⟩ := Format.Clauses.exists_parse_of_room hread hroom
    obtain ⟨d', hread', rfl, hgrows⟩ := Format.Clauses.parse_ok hparse
    obtain rfl := Except.ok.inj (hread.symm.trans hread')
    have hnumbers := Format.Clauses.hasNumbers_of_grows hgrows
    refine ⟨_, vars', hparse, hgrows, Cnf.toTree_rename _ _,
      Cnf.varCount_le_iff.mp (varCount_of_ofBytes hread),
      fun x hx => ⟨hnumbers.get?_number hx, hnumbers.name?_numbered hx⟩,
      hnumbers.injOn_numbered, fun v => ?_⟩
    rw [Cnf.eval_toTree, Cnf.eval_rename]
  · have hvars : d.varCount ≤ limit := by omega
    obtain ⟨vars', hparse, hgrows⟩ := Format.Clauses.exists_parse_empty hread hvars
    obtain ⟨fs, htree, hready⟩ := Format.Clauses.ready_of_parse hparse
    -- to an empty map all numerals are new, so the map gets the declared variables only
    have hsize : vars'.size = d.varCount := by
      rw [hgrows.size, inputEntries, List.length_map, Format.Clauses.length_numerals]
      exact Nat.zero_add _
    have hlength : fs.length = d.clauses.length := by
      rw [← Formula.and.inj htree, List.length_map]
    have hlimit : vars'.limit = limit := hgrows.limit
    obtain ⟨e, last, ls, hrun, hls, hcount⟩ :=
      hready.exists_count (by rw [hsize, hlength, hlimit]; exact hroom) (hsize ▸ hfew)
    rw [← htree] at hrun hcount
    rw [hsize] at hcount
    refine ⟨_, vars', e, last, ls, hparse, hrun, hls, hcount.trans ?_⟩
    refine congrArg Except.ok (countOver_congr fun v => ?_)
    rw [Cnf.eval_toTree]

/-- The map has the second variable already, behind it an unrelated one.  The file
    repeats a literal, has one beside its complement, and does not use its third
    variable; two of the eight values are counted. -/
theorem files_are_read_into_any_map_three :
    let bytes := encode "p cnf 3 3\n1 -2 0\n2 2 0\n1 -1 0\n"
    (∃ vars', (Format.dimacs.parse (.ok bytes)).run
          (((VariableMap.empty 4).push ⟨"2", false⟩ (by simp)).push ⟨"x", true⟩ (by simp))
        = .ok (.and [.or [.lit ⟨2, true⟩, .lit ⟨0, false⟩], .or [.lit ⟨0, true⟩, .lit ⟨0, true⟩],
            .or [.lit ⟨2, true⟩, .lit ⟨2, false⟩]]) vars' ∧
      vars'.names = ["2", "x", "1", "3"]) ∧
    ∃ f vars' e last ls, (Format.dimacs.parse (.ok bytes)).run (.empty 7) = .ok f vars' ∧
      (Encoding.ofFormula f).run vars' = .ok e last ∧
      e.countingAssumptions [] [] = .ok ls ∧ Enumeration.count e.cnf last.size ls = .ok 2 := by
  intro bytes
  let d : Dimacs := ⟨3, [[⟨0, true⟩, ⟨1, false⟩], [⟨1, true⟩, ⟨1, true⟩], [⟨0, true⟩, ⟨0, false⟩]]⟩
  have htext : "p cnf 3 3\n1 -2 0\n2 2 0\n1 -1 0\n" = String.join [] ++ d.toText := by
    unfold d
    decide
  have hread : ofBytes bytes = .ok d := by
    show ofBytes (encode _) = _
    rw [htext]
    exact ofBytes_toText (fun _ h => nomatch h) (by decide) (by decide) (by decide)
  obtain ⟨hany, hempty⟩ := (files_are_read_into_any_map bytes).2 d hread
  constructor
  · let vars := ((VariableMap.empty 4).push ⟨"2", false⟩ (by simp)).push ⟨"x", true⟩ (by simp)
    have hnew : vars.newNames (numerals 1 d.varCount) = ["1", "3"] := by
      rw [VariableMap.newNames_eq_filter]
      decide
    obtain ⟨f, vars', hparse, hgrows, rfl, -⟩ := hany vars (by rw [hnew]; decide)
    have hnames : vars'.names = ["2", "x", "1", "3"] := by
      rw [hgrows.names, hnew]
      rfl
    have hplace (x : Var) (hx : toString x.number ∈ ["2", "x", "1", "3"]) :
        vars'.numbered x = ["2", "x", "1", "3"].idxOf (toString x.number) := by
      rw [← hnames] at hx ⊢
      exact VariableMap.indexOf_eq_idxOf hx
    have hfirst : vars'.numbered 0 = 2 := hplace 0 (by decide)
    have hsecond : vars'.numbered 1 = 0 := hplace 1 (by decide)
    refine ⟨vars', hparse.trans ?_, hnames⟩
    simp only [d, List.map, hfirst, hsecond]
  · have htwo : countOver (Finset.range d.varCount) (fun v => d.clauses.eval v = true) = 2 := by
      decide
    obtain ⟨f, vars', e, last, ls, hparse, hrun, hls, hcount⟩ := hempty 7 (by decide) (by decide)
    rw [htwo] at hcount
    exact ⟨f, vars', e, last, ls, hparse, hrun, hls, hcount⟩

end Dimacs

end GuardedCnf
