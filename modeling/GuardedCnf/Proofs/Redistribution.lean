import GuardedCnf.Proofs.CrossProducts
/-! # Redistribution — clauses that are distributed once more

    The tree of clauses leaves nothing to choose: each of its disjunctions has
    one literal at every place.  So distributing it simplifies every clause and
    does nothing else, and clauses that come out of a distribution are simplified
    already. -/

namespace GuardedCnf

open Clause (Reduced simplified)

/-- Lists with one member leave one choice. -/
theorem choices_singletons {α : Type} (as : List α) : choices (as.map ([·])) = [as] := by
  induction as with
  | nil => rfl
  | cons a as ih =>
      rw [List.map_cons, choices, ih]
      rfl

namespace Cnf

variable {f : Cnf}

theorem isNnf_toTree (f : Cnf) : f.toTree.isNnf = true := by
  rw [toTree, Formula.isNnf, Formula.isNnfAll_eq_all, List.all_map]
  exact List.all_eq_true.mpr fun c _ => Formula.isNnf_or_lits c

/-- A disjunction of literals has itself as its only clause. -/
theorem naive_or_lits (c : Clause) : (Formula.or (c.map .lit)).naive = [c] := by
  have hlits : (c.map Formula.lit).map Formula.naive = (c.map ([·])).map ([·]) := by
    rw [List.map_map, List.map_map]
    rfl
  rw [Formula.naive, Formula.naiveAll_eq_map, hlits, choices_singletons, List.map_singleton,
    ← List.flatMap_def, List.flatMap_singleton']

/-- The clauses of a tree of clauses are these, before they are simplified. -/
theorem naive_toTree (f : Cnf) : f.toTree.naive = f := by
  have hclauses : (f.map fun c => Formula.or (c.map .lit)).map Formula.naive = f.map ([·]) := by
    rw [List.map_map]
    exact List.map_congr_left fun c _ => naive_or_lits c
  rw [toTree, Formula.naive, Formula.naiveAll_eq_map, hclauses, ← List.flatMap_def,
    List.flatMap_singleton']

/-- **DISTRIBUTING CLAUSES SIMPLIFIES THEM**, each in its place. -/
theorem distribute_toTree (f : Cnf) : f.toTree.distribute = .ok (f.filterMap simplified) := by
  rw [Formula.distribute_eq_naive f.isNnf_toTree, naive_toTree]

/-- Simplifying leaves reduced clauses. -/
theorem reduced_of_mem_simplified {c : Clause} (h : c ∈ f.filterMap simplified) : Reduced c := by
  obtain ⟨d, -, hd⟩ := List.mem_filterMap.mp h
  exact Clause.reduced_of_simplified hd

/-- Simplifying changes nothing where every clause is reduced. -/
theorem filterMap_simplified_of_reduced (h : ∀ c ∈ f, Reduced c) : f.filterMap simplified = f := by
  rw [List.filterMap_congr fun c hc => (h c hc).simplified_eq]
  exact List.filterMap_some

end Cnf

namespace Formula

/-- **DISTRIBUTION IS IDEMPOTENT**.  Distributing the tree of any clauses leaves out
    the tautologies and keeps the first occurrence of every literal in the others,
    in order.  So the clauses of a formula in normal form come out again as they
    are, clause for clause and literal for literal. -/
theorem distribution_is_idempotent :
    (∀ g : Cnf, g.toTree.distribute = .ok (g.filterMap simplified)) ∧
      ∀ f : Formula, f.isNnf = true →
        ∃ g, f.distribute = .ok g ∧ g.toTree.distribute = .ok g := by
  refine ⟨Cnf.distribute_toTree, fun f h => ⟨_, distribute_eq_naive h, ?_⟩⟩
  rw [Cnf.distribute_toTree,
    Cnf.filterMap_simplified_of_reduced fun c hc => Cnf.reduced_of_mem_simplified hc]

/-- A tautology goes, an empty clause stays, and repetitions go; the clauses of
    `(x & !x) | y | x` come out as they went in. -/
theorem distribution_is_idempotent_four :
    let x : Literal := ⟨0, true⟩
    let y : Literal := ⟨1, true⟩
    let f : Formula := .or [.and [.lit x, .lit x.complement], .lit y, .lit x]
    (Cnf.toTree [[x, y, x], [x, y, x.complement], [], [y, y]]).distribute =
        .ok [[x, y], [], [y]] ∧
      f.isNnf = true ∧ f.distribute = .ok [[x, y]] ∧
      (Cnf.toTree [[x, y]]).distribute = .ok [[x, y]] := by
  intro x y f
  obtain ⟨hsimplifies, hagain⟩ := distribution_is_idempotent
  have hnnf : f.isNnf = true := by decide
  have hclauses : f.distribute = .ok [[x, y]] := rfl
  obtain ⟨g, hg, hg'⟩ := hagain f hnnf
  obtain rfl := Except.ok.inj (hclauses.symm.trans hg)
  exact ⟨hsimplifies _, hnnf, hclauses, hg'⟩

end Formula

end GuardedCnf
