import GuardedCnf.Proofs.Redistribution
import GuardedCnf.Proofs.NormalForms
import Mathlib.Algebra.Order.BigOperators.Group.List
import Mathlib.Algebra.Order.Ring.Nat
import Mathlib.Data.Finset.Card
/-! # Sizes — how many clauses an encoding has, and how long they are

    The number of clauses that distribution goes through can be read off the
    tree: one for a literal, the sum over the children for a conjunction and the
    product for a disjunction; for the negation, sum and product change places.
    Simplifying takes clauses away, but none where every variable occurs once,
    because a clause takes its literals from different places of the formula.

    A conjunct is encoded without a look at the others.  So the sizes of its
    clauses, those of its negation and the clause of the root add up over the
    conjuncts. -/

namespace GuardedCnf

open Clause (Reduced simplified)

/-! ## Choices. -/

theorem length_choices {α : Type} (ass : List (List α)) :
    (choices ass).length = (ass.map List.length).prod := by
  induction ass with
  | nil => rfl
  | cons as rest ih =>
      rw [choices, List.length_flatMap, List.map_cons, List.prod_cons, ← ih]
      simp only [List.length_map, List.map_const', List.sum_replicate_nat]

/-- A choice has a member of each list. -/
theorem forall₂_mem_of_mem_choices {α : Type} {ass : List (List α)} {as : List α}
    (h : as ∈ choices ass) : List.Forall₂ (· ∈ ·) as ass := by
  induction ass generalizing as with
  | nil =>
      rw [List.mem_singleton.mp h]
      exact List.Forall₂.nil
  | cons bs rest ih =>
      obtain ⟨b, hb, h⟩ := List.mem_flatMap.mp h
      obtain ⟨others, hothers, rfl⟩ := List.mem_map.mp h
      exact List.Forall₂.cons hb (ih hothers)

/-! ## Clauses by their variables. -/

namespace Clause

variable {c : Clause}

/-- A clause is reduced when no variable occurs in it twice. -/
theorem reduced_of_nodup_vars (h : (c.map (·.var)).Nodup) : Reduced c where
  nodup := List.Nodup.of_map _ h
  consistent l hl hcomplement :=
    l.complement_ne (List.inj_on_of_nodup_map h hcomplement hl rfl)

/-- A reduced clause has a variable at most once. -/
theorem Reduced.nodup_vars (h : Reduced c) : (c.map (·.var)).Nodup := by
  refine List.Nodup.map_on (fun k hk l hl hvar => ?_) h.nodup
  rcases Literal.eq_or_eq_complement hvar with hkl | rfl
  · exact hkl
  · exact absurd hk (h.consistent l hl)

/-- A reduced clause has at most one literal on each variable. -/
theorem Reduced.length_le (h : Reduced c) {xs : List Var} (hxs : ∀ l ∈ c, l.var ∈ xs) :
    c.length ≤ xs.toFinset.card := by
  rw [← List.length_map (·.var), ← List.toFinset_card_of_nodup h.nodup_vars]
  refine Finset.card_le_card fun x hx => ?_
  obtain ⟨l, hl, rfl⟩ := List.mem_map.mp (List.mem_toFinset.mp hx)
  exact List.mem_toFinset.mpr (hxs l hl)

end Clause

/-! ## Formulas. -/

namespace Formula

variable {f : Formula} {fs : List Formula} {p : Bool} {g : Cnf} {c : Clause}

mutual

/-- The number of clauses of a formula, or of its negation when `positive` is
    false, as it is before any of them is left out. -/
def clauseCount (positive : Bool) : Formula → Nat
  | .lit _ => 1
  | .not f => f.clauseCount (!positive)
  | .and fs => if positive then (clauseCounts positive fs).sum else (clauseCounts positive fs).prod
  | .or fs => if positive then (clauseCounts positive fs).prod else (clauseCounts positive fs).sum

/-- The numbers of clauses of the formulas of a list, in order. -/
def clauseCounts (positive : Bool) : List Formula → List Nat
  | [] => []
  | f :: fs => f.clauseCount positive :: clauseCounts positive fs

end

theorem clauseCounts_eq_map (p : Bool) (fs : List Formula) :
    clauseCounts p fs = fs.map (clauseCount p) := by
  induction fs with
  | nil => rfl
  | cons f fs ih => rw [clauseCounts, ih, List.map_cons]

/-- The clauses of a conjunction are those of its parts, so their numbers add up. -/
theorem length_naive_and (fs : List Formula) :
    (Formula.and fs).naive.length = (fs.map fun f => f.naive.length).sum := by
  rw [naive, naiveAll_eq_map, List.length_flatten, List.map_map]
  rfl

/-- The clauses of a disjunction choose one of each part, so their numbers multiply. -/
theorem length_naive_or (fs : List Formula) :
    (Formula.or fs).naive.length = (fs.map fun f => f.naive.length).prod := by
  rw [naive, naiveAll_eq_map, List.length_map, length_choices, List.map_map]
  rfl

/-- The numbers of clauses of normalized formulas, one by one. -/
theorem lengths_normalAll (h : ∀ f ∈ fs, (f.normal p).naive.length = f.clauseCount p) :
    ((normalAll p fs).map fun f => f.naive.length) = clauseCounts p fs := by
  rw [normalAll_eq_map, clauseCounts_eq_map, List.map_map]
  exact List.map_congr_left h

/-- **CLAUSES ARE COUNTED BY THE TREE**, for both polarities at once, since a
    negation exchanges them. -/
theorem length_naive_normal (f : Formula) (p : Bool) :
    (f.normal p).naive.length = f.clauseCount p := by
  induction f generalizing p with
  | lit l => rfl
  | not f ih => exact ih (!p)
  | and fs ih =>
      have hfs := lengths_normalAll fun f hf => ih f hf p
      cases p with
      | true => exact (length_naive_and _).trans (congrArg List.sum hfs)
      | false => exact (length_naive_or _).trans (congrArg List.prod hfs)
  | or fs ih =>
      have hfs := lengths_normalAll fun f hf => ih f hf p
      cases p with
      | true => exact (length_naive_or _).trans (congrArg List.prod hfs)
      | false => exact (length_naive_and _).trans (congrArg List.sum hfs)

/-- A choice of clauses of formulas has their literals in order, some left out. -/
theorem flatten_sublist_litsAll {cs : List Clause}
    (hfs : ∀ f ∈ fs, ∀ c ∈ f.naive, c.Sublist f.lits)
    (h : List.Forall₂ (· ∈ ·) cs (fs.map naive)) : cs.flatten.Sublist (litsAll fs) := by
  induction fs generalizing cs with
  | nil =>
      cases h
      exact List.Sublist.slnil
  | cons f fs ih =>
      obtain ⟨hf, hrest⟩ := List.forall_mem_cons.mp hfs
      cases h with
      | cons hc hcs => exact (hf _ hc).append (ih hrest hcs)

/-- **CLAUSES TAKE LITERALS FROM THE FORMULA**, in order and each from a place of
    its own. -/
theorem sublist_lits_of_mem_naive (h : c ∈ f.naive) : c.Sublist f.lits := by
  induction f generalizing c with
  | lit l =>
      rw [List.mem_singleton.mp h]
      exact List.Sublist.refl [l]
  | not f _ => exact nomatch h
  | and fs ih =>
      rw [naive, naiveAll_eq_map] at h
      obtain ⟨g, hg, hc⟩ := List.mem_flatten.mp h
      obtain ⟨f, hf, rfl⟩ := List.mem_map.mp hg
      rw [lits, litsAll_eq_flatMap]
      exact (ih f hf hc).trans (List.sublist_flatten_of_mem (List.mem_map_of_mem hf))
  | or fs ih =>
      rw [naive, naiveAll_eq_map] at h
      obtain ⟨cs, hcs, rfl⟩ := List.mem_map.mp h
      exact flatten_sublist_litsAll (fun f hf c hc => ih f hf hc) (forall₂_mem_of_mem_choices hcs)

/-- Where every variable occurs once, there is nothing to simplify. -/
theorem reduced_of_mem_naive (hvars : f.vars.Nodup) (h : c ∈ f.naive) : Reduced c :=
  Clause.reduced_of_nodup_vars (hvars.sublist ((sublist_lits_of_mem_naive h).map _))

/-- What the tree of a formula says of clauses: how many there are at most, that
    this is their number where every variable occurs once, and how long they may
    be. -/
structure Bounds (f : Formula) (p : Bool) (g : Cnf) : Prop where
  length_le : g.length ≤ f.clauseCount p
  length_eq : f.vars.Nodup → g.length = f.clauseCount p
  clause_le : ∀ c ∈ g, c.length ≤ f.vars.toFinset.card

/-- The tree of a formula bounds its clauses and those of its negation. -/
theorem bounds_of_distribute (h : (f.normal p).distribute = .ok g) : f.Bounds p g := by
  have hclauses := distribute_eq_naive (isNnf_normal f p)
  obtain rfl := Except.ok.inj (hclauses.symm.trans h)
  have hvars := vars_normal f p
  refine ⟨?_, fun hnodup => ?_, fun c hc => ?_⟩
  · rw [← length_naive_normal]
    exact List.length_filterMap_le ..
  · rw [← hvars] at hnodup
    rw [Cnf.filterMap_simplified_of_reduced fun c hc => reduced_of_mem_naive hnodup hc,
      length_naive_normal]
  · have hwithin := (distribute_standsFor hclauses).within c hc
    rw [hvars] at hwithin
    exact (Cnf.reduced_of_mem_simplified hc).length_le hwithin

end Formula

/-! ## Encodings. -/

namespace GuardedConjunct

/-- What the tree of a conjunct says of its guarded clauses. -/
structure Bounded (g : GuardedConjunct) (f : Formula) : Prop where
  length_le : g.clauses.length ≤ f.clauseCount true + f.clauseCount false
  length_eq : f.vars.Nodup → g.clauses.length = f.clauseCount true + f.clauseCount false
  clause_le : ∀ c ∈ g.clauses, c.length ≤ 1 + f.vars.toFinset.card

/-- A guard is one literal more. -/
theorem length_le_of_mem_guarded {f : Formula} {p : Bool} {g : Cnf} {l : Literal} {c : Clause}
    (h : f.Bounds p g) (hc : c ∈ g.guarded l) : c.length ≤ 1 + f.vars.toFinset.card := by
  obtain ⟨d, hd, rfl⟩ := List.mem_map.mp hc
  have hlength := h.clause_le d hd
  rw [List.length_append, List.length_singleton]
  omega

/-- The clauses of a guarded conjunct are at most those of both polarities. -/
theorem bounded_of_ofFormula {f : Formula} {a : Var} {g : GuardedConjunct}
    (h : ofFormula f a = .ok g) : g.Bounded f := by
  obtain ⟨holds, hholds, h⟩ := except_bind_ok.mp h
  obtain ⟨fails, hfails, h⟩ := except_bind_ok.mp h
  have hnnf : f.normal true = f := Formula.nnf_of_isNnf (Formula.isNnf_of_distribute hholds)
  rw [← hnnf] at hholds
  have hpos := Formula.bounds_of_distribute hholds
  have hneg := Formula.bounds_of_distribute hfails
  obtain rfl := Except.ok.inj h
  have hlength : (clauses ⟨a, holds.guarded ⟨a, false⟩, fails.guarded ⟨a, true⟩⟩).length =
      holds.length + fails.length := by
    rw [clauses, List.length_append, Cnf.guarded, Cnf.guarded, List.length_map, List.length_map]
  refine ⟨?_, fun hvars => ?_, fun c hc => ?_⟩
  · rw [hlength]
    exact Nat.add_le_add hpos.length_le hneg.length_le
  · rw [hlength, hpos.length_eq hvars, hneg.length_eq hvars]
  · rcases List.mem_append.mp hc with hc | hc
    · exact length_le_of_mem_guarded hpos hc
    · exact length_le_of_mem_guarded hneg hc

end GuardedConjunct

namespace Encoding

variable {fs : List Formula} {gs : List GuardedConjunct}

/-- Every conjunct has its clauses and one in the root. -/
theorem length_cnf (e : Encoding) :
    e.cnf.length = (e.conjuncts.map fun g => g.clauses.length + 1).sum := by
  rw [cnf, List.length_append, List.length_flatMap, List.length_map, List.sum_map_add,
    List.map_const', List.sum_replicate_nat, Nat.mul_one]

/-- The bounds of all conjuncts add up, with the clause of the root in each. -/
theorem sum_lengths_le (h : List.Forall₂ GuardedConjunct.Bounded gs fs) :
    (gs.map fun g => g.clauses.length + 1).sum ≤
      (fs.map fun f => f.clauseCount true + f.clauseCount false + 1).sum := by
  refine List.Forall₂.sum_le_sum ?_
  rw [List.forall₂_map_left_iff, List.forall₂_map_right_iff]
  exact h.imp fun g f hg => Nat.succ_le_succ hg.length_le

/-- Where no variable occurs twice in a conjunct the bounds are met. -/
theorem sum_lengths_eq (h : List.Forall₂ GuardedConjunct.Bounded gs fs)
    (hvars : ∀ f ∈ fs, f.vars.Nodup) :
    (gs.map fun g => g.clauses.length + 1).sum =
      (fs.map fun f => f.clauseCount true + f.clauseCount false + 1).sum := by
  induction h with
  | nil => rfl
  | cons hg _ ih =>
      obtain ⟨hf, hfs⟩ := List.forall_mem_cons.mp hvars
      rw [List.map_cons, List.map_cons, List.sum_cons, List.sum_cons, hg.length_eq hf, ih hfs]

/-- **SIZES ADD UP**.  An encoding has at most as many clauses as the trees of
    its conjuncts tell, each for itself, and just as many if no variable occurs
    twice in any conjunct.  A clause of a conjunct has at most one literal on
    each variable of the conjunct, and the guard. -/
theorem sizes_add_up {vars vars' : VariableMap} {e : Encoding}
    (h : (ofFormula (.and fs)).run vars = .ok e vars') :
    e.cnf.length ≤
        (fs.map fun f => f.clauseCount true + f.clauseCount false + 1).sum ∧
      ((∀ f ∈ fs, f.vars.Nodup) → e.cnf.length =
        (fs.map fun f => f.clauseCount true + f.clauseCount false + 1).sum) ∧
      List.Forall₂ (fun g f => g.clauses.length ≤ f.clauseCount true + f.clauseCount false ∧
        ∀ c ∈ g.clauses, c.length ≤ 1 + f.vars.toFinset.card) e.conjuncts fs := by
  obtain ⟨gs, hgs, habove⟩ := except_bind_ok.mp (ofFormula_parts h).2
  obtain ⟨-, hall⟩ := guardAll_forall₂ List.length_range' hgs
  have hbounded : List.Forall₂ GuardedConjunct.Bounded e.conjuncts fs := by
    rw [← Except.ok.inj habove]
    exact hall.imp fun g f hf => GuardedConjunct.bounded_of_ofFormula hf
  rw [length_cnf]
  refine ⟨sum_lengths_le hbounded, sum_lengths_eq hbounded, ?_⟩
  exact hbounded.imp fun g f hg => ⟨hg.length_le, hg.clause_le⟩

/-- In `(x & y) | z` every variable occurs once.  In `x & (!x | y)` one does not,
    and a clause of the negation is a tautology. -/
theorem sizes_add_up_two :
    let f : Formula := .or [.and [.lit ⟨0, true⟩, .lit ⟨1, true⟩], .lit ⟨2, true⟩]
    let k : Formula := .and [.lit ⟨0, true⟩, .or [.lit ⟨0, false⟩, .lit ⟨1, true⟩]]
    ∃ e e' vars vars',
      (ofFormula (.and [f])).run (.empty 5) = .ok e vars ∧ f.vars.Nodup ∧ e.cnf.length = 5 ∧
      (ofFormula (.and [f, k])).run (.empty 6) = .ok e' vars' ∧ ¬k.vars.Nodup ∧
      e'.cnf.length = 9 ∧ e'.cnf.length ≤ 5 + 5 := by
  intro f k
  have hnnf : ∀ g ∈ [f, k], g.isNnf = true := by decide
  have hfirst : ∀ g ∈ [f], g.isNnf = true := by decide
  obtain ⟨e, vars, h⟩ := exists_ofFormula (.empty 5) hfirst (by decide)
  obtain ⟨e', vars', h'⟩ := exists_ofFormula (.empty 6) hnnf (by decide)
  have hvars : f.vars.Nodup := by decide
  have hlength := (sizes_add_up h).2.1 (List.forall_mem_singleton.mpr hvars)
  have habove : above 3 [f, k] = .ok e' := (ofFormula_parts h').2
  have hclauses := congrArg (Except.map fun e => e.cnf.length) habove
  refine ⟨e, e', vars, vars', h, hvars, hlength, h', by decide, ?_, (sizes_add_up h').1⟩
  exact (Except.ok.inj hclauses).symm

end Encoding

end GuardedCnf
