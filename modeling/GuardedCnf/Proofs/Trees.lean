import GuardedCnf.Formula
import Mathlib.Data.List.Basic
/-! # Trees of formulas — induction, truth and normal forms

    A formula is a tree with any number of children at a node.  The induction
    principle below has one hypothesis for every child, and the functions over
    lists of formulas are the usual list functions of the ones over formulas, so
    that no later proof recurs over a list of children again. -/

namespace GuardedCnf.Formula

/-- Induction over a formula, with a hypothesis for every child of a node. -/
@[elab_as_elim, induction_eliminator]
theorem tree_induction {P : Formula → Prop}
    (lit : ∀ l, P (.lit l)) (not : ∀ f, P f → P (.not f))
    (and : ∀ fs, (∀ f ∈ fs, P f) → P (.and fs))
    (or : ∀ fs, (∀ f ∈ fs, P f) → P (.or fs)) : ∀ f, P f
  | .lit l => lit l
  | .not f => not f (tree_induction lit not and or f)
  | .and fs => and fs fun f _ => tree_induction lit not and or f
  | .or fs => or fs fun f _ => tree_induction lit not and or f

/-! ## The functions over lists of formulas. -/

theorem all_congr_mem {α : Type} {p q : α → Bool} {as : List α} (h : ∀ a ∈ as, p a = q a) :
    as.all p = as.all q := by
  induction as with
  | nil => rfl
  | cons a as ih =>
      rw [List.all_cons, List.all_cons, h a (List.mem_cons_self ..),
        ih fun b hb => h b (List.mem_cons_of_mem _ hb)]

theorem any_congr_mem {α : Type} {p q : α → Bool} {as : List α} (h : ∀ a ∈ as, p a = q a) :
    as.any p = as.any q := by
  rw [← Bool.not_inj_iff, List.not_any_eq_all_not, List.not_any_eq_all_not]
  exact all_congr_mem fun a ha => congrArg (!·) (h a ha)

@[simp] theorem evalAll_eq_all (v : Valuation) (fs : List Formula) :
    evalAll v fs = fs.all (eval v) := by
  induction fs with
  | nil => rfl
  | cons f fs ih => rw [evalAll, ih, List.all_cons]

@[simp] theorem evalAny_eq_any (v : Valuation) (fs : List Formula) :
    evalAny v fs = fs.any (eval v) := by
  induction fs with
  | nil => rfl
  | cons f fs ih => rw [evalAny, ih, List.any_cons]

@[simp] theorem normalAll_eq_map (p : Bool) (fs : List Formula) :
    normalAll p fs = fs.map (normal p) := by
  induction fs with
  | nil => rfl
  | cons f fs ih => rw [normalAll, ih, List.map_cons]

@[simp] theorem isNnfAll_eq_all (fs : List Formula) : isNnfAll fs = fs.all isNnf := by
  induction fs with
  | nil => rfl
  | cons f fs ih => rw [isNnfAll, ih, List.all_cons]

@[simp] theorem litsAll_eq_flatMap (fs : List Formula) : litsAll fs = fs.flatMap lits := by
  induction fs with
  | nil => rfl
  | cons f fs ih => rw [litsAll, ih, List.flatMap_cons]

@[simp] theorem eval_and (v : Valuation) (fs : List Formula) :
    (Formula.and fs).eval v = fs.all (eval v) := by
  rw [eval, evalAll_eq_all]

@[simp] theorem eval_or (v : Valuation) (fs : List Formula) :
    (Formula.or fs).eval v = fs.any (eval v) := by
  rw [eval, evalAny_eq_any]

/-! ## Variables. -/

/-- The variables of a formula, with repetitions. -/
def vars (f : Formula) : List Var := f.lits.map (·.var)

theorem mem_vars_and {x : Var} {fs : List Formula} :
    x ∈ (Formula.and fs).vars ↔ ∃ f ∈ fs, x ∈ f.vars := by
  simp only [vars, lits, litsAll_eq_flatMap, List.map_flatMap, List.mem_flatMap]

theorem mem_vars_or {x : Var} {fs : List Formula} :
    x ∈ (Formula.or fs).vars ↔ ∃ f ∈ fs, x ∈ f.vars := by
  simp only [vars, lits, litsAll_eq_flatMap, List.map_flatMap, List.mem_flatMap]

/-- A bound on literals lies above all their variables. -/
theorem bound_le_iff {ls : List Literal} {n : Nat} :
    bound ls ≤ n ↔ ∀ l ∈ ls, l.var < n := by
  induction ls with
  | nil => simp [bound]
  | cons l ls ih =>
      show max (l.var + 1) (bound ls) ≤ n ↔ _
      rw [List.forall_mem_cons, ← ih, Nat.max_le]
      exact Iff.rfl

/-- The variable count bounds every variable of a formula. -/
theorem lt_varCount_of_mem_vars {f : Formula} {x : Var} (h : x ∈ f.vars) : x < f.varCount := by
  obtain ⟨l, hl, rfl⟩ := List.mem_map.mp h
  exact bound_le_iff.mp (Nat.le_refl _) l hl

/-- The truth value of a formula depends on its own variables only. -/
theorem eval_congr {v w : Valuation} {f : Formula} (h : ∀ x ∈ f.vars, v x = w x) :
    f.eval v = f.eval w := by
  induction f with
  | lit l =>
      show (v l.var == l.positive) = (w l.var == l.positive)
      rw [h l.var (List.mem_map.mpr ⟨l, List.mem_cons_self .., rfl⟩)]
  | not f ih =>
      show (!f.eval v) = (!f.eval w)
      rw [ih h]
  | and fs ih =>
      rw [eval_and, eval_and]
      exact all_congr_mem fun f hf => ih f hf fun x hx => h x (mem_vars_and.mpr ⟨f, hf, hx⟩)
  | or fs ih =>
      rw [eval_or, eval_or]
      exact any_congr_mem fun f hf => ih f hf fun x hx => h x (mem_vars_or.mpr ⟨f, hf, hx⟩)

/-! ## Normal forms. -/

/-- **NORMAL FORMS MEAN WHAT THEY SHOULD**: the formula when positive, its
    negation when not. -/
theorem eval_normal (v : Valuation) (f : Formula) (p : Bool) :
    (f.normal p).eval v = (f.eval v == p) := by
  induction f generalizing p with
  | lit l =>
      cases p with
      | true => exact (beq_true _).symm
      | false => exact (Literal.eval_complement v l).trans (beq_false _).symm
  | not f ih =>
      show (f.normal (!p)).eval v = ((!f.eval v) == p)
      rw [ih]
      cases f.eval v <;> cases p <;> rfl
  | and fs ih =>
      cases p with
      | true =>
          show (Formula.and (normalAll true fs)).eval v = ((Formula.and fs).eval v == true)
          rw [eval_and, eval_and, normalAll_eq_map, List.all_map, beq_true]
          exact all_congr_mem fun f hf => (ih f hf true).trans (beq_true _)
      | false =>
          -- a false polarity turns the connective around
          show (Formula.or (normalAll false fs)).eval v = ((Formula.and fs).eval v == false)
          rw [eval_or, eval_and, normalAll_eq_map, List.any_map, beq_false,
            List.not_all_eq_any_not]
          exact any_congr_mem fun f hf => (ih f hf false).trans (beq_false _)
  | or fs ih =>
      cases p with
      | true =>
          show (Formula.or (normalAll true fs)).eval v = ((Formula.or fs).eval v == true)
          rw [eval_or, eval_or, normalAll_eq_map, List.any_map, beq_true]
          exact any_congr_mem fun f hf => (ih f hf true).trans (beq_true _)
      | false =>
          show (Formula.and (normalAll false fs)).eval v = ((Formula.or fs).eval v == false)
          rw [eval_and, eval_or, normalAll_eq_map, List.all_map, beq_false,
            List.not_any_eq_all_not]
          exact all_congr_mem fun f hf => (ih f hf false).trans (beq_false _)

/-- Normalizing keeps the value of a formula. -/
@[simp] theorem eval_nnf (v : Valuation) (f : Formula) : f.nnf.eval v = f.eval v :=
  (eval_normal v f true).trans (beq_true _)

/-- The normal form of a negation is true where the formula is false. -/
@[simp] theorem eval_negatedNnf (v : Valuation) (f : Formula) :
    f.negatedNnf.eval v = !f.eval v :=
  (eval_normal v f false).trans (beq_false _)

/-- Formulas that are normalized one by one are a list of normal ones. -/
theorem isNnfAll_normalAll {fs : List Formula} {p : Bool}
    (h : ∀ f ∈ fs, (f.normal p).isNnf = true) : isNnfAll (normalAll p fs) = true := by
  rw [isNnfAll_eq_all, normalAll_eq_map, List.all_map]
  exact List.all_eq_true.mpr h

/-- A clause, as a disjunction of literals, is normal. -/
theorem isNnf_or_lits (ls : List Literal) : (Formula.or (ls.map .lit)).isNnf = true := by
  rw [isNnf, isNnfAll_eq_all, List.all_map]
  exact List.all_eq_true.mpr fun _ _ => rfl

/-- A normal form has no negation node, under either polarity. -/
theorem isNnf_normal (f : Formula) (p : Bool) : (f.normal p).isNnf = true := by
  induction f generalizing p with
  | lit l => rfl
  | not f ih => exact ih (!p)
  | and fs ih => cases p <;> exact isNnfAll_normalAll fun f hf => ih f hf _
  | or fs ih => cases p <;> exact isNnfAll_normalAll fun f hf => ih f hf _

/-- Normalizing keeps the variables of formulas, and their order. -/
theorem vars_normalAll {fs : List Formula} {p : Bool}
    (h : ∀ f ∈ fs, (f.normal p).vars = f.vars) :
    (litsAll (normalAll p fs)).map (·.var) = (litsAll fs).map (·.var) := by
  rw [litsAll_eq_flatMap, litsAll_eq_flatMap, normalAll_eq_map, List.flatMap_map,
    List.map_flatMap, List.map_flatMap]
  exact List.flatMap_congr h

/-- A normal form has the variables of the formula, in the same order. -/
theorem vars_normal (f : Formula) (p : Bool) : (f.normal p).vars = f.vars := by
  induction f generalizing p with
  | lit l => cases p <;> rfl
  | not f ih => exact ih (!p)
  | and fs ih => cases p <;> exact vars_normalAll fun f hf => ih f hf _
  | or fs ih => cases p <;> exact vars_normalAll fun f hf => ih f hf _

end GuardedCnf.Formula
