import GuardedCnf.Expression.Basic
import GuardedCnf.Proofs.Allocation
/-! # Expressions — what becomes of identifiers and operators

    The formula of an expression has its truth value when every identifier has
    the value of its variable.  Declaring identifiers adds those that are new to
    the map, each once and in order; an identifier that is in a map keeps its
    variable when the map grows. -/

namespace GuardedCnf

namespace Expr

/-- Induction over an expression, with a hypothesis for every child of a node. -/
@[elab_as_elim, induction_eliminator]
theorem tree_induction {P : Expr → Prop} (const : ∀ b, P (.const b))
    (var : ∀ name, P (.var name)) (not : ∀ e, P e → P (.not e))
    (and : ∀ es, (∀ e ∈ es, P e) → P (.and es)) (or : ∀ es, (∀ e ∈ es, P e) → P (.or es))
    (implies : ∀ a b, P a → P b → P (.implies a b)) (iff : ∀ a b, P a → P b → P (.iff a b)) :
    ∀ e, P e
  | .const b => const b
  | .var name => var name
  | .not e => not e (tree_induction const var not and or implies iff e)
  | .and es => and es fun e _ => tree_induction const var not and or implies iff e
  | .or es => or es fun e _ => tree_induction const var not and or implies iff e
  | .implies a b =>
      implies a b (tree_induction const var not and or implies iff a)
        (tree_induction const var not and or implies iff b)
  | .iff a b =>
      iff a b (tree_induction const var not and or implies iff a)
        (tree_induction const var not and or implies iff b)

variable {e : Expr} {value value' : String → Bool} {index index' : String → Var}

/-! ## The functions over lists of expressions. -/

@[simp] theorem evalAll_eq_all (value : String → Bool) (es : List Expr) :
    evalAll value es = es.all (eval value) := by
  induction es with
  | nil => rfl
  | cons e es ih => rw [evalAll, ih, List.all_cons]

@[simp] theorem evalAny_eq_any (value : String → Bool) (es : List Expr) :
    evalAny value es = es.any (eval value) := by
  induction es with
  | nil => rfl
  | cons e es ih => rw [evalAny, ih, List.any_cons]

@[simp] theorem namesAll_eq_flatMap (es : List Expr) : namesAll es = es.flatMap names := by
  induction es with
  | nil => rfl
  | cons e es ih => rw [namesAll, ih, List.flatMap_cons]

@[simp] theorem toFormulas_eq_map (index : String → Var) (es : List Expr) :
    toFormulas index es = es.map (toFormula index) := by
  induction es with
  | nil => rfl
  | cons e es ih => rw [toFormulas, ih, List.map_cons]

theorem mem_namesAll {name : String} {es : List Expr} :
    name ∈ namesAll es ↔ ∃ e ∈ es, name ∈ e.names := by
  rw [namesAll_eq_flatMap]
  exact List.mem_flatMap

/-! ## Truth. -/

/-- The truth value depends on the identifiers of the expression only. -/
theorem eval_congr (h : ∀ name ∈ e.names, value name = value' name) :
    e.eval value = e.eval value' := by
  induction e with
  | const b => rfl
  | var name => exact h name (List.mem_singleton_self name)
  | not e ih =>
      show (!e.eval value) = !e.eval value'
      rw [ih h]
  | and es ih =>
      rw [eval, eval, evalAll_eq_all, evalAll_eq_all]
      exact Formula.all_congr_mem fun e he =>
        ih e he fun name hname => h name (mem_namesAll.mpr ⟨e, he, hname⟩)
  | or es ih =>
      rw [eval, eval, evalAny_eq_any, evalAny_eq_any]
      exact Formula.any_congr_mem fun e he =>
        ih e he fun name hname => h name (mem_namesAll.mpr ⟨e, he, hname⟩)
  | implies a b iha ihb =>
      -- the names of both sides are among those that agree
      obtain ⟨ha, hb⟩ := List.forall_mem_append.mp h
      rw [eval, eval, iha ha, ihb hb]
  | iff a b iha ihb =>
      obtain ⟨ha, hb⟩ := List.forall_mem_append.mp h
      rw [eval, eval, iha ha, ihb hb]

/-- **OPERATORS KEEP THEIR TRUTH TABLES**: the formula of an expression is true
    when the expression is, every identifier having the value of its
    variable. -/
theorem eval_toFormula (e : Expr) (index : String → Var) (v : Valuation) :
    (e.toFormula index).eval v = e.eval fun name => v (index name) := by
  induction e with
  | const b => cases b <;> rfl
  | var name =>
      show (v (index name) == true) = v (index name)
      exact beq_true _
  | not e ih =>
      show (!(e.toFormula index).eval v) = _
      rw [ih]
      rfl
  | and es ih =>
      rw [toFormula, toFormulas_eq_map, Formula.eval_and, List.all_map, eval, evalAll_eq_all]
      exact Formula.all_congr_mem ih
  | or es ih =>
      rw [toFormula, toFormulas_eq_map, Formula.eval_or, List.any_map, eval, evalAny_eq_any]
      exact Formula.any_congr_mem ih
  | implies a b iha ihb =>
      show (!(a.toFormula index).eval v || ((b.toFormula index).eval v || false)) = _
      rw [iha, ihb, Bool.or_false]
      rfl
  | iff a b iha ihb =>
      -- both implications, each as a disjunction with a negation
      show ((!(a.toFormula index).eval v || ((b.toFormula index).eval v || false)) &&
        (((a.toFormula index).eval v || (!(b.toFormula index).eval v || false)) && true)) = _
      rw [iha, ihb, eval]
      cases a.eval _ <;> cases b.eval _ <;> rfl

/-! ## Variables. -/

/-- The formula of an expression depends on the variables of its names alone. -/
theorem toFormula_congr (h : ∀ name ∈ e.names, index name = index' name) :
    e.toFormula index = e.toFormula index' := by
  induction e with
  | const b => rfl
  | var name => rw [toFormula, toFormula, h name (List.mem_singleton_self name)]
  | not e ih => rw [toFormula, toFormula, ih h]
  | and es ih =>
      rw [toFormula, toFormula, toFormulas_eq_map, toFormulas_eq_map]
      refine congrArg Formula.and (List.map_congr_left fun e he => ?_)
      exact ih e he fun name hname => h name (mem_namesAll.mpr ⟨e, he, hname⟩)
  | or es ih =>
      rw [toFormula, toFormula, toFormulas_eq_map, toFormulas_eq_map]
      refine congrArg Formula.or (List.map_congr_left fun e he => ?_)
      exact ih e he fun name hname => h name (mem_namesAll.mpr ⟨e, he, hname⟩)
  | implies a b iha ihb =>
      obtain ⟨ha, hb⟩ := List.forall_mem_append.mp h
      rw [toFormula, toFormula, iha ha, ihb hb]
  | iff a b iha ihb =>
      obtain ⟨ha, hb⟩ := List.forall_mem_append.mp h
      rw [toFormula, toFormula, iha ha, ihb hb]

/-- The variables of two expressions come from the names of both. -/
theorem exists_name_of_either {a b : Expr} {x : Var}
    (ha : ∀ x ∈ (a.toFormula index).vars, ∃ name ∈ a.names, index name = x)
    (hb : ∀ x ∈ (b.toFormula index).vars, ∃ name ∈ b.names, index name = x)
    (h : x ∈ (a.toFormula index).vars ∨ x ∈ (b.toFormula index).vars) :
    ∃ name ∈ a.names ++ b.names, index name = x := by
  rcases h with hx | hx
  · obtain ⟨name, hname, hindex⟩ := ha x hx
    exact ⟨name, List.mem_append_left _ hname, hindex⟩
  · obtain ⟨name, hname, hindex⟩ := hb x hx
    exact ⟨name, List.mem_append_right _ hname, hindex⟩

/-- The variables of the formula are those of the identifiers. -/
theorem vars_toFormula (e : Expr) (index : String → Var) :
    ∀ x ∈ (e.toFormula index).vars, ∃ name ∈ e.names, index name = x := by
  induction e with
  | const b => cases b <;> exact fun x hx => nomatch hx
  | var name =>
      intro x hx
      exact ⟨name, List.mem_singleton_self name, (List.mem_singleton.mp hx).symm⟩
  | not e ih => exact ih
  | and es ih =>
      intro x hx
      rw [toFormula, toFormulas_eq_map, Formula.mem_vars_and] at hx
      obtain ⟨f, hf, hx⟩ := hx
      obtain ⟨e, he, rfl⟩ := List.mem_map.mp hf
      obtain ⟨name, hname, hindex⟩ := ih e he x hx
      exact ⟨name, mem_namesAll.mpr ⟨e, he, hname⟩, hindex⟩
  | or es ih =>
      intro x hx
      rw [toFormula, toFormulas_eq_map, Formula.mem_vars_or] at hx
      obtain ⟨f, hf, hx⟩ := hx
      obtain ⟨e, he, rfl⟩ := List.mem_map.mp hf
      obtain ⟨name, hname, hindex⟩ := ih e he x hx
      exact ⟨name, mem_namesAll.mpr ⟨e, he, hname⟩, hindex⟩
  | implies a b iha ihb =>
      intro x hx
      have hsplit : x ∈ (a.toFormula index).vars ∨ x ∈ (b.toFormula index).vars := by
        simp only [toFormula, Formula.mem_vars_or, List.mem_cons, List.not_mem_nil, or_false,
          exists_eq_or_imp, exists_eq_left] at hx
        exact hx
      exact exists_name_of_either iha ihb hsplit
  | iff a b iha ihb =>
      intro x hx
      have hsplit : x ∈ (a.toFormula index).vars ∨ x ∈ (b.toFormula index).vars := by
        simp only [toFormula, Formula.mem_vars_and, Formula.mem_vars_or, List.mem_cons,
          List.not_mem_nil, or_false, exists_eq_or_imp, exists_eq_left] at hx
        -- both implications have the variables of both sides
        exact hx.elim id id
      exact exists_name_of_either iha ihb hsplit

end Expr

end GuardedCnf
