import GuardedCnf.Proofs.Distribution
/-! # Renaming — the same clauses on other variables

    A renaming goes through clauses literal by literal and keeps their order.
    Renamed clauses are true when the clauses are true with every variable having
    the value of the one it is renamed to. -/

namespace GuardedCnf

variable {ρ : Var → Var}

/-- The literal of the same polarity on another variable. -/
def Literal.rename (ρ : Var → Var) (l : Literal) : Literal := ⟨ρ l.var, l.positive⟩

namespace Cnf

/-- The same clauses with other variables, literal by literal. -/
def rename (ρ : Var → Var) (f : Cnf) : Cnf := f.map fun c => c.map (Literal.rename ρ)

theorem rename_append (ρ : Var → Var) (f g : Cnf) :
    rename ρ (f ++ g) = f.rename ρ ++ g.rename ρ := List.map_append

/-- Nothing changes when the variables of the clauses stay. -/
theorem rename_of_fixed {f : Cnf} (h : f.Within fun x => ρ x = x) : f.rename ρ = f := by
  have hclause : ∀ c ∈ f, c.map (Literal.rename ρ) = c := by
    intro c hc
    have hliteral : ∀ l ∈ c, l.rename ρ = l := by
      intro l hl
      show (⟨ρ l.var, l.positive⟩ : Literal) = l
      rw [h c hc l hl]
    exact (List.map_congr_left hliteral).trans (List.map_id c)
  exact (List.map_congr_left hclause).trans (List.map_id f)

theorem Within.rename {p : Var → Prop} {f : Cnf} (h : f.Within fun x => p (ρ x)) :
    (f.rename ρ).Within p := by
  intro d hd k hk
  obtain ⟨c, hc, rfl⟩ := List.mem_map.mp hd
  obtain ⟨l, hl, rfl⟩ := List.mem_map.mp hk
  exact h c hc l hl

theorem rename_guarded (ρ : Var → Var) (f : Cnf) (l : Literal) :
    (f.guarded l).rename ρ = (f.rename ρ).guarded (l.rename ρ) := by
  unfold rename guarded
  rw [List.map_map, List.map_map]
  refine List.map_congr_left fun c _ => ?_
  exact List.map_append

theorem eval_rename (ρ : Var → Var) (v : Valuation) (f : Cnf) :
    eval v (f.rename ρ) = eval (fun x => v (ρ x)) f := by
  unfold eval rename
  rw [List.all_map]
  refine Formula.all_congr_mem fun c _ => ?_
  show Clause.eval v (c.map (Literal.rename ρ)) = _
  rw [Clause.eval, List.any_map]
  rfl

/-- The tree of renamed clauses has their literals in place. -/
theorem toTree_rename (ρ : Var → Var) (f : Cnf) :
    (f.rename ρ).toTree = .and (f.map fun c => .or (c.map fun l => .lit (l.rename ρ))) := by
  rw [toTree, rename, List.map_map]
  refine congrArg Formula.and (List.map_congr_left fun c _ => ?_)
  exact congrArg Formula.or List.map_map

/-- The tree of clauses has their truth value. -/
theorem eval_toTree (v : Valuation) (f : Cnf) : f.toTree.eval v = eval v f := by
  rw [toTree, Formula.eval_and, List.all_map]
  refine Formula.all_congr_mem fun c _ => ?_
  rw [Function.comp_apply, Formula.eval_or, List.any_map]
  rfl

end Cnf

end GuardedCnf
