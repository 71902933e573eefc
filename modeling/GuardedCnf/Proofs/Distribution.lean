import GuardedCnf.Distribution
import GuardedCnf.Proofs.Outcomes
import GuardedCnf.Proofs.Trees
/-! # Truth of clauses and of distributed formulas

    Merging two clauses is their disjunction, and a merger is given up only when
    that disjunction is always true.  So the product of two lists of clauses is
    true where one of them is, and by induction over the tree a distributed
    formula has the truth value of the formula it came from. -/

namespace GuardedCnf

/-! ## Clauses. -/

namespace Clause

/-- A clause of two parts holds if one of them does. -/
theorem eval_append (v : Valuation) (c d : Clause) :
    eval v (c ++ d) = (eval v c || eval v d) := List.any_append

theorem eval_singleton (v : Valuation) (l : Literal) : eval v [l] = l.eval v :=
  Bool.or_false (l.eval v)

theorem eval_of_mem {v : Valuation} {c : Clause} {l : Literal} (hmem : l ∈ c)
    (hl : l.eval v = true) : eval v c = true :=
  List.any_eq_true.mpr ⟨l, hmem, hl⟩

/-- A literal is inserted by disjunction. -/
theorem eval_insert {c d : Clause} {l : Literal} (h : c.insert l = some d) (v : Valuation) :
    eval v d = (eval v c || l.eval v) := by
  unfold insert at h
  split at h
  · exact nomatch h
  · split at h
    · next hl =>
        rw [← Option.some.inj h]
        cases hv : l.eval v with
        | false => rw [Bool.or_false]
        | true => rw [Bool.or_true, eval_of_mem (List.contains_iff_mem.mp hl) hv]
    · rw [← Option.some.inj h, eval_append, eval_singleton]

/-- A literal that is not inserted is true where the clause is false. -/
theorem eval_of_insert_none {c : Clause} {l : Literal} (h : c.insert l = none)
    (v : Valuation) : (eval v c || l.eval v) = true := by
  unfold insert at h
  split at h
  · next hl =>
      cases hv : l.eval v with
      | true => exact Bool.or_true _
      | false =>
          have hc : l.complement.eval v = true := by rw [Literal.eval_complement, hv]; rfl
          rw [eval_of_mem (List.contains_iff_mem.mp hl) hc]
          rfl
  · split at h <;> exact nomatch h

/-- A merger is the disjunction of its parts. -/
theorem eval_merge {c d r : Clause} (h : c.merge d = some r) (v : Valuation) :
    eval v r = (eval v c || eval v d) := by
  induction d generalizing c with
  | nil =>
      rw [← Option.some.inj h]
      exact (Bool.or_false _).symm
  | cons l d ih =>
      obtain ⟨k, hk, hr⟩ := Option.bind_eq_some_iff.mp h
      rw [ih hr, eval_insert hk, Bool.or_assoc]
      rfl

/-- Clauses without merger have a disjunction that is always true. -/
theorem eval_of_merge_none {c d : Clause} (h : c.merge d = none) (v : Valuation) :
    (eval v c || eval v d) = true := by
  induction d generalizing c with
  | nil => exact nomatch h
  | cons l d ih =>
      show (eval v c || (l.eval v || eval v d)) = true
      rw [← Bool.or_assoc]
      cases hk : c.insert l with
      | none => rw [eval_of_insert_none hk v, Bool.true_or]
      | some k =>
          have hr : k.merge d = none := by
            rw [← h]
            show k.merge d = (c.insert l).bind fun k => k.merge d
            rw [hk]
            rfl
          rw [← eval_insert hk v]
          exact ih hr

/-- A merger has no literal that neither of its parts has. -/
theorem mem_of_mem_merge {c d r : Clause} (h : c.merge d = some r) {l : Literal} (hl : l ∈ r) :
    l ∈ c ∨ l ∈ d := by
  induction d generalizing c with
  | nil => exact Or.inl (Option.some.inj h ▸ hl)
  | cons k d ih =>
      obtain ⟨b, hb, hr⟩ := Option.bind_eq_some_iff.mp h
      rcases ih hr with hmem | hmem
      · unfold insert at hb
        split at hb
        · exact nomatch hb
        · split at hb
          · exact Or.inl (Option.some.inj hb ▸ hmem)
          · rw [← Option.some.inj hb] at hmem
            rcases List.mem_append.mp hmem with hc | hk
            · exact Or.inl hc
            · exact Or.inr (List.mem_singleton.mp hk ▸ List.mem_cons_self ..)
      · exact Or.inr (List.mem_cons_of_mem _ hmem)

end Clause

/-! ## Lists of clauses. -/

namespace Cnf

/-- Clauses of two parts hold if both do. -/
@[simp] theorem eval_append (v : Valuation) (f g : Cnf) :
    eval v (f ++ g) = (eval v f && eval v g) := List.all_append

theorem eval_cons (v : Valuation) (c : Clause) (f : Cnf) :
    eval v (c :: f) = (c.eval v && eval v f) := List.all_cons

/-- A guard makes the clauses weaker by one literal. -/
@[simp] theorem eval_guarded (v : Valuation) (f : Cnf) (l : Literal) :
    eval v (f.guarded l) = (eval v f || l.eval v) := by
  induction f with
  | nil => rfl
  | cons c f ih =>
      show eval v ((c ++ [l]) :: guarded f l) = _
      rw [eval_cons, ih, eval_cons, Clause.eval_append, Clause.eval_singleton,
        Bool.or_and_distrib_right]

/-- Merging a clause into others is a disjunction with it; the tautologies that are
    dropped hold anyway. -/
theorem eval_filterMap_merge (v : Valuation) (c : Clause) (g : Cnf) :
    eval v (g.filterMap c.merge) = (c.eval v || eval v g) := by
  induction g with
  | nil => exact (Bool.or_true _).symm
  | cons d g ih =>
      rw [eval_cons, Bool.or_and_distrib_left]
      cases hr : c.merge d with
      | none => rw [List.filterMap_cons_none hr, ih, Clause.eval_of_merge_none hr, Bool.true_and]
      | some r => rw [List.filterMap_cons_some hr, eval_cons, ih, Clause.eval_merge hr]

/-- The product of two lists of clauses is their disjunction. -/
theorem eval_product (v : Valuation) (f g : Cnf) :
    eval v (f.product g) = (eval v f || eval v g) := by
  induction f with
  | nil => rfl
  | cons c f ih =>
      show eval v (g.filterMap c.merge ++ product f g) = _
      rw [eval_append, ih, eval_filterMap_merge, eval_cons, Bool.or_and_distrib_right]

/-- Whether every literal of the clauses is on a variable with a property. -/
def Within (p : Var → Prop) (f : Cnf) : Prop := ∀ c ∈ f, ∀ l ∈ c, p l.var

theorem within_true (f : Cnf) : f.Within fun _ => True := fun _ _ _ _ => trivial

theorem Within.mono {p q : Var → Prop} {f : Cnf} (h : f.Within p) (hpq : ∀ x, p x → q x) :
    f.Within q :=
  fun c hc l hl => hpq l.var (h c hc l hl)

theorem Within.append {p : Var → Prop} {f g : Cnf} (hf : f.Within p) (hg : g.Within p) :
    Within p (f ++ g) := by
  intro c hc
  rcases List.mem_append.mp hc with h | h
  · exact hf c h
  · exact hg c h

/-- A guard adds its own variable only. -/
theorem Within.guarded {p : Var → Prop} {f : Cnf} {l : Literal} (hf : f.Within p)
    (hl : p l.var) : Within p (f.guarded l) := by
  intro c hc k hk
  obtain ⟨d, hd, rfl⟩ := List.mem_map.mp hc
  rcases List.mem_append.mp hk with h | h
  · exact hf d hd k h
  · exact List.mem_singleton.mp h ▸ hl

/-- A product has the variables of its factors only. -/
theorem Within.product {p : Var → Prop} {f g : Cnf} (hf : f.Within p) (hg : g.Within p) :
    Within p (f.product g) := by
  intro r hr l hl
  obtain ⟨c, hc, hr⟩ := List.mem_flatMap.mp hr
  obtain ⟨d, hd, hr⟩ := List.mem_filterMap.mp hr
  rcases Clause.mem_of_mem_merge hr hl with h | h
  · exact hf c hc l h
  · exact hg d hd l h

/-- The variable count bounds the variables of the clauses, and is least. -/
theorem varCount_le_iff {f : Cnf} {n : Nat} : f.varCount ≤ n ↔ f.Within (· < n) := by
  rw [varCount, Formula.bound_le_iff]
  constructor
  · intro h c hc l hl
    exact h l (List.mem_flatten.mpr ⟨c, hc, hl⟩)
  · intro h l hl
    obtain ⟨c, hc, hl⟩ := List.mem_flatten.mp hl
    exact h c hc l hl

/-- The number of variables that a search or a tool takes is large enough. -/
theorem within_max (n : Nat) (f : Cnf) : f.Within (· < max n f.varCount) :=
  varCount_le_iff.mp (Nat.le_max_right n f.varCount)

end Cnf

/-! ## Distributed formulas. -/

namespace Formula

/-- Clauses that stand for a formula: of the same truth value, on variables of
    the formula. -/
structure StandsFor (g : Cnf) (f : Formula) : Prop where
  eval : ∀ v, g.eval v = f.eval v
  within : g.Within (· ∈ f.vars)

/-- Distributed conjuncts stand for their conjunction, if each of them does. -/
theorem distributeAll_standsFor {fs : List Formula} {g : Cnf}
    (hfs : ∀ f ∈ fs, ∀ g, f.distribute = .ok g → StandsFor g f)
    (h : distributeAll fs = .ok g) : StandsFor g (.and fs) := by
  induction fs generalizing g with
  | nil =>
      rw [← Except.ok.inj h]
      exact ⟨fun _ => rfl, fun c hc => nomatch hc⟩
  | cons f fs ih =>
      obtain ⟨a, ha, h⟩ := except_bind_ok.mp h
      obtain ⟨b, hb, h⟩ := except_bind_ok.mp h
      rw [← Except.ok.inj h]
      have hf := hfs f (List.mem_cons_self ..) a ha
      have hrest := ih (fun k hk => hfs k (List.mem_cons_of_mem _ hk)) hb
      refine ⟨fun v => ?_, Cnf.Within.append ?_ ?_⟩
      · rw [Cnf.eval_append, hf.eval, hrest.eval, eval_and, eval_and, List.all_cons]
      · refine hf.within.mono fun x hx => mem_vars_and.mpr ⟨f, List.mem_cons_self .., hx⟩
      · refine hrest.within.mono fun x hx => ?_
        obtain ⟨k, hk, hx⟩ := mem_vars_and.mp hx
        exact mem_vars_and.mpr ⟨k, List.mem_cons_of_mem _ hk, hx⟩

/-- Distributed disjuncts stand for their disjunction with what was there
    before, if each of them does. -/
theorem distributeAny_standsFor {fs : List Formula} {sofar g : Cnf} {before : Formula}
    (hfs : ∀ f ∈ fs, ∀ g, f.distribute = .ok g → StandsFor g f)
    (hsofar : StandsFor sofar before) (h : distributeAny sofar fs = .ok g) :
    StandsFor g (.or (before :: fs)) := by
  induction fs generalizing sofar before g with
  | nil =>
      rw [← Except.ok.inj h]
      refine ⟨fun v => ?_, hsofar.within.mono fun x hx => ?_⟩
      · rw [hsofar.eval, eval_or, List.any_cons, List.any_nil, Bool.or_false]
      · exact mem_vars_or.mpr ⟨before, List.mem_cons_self .., hx⟩
  | cons f fs ih =>
      obtain ⟨a, ha, h⟩ := except_bind_ok.mp h
      have hf := hfs f (List.mem_cons_self ..) a ha
      -- the clauses so far stand for the disjunction of `before` and `f`
      have hnext : StandsFor (sofar.product a) (.or [before, f]) := by
        refine ⟨fun v => ?_, Cnf.Within.product ?_ ?_⟩
        · rw [Cnf.eval_product, hsofar.eval, hf.eval, eval_or, List.any_cons, List.any_cons,
            List.any_nil, Bool.or_false]
        · exact hsofar.within.mono fun x hx => mem_vars_or.mpr ⟨before, by simp, hx⟩
        · exact hf.within.mono fun x hx => mem_vars_or.mpr ⟨f, by simp, hx⟩
      have hrest := ih (fun k hk => hfs k (List.mem_cons_of_mem _ hk)) hnext h
      refine ⟨fun v => ?_, hrest.within.mono fun x hx => ?_⟩
      · rw [hrest.eval]
        simp only [eval_or, List.any_cons, List.any_nil, Bool.or_false, Bool.or_assoc]
      · obtain ⟨k, hk, hx⟩ := mem_vars_or.mp hx
        rcases List.mem_cons.mp hk with rfl | hk
        · obtain ⟨j, hj, hxj⟩ := mem_vars_or.mp hx
          rcases List.mem_pair.mp hj with rfl | rfl
          · exact mem_vars_or.mpr ⟨j, by simp, hxj⟩
          · exact mem_vars_or.mpr ⟨j, by simp, hxj⟩
        · exact mem_vars_or.mpr ⟨k, by simp [hk], hx⟩

/-- **A DISTRIBUTED FORMULA STANDS FOR THE FORMULA**, by induction over the
    tree; a disjunction starts from the empty clause, which is false. -/
theorem distribute_standsFor {f : Formula} {g : Cnf} (h : f.distribute = .ok g) :
    StandsFor g f := by
  induction f generalizing g with
  | lit l =>
      rw [← Except.ok.inj h]
      refine ⟨fun v => ?_, ?_⟩
      · rw [Cnf.eval_cons, Clause.eval_singleton]
        exact Bool.and_true _
      · intro c hc k hk
        rw [List.mem_singleton.mp hc] at hk
        exact List.mem_map_of_mem (f := (·.var)) hk
  | not f _ => exact nomatch h
  | and fs ih => exact distributeAll_standsFor (fun f hf g hg => ih f hf hg) h
  | or fs ih =>
      -- the product starts from the empty clause, which stands for falsity
      have hfalse : StandsFor [[]] bottom :=
        ⟨fun v => rfl, fun c hc l hl => by rw [List.mem_singleton.mp hc] at hl; exact nomatch hl⟩
      have hor := distributeAny_standsFor (fun f hf g hg => ih f hf hg) hfalse h
      refine ⟨fun v => ?_, hor.within.mono fun x hx => ?_⟩
      · rw [hor.eval, eval_or, eval_or, List.any_cons]
        rfl
      · obtain ⟨k, hk, hx⟩ := mem_vars_or.mp hx
        rcases List.mem_cons.mp hk with rfl | hk
        · exact nomatch hx
        · exact mem_vars_or.mpr ⟨k, hk, hx⟩

/-- A conjunction is distributed if all its parts are. -/
theorem exists_distributeAll {fs : List Formula}
    (hfs : ∀ f ∈ fs, ∃ g, f.distribute = .ok g) : ∃ g, distributeAll fs = .ok g := by
  induction fs with
  | nil => exact ⟨[], rfl⟩
  | cons f fs ih =>
      obtain ⟨a, ha⟩ := hfs f (List.mem_cons_self ..)
      obtain ⟨b, hb⟩ := ih fun k hk => hfs k (List.mem_cons_of_mem _ hk)
      exact ⟨a ++ b, except_bind_ok.mpr ⟨a, ha, except_bind_ok.mpr ⟨b, hb, rfl⟩⟩⟩

/-- A disjunction is distributed if all its parts are, whatever was there before. -/
theorem exists_distributeAny {fs : List Formula} (sofar : Cnf)
    (hfs : ∀ f ∈ fs, ∃ g, f.distribute = .ok g) : ∃ g, distributeAny sofar fs = .ok g := by
  induction fs generalizing sofar with
  | nil => exact ⟨sofar, rfl⟩
  | cons f fs ih =>
      obtain ⟨a, ha⟩ := hfs f (List.mem_cons_self ..)
      obtain ⟨b, hb⟩ := ih (Cnf.product sofar a) fun k hk => hfs k (List.mem_cons_of_mem _ hk)
      exact ⟨b, except_bind_ok.mpr ⟨a, ha, hb⟩⟩

/-- A formula without negation nodes can be distributed. -/
theorem exists_distribute {f : Formula} (h : f.isNnf = true) : ∃ g, f.distribute = .ok g := by
  induction f with
  | lit l => exact ⟨[[l]], rfl⟩
  | not f _ => exact nomatch h
  | and fs ih =>
      rw [isNnf, isNnfAll_eq_all] at h
      exact exists_distributeAll fun f hf => ih f hf (List.all_eq_true.mp h f hf)
  | or fs ih =>
      rw [isNnf, isNnfAll_eq_all] at h
      exact exists_distributeAny [[]] fun f hf => ih f hf (List.all_eq_true.mp h f hf)

end Formula

end GuardedCnf
