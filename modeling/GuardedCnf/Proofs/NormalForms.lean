import GuardedCnf.Proofs.Trees
/-! # Normal forms — what normalizing keeps

    Normalizing a formula for a polarity moves its negations down to the literals.
    A second normalization has nothing left to move and only turns literals and
    connectives around, so that two polarities act as one: equal ones as the
    positive, different ones as the negative.  The literals stay where they are,
    and a formula without negation nodes is its own normal form. -/

namespace GuardedCnf.Formula

variable {f : Formula} {fs : List Formula}

/-! ## Normalizing twice. -/

theorem normalAll_normalAll {p q : Bool}
    (h : ∀ f ∈ fs, (f.normal p).normal q = f.normal (p == q)) :
    normalAll q (normalAll p fs) = normalAll (p == q) fs := by
  rw [normalAll_eq_map, normalAll_eq_map, normalAll_eq_map, List.map_map]
  exact List.map_congr_left h

/-- **TWO NORMALIZATIONS ARE ONE**, whose polarity is positive just when the two
    polarities agree. -/
theorem normal_normal (f : Formula) (p q : Bool) : (f.normal p).normal q = f.normal (p == q) := by
  induction f generalizing p with
  | lit l =>
      cases p with
      | true => cases q <;> rfl
      | false =>
          cases q with
          | true => rfl
          | false => exact congrArg lit l.complement_complement
  | not f ih =>
      show (f.normal (!p)).normal q = f.normal (!(p == q))
      rw [ih]
      -- the connective is turned around once for each false polarity
      cases p <;> cases q <;> rfl
  | and fs ih =>
      have hfs := normalAll_normalAll fun f hf => ih f hf p
      cases p <;> cases q
      · exact congrArg Formula.and hfs
      · exact congrArg Formula.or hfs
      · exact congrArg Formula.or hfs
      · exact congrArg Formula.and hfs
  | or fs ih =>
      have hfs := normalAll_normalAll fun f hf => ih f hf p
      cases p <;> cases q
      · exact congrArg Formula.or hfs
      · exact congrArg Formula.and hfs
      · exact congrArg Formula.and hfs
      · exact congrArg Formula.or hfs

/-- The negation of a negation is the formula. -/
theorem negatedNnf_negatedNnf (f : Formula) : f.negatedNnf.negatedNnf = f.nnf :=
  normal_normal f false false

/-! ## Formulas in normal form. -/

theorem normalAll_of_nnf (h : ∀ f ∈ fs, f.nnf = f) : normalAll true fs = fs := by
  rw [normalAll_eq_map]
  exact (List.map_congr_left h).trans (List.map_id fs)

/-- A formula without negation nodes is its own normal form. -/
theorem nnf_of_isNnf (h : f.isNnf = true) : f.nnf = f := by
  induction f with
  | lit l => rfl
  | not f _ => exact nomatch h
  | and fs ih =>
      rw [isNnf, isNnfAll_eq_all, List.all_eq_true] at h
      exact congrArg Formula.and (normalAll_of_nnf fun f hf => ih f hf (h f hf))
  | or fs ih =>
      rw [isNnf, isNnfAll_eq_all, List.all_eq_true] at h
      exact congrArg Formula.or (normalAll_of_nnf fun f hf => ih f hf (h f hf))

/-- The formulas in normal form are those that normalizing does not change. -/
theorem nnf_eq_self_iff : f.nnf = f ↔ f.isNnf = true :=
  ⟨fun h => h ▸ isNnf_normal f true, nnf_of_isNnf⟩

/-! ## Variables. -/

/-- The variable count is least among the bounds on the variables. -/
theorem varCount_le_iff {n : Nat} : f.varCount ≤ n ↔ ∀ x ∈ f.vars, x < n := by
  rw [varCount, bound_le_iff, vars, List.forall_mem_map]

theorem varCount_normal (f : Formula) (p : Bool) : (f.normal p).varCount = f.varCount := by
  have hbounds (n : Nat) : (f.normal p).varCount ≤ n ↔ f.varCount ≤ n := by
    rw [varCount_le_iff, varCount_le_iff, vars_normal]
  exact Nat.le_antisymm ((hbounds _).mpr (Nat.le_refl _)) ((hbounds _).mp (Nat.le_refl _))

/-- **NORMALIZING KEEPS A FORMULA**.  The normal forms of a formula and of its
    negation have no negation node, and the truth values that they should have.
    Normalizing changes no formula that is in normal form, and negating twice is
    normalizing once.  The variables stay in order, and so does their count. -/
theorem normalizing_keeps_formulas (f : Formula) :
    (f.nnf.isNnf = true ∧ f.negatedNnf.isNnf = true) ∧
      (∀ v, f.nnf.eval v = f.eval v ∧ f.negatedNnf.eval v = !f.eval v) ∧
      (f.nnf = f ↔ f.isNnf = true) ∧ f.negatedNnf.negatedNnf = f.nnf ∧
      (f.nnf.vars = f.vars ∧ f.negatedNnf.vars = f.vars) ∧
      (f.nnf.varCount = f.varCount ∧ f.negatedNnf.varCount = f.varCount) := by
  refine ⟨⟨isNnf_normal f true, isNnf_normal f false⟩, ?_, nnf_eq_self_iff, ?_, ?_, ?_⟩
  · exact fun v => ⟨eval_nnf v f, eval_negatedNnf v f⟩
  · exact negatedNnf_negatedNnf f
  · exact ⟨vars_normal f true, vars_normal f false⟩
  · exact ⟨varCount_normal f true, varCount_normal f false⟩

/-- Constants and connectives turn around below a negation, and turn back below
    the next. -/
example :
    let x : Literal := ⟨0, true⟩
    let y : Literal := ⟨1, true⟩
    (Formula.not (.and [.lit x, .or [], .not (.or [.lit y, .and []])])).nnf =
      .or [.lit x.complement, .and [], .or [.lit y, .and []]] := rfl

end GuardedCnf.Formula
