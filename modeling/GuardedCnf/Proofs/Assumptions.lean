import GuardedCnf.Proofs.Selectors
/-! # Assumptions — conjuncts enabled, negated and dropped

    A choice of conjuncts is two lists of numbers: the negated conjuncts have to
    be false, the free ones may be either, and all others have to be true.  The
    assumptions on selectors say the same of the selectors, which follow their
    conjuncts; so a choice can be made by assumptions on one encoding, or by
    encoding the conjunction that the choice leaves. -/

namespace GuardedCnf.Encoding

variable {negated free : List Nat}

/-! ## Choices. -/

/-- A choice among `n` conjuncts: all numbers are those of conjuncts, and none
    is in both lists. -/
structure ValidChoice (n : Nat) (negated free : List Nat) : Prop where
  known : ∀ i ∈ negated ++ free, 1 ≤ i ∧ i ≤ n
  disjoint : ∀ i ∈ negated, i ∉ free

/-- The values of conjuncts numbered from `i` are as chosen: false for those of
    `negated`, true for those of neither list. -/
def Chosen (negated free : List Nat) (i : Nat) (values : List Bool) : Prop :=
  ∀ p ∈ values.zipIdx i, (p.2 ∈ negated → p.1 = false) ∧
    (p.2 ∉ negated → p.2 ∉ free → p.1 = true)

instance (negated free : List Nat) (i : Nat) (values : List Bool) :
    Decidable (Chosen negated free i values) :=
  inferInstanceAs (Decidable (∀ p ∈ values.zipIdx i, (p.2 ∈ negated → p.1 = false) ∧
    (p.2 ∉ negated → p.2 ∉ free → p.1 = true)))

theorem chosen_nil (i : Nat) : Chosen negated free i [] := fun _ hp => nomatch hp

theorem chosen_cons {i : Nat} {b : Bool} {bs : List Bool} :
    Chosen negated free i (b :: bs) ↔
      ((i ∈ negated → b = false) ∧ (i ∉ negated → i ∉ free → b = true)) ∧
        Chosen negated free (i + 1) bs := by
  rw [Chosen, List.zipIdx_cons, List.forall_mem_cons]
  exact Iff.rfl

/-- Nothing is asked of a free conjunct. -/
theorem chosen_cons_of_free {i : Nat} {b : Bool} {bs : List Bool}
    (hdisjoint : ∀ i ∈ negated, i ∉ free) (hfree : i ∈ free) :
    Chosen negated free i (b :: bs) ↔ Chosen negated free (i + 1) bs := by
  have hneg : i ∉ negated := fun hmem => hdisjoint i hmem hfree
  rw [chosen_cons]
  refine and_iff_right ⟨?_, ?_⟩
  · exact fun hmem => absurd hmem hneg
  · exact fun _ hno => absurd hfree hno

/-- One value is asked of a conjunct that is not free. -/
theorem chosen_cons_of_not_free {i : Nat} {b : Bool} {bs : List Bool} (hfree : i ∉ free) :
    Chosen negated free i (b :: bs) ↔
      b = !negated.contains i ∧ Chosen negated free (i + 1) bs := by
  rw [chosen_cons]
  refine and_congr_left fun _ => ?_
  by_cases hneg : i ∈ negated
  · rw [List.contains_iff_mem.mpr hneg]
    exact ⟨fun h => h.1 hneg, fun h => ⟨fun _ => h, fun hno => absurd hneg hno⟩⟩
  · rw [Bool.eq_false_iff.mpr fun hmem => hneg (List.contains_iff_mem.mp hmem)]
    exact ⟨fun h => h.2 hneg hfree, fun h => ⟨fun hmem => absurd hmem hneg, fun _ _ => h⟩⟩

/-! ## Assumptions. -/

/-- The assumptions on selectors say that the values of the selectors are as
    chosen. -/
theorem eval_select (hdisjoint : ∀ i ∈ negated, i ∉ free) (v : Valuation) (i : Nat)
    (gs : List GuardedConjunct) :
    (∀ l ∈ select negated free i gs, l.eval v = true) ↔
      Chosen negated free i ((gs.map (·.selector)).map v) := by
  induction gs generalizing i with
  | nil => exact ⟨fun _ => chosen_nil i, fun _ l hl => nomatch hl⟩
  | cons g gs ih =>
      rw [List.map_cons, List.map_cons, select]
      by_cases hfree : i ∈ free
      · rw [if_pos (List.contains_iff_mem.mpr hfree), ih, chosen_cons_of_free hdisjoint hfree]
      · rw [if_neg (fun hmem => hfree (List.contains_iff_mem.mp hmem)), List.forall_mem_cons, ih,
          chosen_cons_of_not_free hfree]
        exact and_congr_left fun _ => beq_iff_eq

/-- Assumptions are made for the valid choices and for no others. -/
theorem assumptions_ok_iff {e : Encoding} {ls : List Literal} :
    e.assumptions negated free = .ok ls ↔
      ValidChoice e.conjuncts.length negated free ∧
        ls = select negated free 1 e.conjuncts := by
  have hknown : (negated ++ free).find? (fun i => i = 0 || e.conjuncts.length < i) = none ↔
      ∀ i ∈ negated ++ free, 1 ≤ i ∧ i ≤ e.conjuncts.length := by
    rw [List.find?_eq_none]
    refine forall₂_congr fun i _ => ?_
    simp only [Bool.or_eq_true, decide_eq_true_eq]
    omega
  have hdisjoint : negated.find? free.contains = none ↔ ∀ i ∈ negated, i ∉ free := by
    rw [List.find?_eq_none]
    exact forall₂_congr fun i _ => not_congr List.contains_iff_mem
  unfold assumptions
  constructor
  · intro h
    -- the checks come in this order, and the choice is taken when both pass
    split at h
    · exact nomatch h
    · next h1 =>
        split at h
        · exact nomatch h
        · next h2 =>
            exact ⟨⟨hknown.mp h1, hdisjoint.mp h2⟩, (Except.ok.inj h).symm⟩
  · rintro ⟨hvalid, rfl⟩
    rw [hknown.mpr hvalid.known, hdisjoint.mpr hvalid.disjoint]

theorem countingAssumptions_ok_iff {e : Encoding} {ls : List Literal} :
    e.countingAssumptions negated free = .ok ls ↔
      ValidChoice e.conjuncts.length negated free ∧
        ls = select negated free 1 e.conjuncts ++ [⟨e.root, false⟩] := by
  unfold countingAssumptions
  rw [except_bind_ok]
  constructor
  · rintro ⟨ks, hks, h⟩
    obtain ⟨hvalid, rfl⟩ := assumptions_ok_iff.mp hks
    exact ⟨hvalid, (Except.ok.inj h).symm⟩
  · rintro ⟨hvalid, rfl⟩
    exact ⟨_, assumptions_ok_iff.mpr ⟨hvalid, rfl⟩, rfl⟩

/-! ## Toggled conjunctions. -/

/-- The conjuncts numbered from `i` that a choice leaves: those of `free` are
    left out, and those of `negated` replaced by their negations. -/
def toggle (negated free : List Nat) (i : Nat) : List Formula → List Formula
  | [] => []
  | f :: fs =>
      let others := toggle negated free (i + 1) fs
      if free.contains i then others
      else (if negated.contains i then f.negatedNnf else f) :: others

/-- A toggled conjunction holds when the values of the conjuncts are as
    chosen. -/
theorem eval_toggle (hdisjoint : ∀ i ∈ negated, i ∉ free) (v : Valuation) (i : Nat)
    (fs : List Formula) :
    (∀ f ∈ toggle negated free i fs, f.eval v = true) ↔
      Chosen negated free i (fs.map (Formula.eval v)) := by
  induction fs generalizing i with
  | nil => exact ⟨fun _ => chosen_nil i, fun _ f hf => nomatch hf⟩
  | cons f fs ih =>
      rw [List.map_cons, toggle]
      by_cases hfree : i ∈ free
      · rw [if_pos (List.contains_iff_mem.mpr hfree), ih, chosen_cons_of_free hdisjoint hfree]
      · rw [if_neg (fun hmem => hfree (List.contains_iff_mem.mp hmem)), List.forall_mem_cons, ih,
          chosen_cons_of_not_free hfree]
        refine and_congr_left fun _ => ?_
        cases hneg : negated.contains i with
        | true =>
            show f.negatedNnf.eval v = true ↔ _
            rw [Formula.eval_negatedNnf, Bool.not_eq_true']
            exact Iff.rfl
        | false => exact Iff.rfl

theorem vars_of_mem_toggle {i : Nat} {fs : List Formula} {x : Var}
    (h : ∃ f ∈ toggle negated free i fs, x ∈ f.vars) : ∃ f ∈ fs, x ∈ f.vars := by
  induction fs generalizing i with
  | nil => exact h
  | cons f fs ih =>
      obtain ⟨k, hk, hx⟩ := h
      have hrest (hk : k ∈ toggle negated free (i + 1) fs) : ∃ f' ∈ f :: fs, x ∈ f'.vars := by
        obtain ⟨j, hj, hxj⟩ := ih ⟨k, hk, hx⟩
        exact ⟨j, List.mem_cons_of_mem _ hj, hxj⟩
      rw [toggle] at hk
      split at hk
      · exact hrest hk
      · rcases List.mem_cons.mp hk with rfl | hk
        · refine ⟨f, List.mem_cons_self .., ?_⟩
          split at hx
          · exact (Formula.vars_normal f false) ▸ hx
          · exact hx
        · exact hrest hk

theorem varCount_toggle_le (negated free : List Nat) (i : Nat) (fs : List Formula) :
    (Formula.and (toggle negated free i fs)).varCount ≤ (Formula.and fs).varCount := by
  refine Formula.bound_le_iff.mpr fun l hl => Formula.lt_varCount_of_mem_vars ?_
  have hmem : l.var ∈ (Formula.and (toggle negated free i fs)).vars := List.mem_map_of_mem hl
  exact Formula.mem_vars_and.mpr (vars_of_mem_toggle (Formula.mem_vars_and.mp hmem))

/-! ## Toggling by assumptions. -/

open GuardedCnf.Valuation (AgreeBelow)

namespace Encodes

variable {e : Encoding} {fs : List Formula} {b : Nat}

theorem length_conjuncts (h : e.Encodes fs b) : e.conjuncts.length = fs.length :=
  h.guards.length_eq

/-- The assumptions of a choice can be met together with the clauses just where
    the values of the conjuncts are as chosen. -/
theorem exists_model_select_iff (h : e.Encodes fs b) (hdisjoint : ∀ i ∈ negated, i ∉ free)
    (v : Valuation) :
    (∃ w, AgreeBelow b v w ∧ e.cnf.eval w = true ∧
      ∀ l ∈ select negated free 1 e.conjuncts, l.eval w = true) ↔
      Chosen negated free 1 (fs.map (Formula.eval v)) := by
  constructor
  · rintro ⟨w, hagree, hw, hls⟩
    rw [← h.map_selectors hagree hw]
    exact (eval_select hdisjoint w 1 e.conjuncts).mp hls
  · intro hchosen
    obtain ⟨w, hagree, -, hw⟩ := h.exists_model v (Or.inl rfl)
    have hbelow := h.agreeBelow_of_agreeOff hagree
    refine ⟨w, hbelow, hw, (eval_select hdisjoint w 1 e.conjuncts).mpr ?_⟩
    rw [← h.map_selectors hbelow hw] at hchosen
    exact hchosen

/-- The root can be true in a model just where all conjuncts are. -/
theorem exists_model_root_iff (h : e.Encodes fs b) (v : Valuation) :
    (∃ w, AgreeBelow b v w ∧ e.cnf.eval w = true ∧
      (⟨e.root, true⟩ : Literal).eval w = true) ↔ ∀ f ∈ fs, f.eval v = true := by
  constructor
  · rintro ⟨w, hagree, hw, hroot⟩
    exact h.all_of_root hagree hw (beq_iff_eq.mp hroot)
  · intro hall
    obtain ⟨w, hagree, hroot, hw⟩ := h.exists_model v (Or.inr hall)
    exact ⟨w, h.agreeBelow_of_agreeOff hagree, hw, beq_iff_eq.mpr hroot⟩

end Encodes

/-- **TOGGLING IS ENCODING AGAIN**.  The assumptions of a choice on the encoding
    of a conjunction allow the same values of the input variables as the root of
    an encoding of the conjunction that the choice leaves. -/
theorem toggling_is_encoding_again {fs : List Formula} {vars vars' again again' : VariableMap}
    {e e' : Encoding} (hvars : (Formula.and fs).varCount ≤ vars.size)
    (hagain : again.size = vars.size) (hchoice : ValidChoice fs.length negated free)
    (h : (ofFormula (.and fs)).run vars = .ok e vars')
    (h' : (ofFormula (.and (toggle negated free 1 fs))).run again = .ok e' again') :
    ∃ ls, e.assumptions negated free = .ok ls ∧ ∀ x : Valuation,
      (∃ w, AgreeBelow vars.size x w ∧ e.cnf.eval w = true ∧ ∀ l ∈ ls, l.eval w = true) ↔
        ∃ w, AgreeBelow vars.size x w ∧ e'.cnf.eval w = true ∧
          (⟨e'.root, true⟩ : Literal).eval w = true := by
  have hcount : inputCount vars fs = vars.size := Nat.max_eq_left hvars
  have hcount' : inputCount again (toggle negated free 1 fs) = vars.size := by
    rw [inputCount, hagain]
    exact Nat.max_eq_left (Nat.le_trans (varCount_toggle_le negated free 1 fs) hvars)
  have henc := (ofFormula_ok h).1
  have henc' := (ofFormula_ok h').1
  rw [hcount] at henc
  rw [hcount'] at henc'
  refine ⟨_, assumptions_ok_iff.mpr ⟨henc.length_conjuncts ▸ hchoice, rfl⟩, fun x => ?_⟩
  -- both come down to the values of the conjuncts, those toggled being what the choice
  -- asks for
  rw [henc.exists_model_select_iff hchoice.disjoint, henc'.exists_model_root_iff,
    eval_toggle hchoice.disjoint]

/-- Of `x | y`, `!z` and `x & z` the first is negated and the second free. -/
theorem toggling_is_encoding_again_three :
    ∃ vars vars' again' e e', vars.size = 3 ∧
      (ofFormula (.and [.or [.lit ⟨0, true⟩, .lit ⟨1, true⟩], .lit ⟨2, false⟩,
        .and [.lit ⟨0, true⟩, .lit ⟨2, true⟩]])).run vars = .ok e vars' ∧
      (ofFormula (.and [.and [.lit ⟨0, false⟩, .lit ⟨1, false⟩],
        .and [.lit ⟨0, true⟩, .lit ⟨2, true⟩]])).run vars = .ok e' again' ∧
      ∃ ls, e.assumptions [1] [2] = .ok ls ∧ ∀ x : Valuation,
        (∃ w, AgreeBelow vars.size x w ∧ e.cnf.eval w = true ∧ ∀ l ∈ ls, l.eval w = true) ↔
          ∃ w, AgreeBelow vars.size x w ∧ e'.cnf.eval w = true ∧
            (⟨e'.root, true⟩ : Literal).eval w = true := by
  let vars := (((VariableMap.empty 7).push ⟨"x", false⟩ (by simp)).push ⟨"y", false⟩ (by simp)).push
    ⟨"z", false⟩ (by simp)
  let fs : List Formula := [.or [.lit ⟨0, true⟩, .lit ⟨1, true⟩], .lit ⟨2, false⟩,
    .and [.lit ⟨0, true⟩, .lit ⟨2, true⟩]]
  have hnnf : ∀ f ∈ fs, f.isNnf = true := by
    simp [fs, Formula.isNnf, Formula.isNnfAll]
  have hnnf' : ∀ f ∈ toggle [1] [2] 1 fs, f.isNnf = true := by
    simp [fs, toggle, Formula.negatedNnf, Formula.normal, Formula.normalAll, Formula.isNnf,
      Formula.isNnfAll]
  have hchoice : ValidChoice fs.length [1] [2] := ⟨by simp [fs], by simp⟩
  obtain ⟨e, vars', h⟩ := exists_ofFormula vars hnnf (by decide)
  obtain ⟨e', again', h'⟩ := exists_ofFormula vars hnnf' (by decide)
  exact ⟨vars, vars', again', e, e', rfl, h, h',
    toggling_is_encoding_again (by decide) rfl hchoice h h'⟩

end GuardedCnf.Encoding
