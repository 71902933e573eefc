import GuardedCnf.Proofs.Assumptions
import GuardedCnf.Proofs.Enumeration
/-! # Model counts — every input is counted once

    Under the assumptions for counting, the selectors and the root of a model
    are determined by the values of the input variables.  So an encoding has as
    many models as there are values of the input variables with the conjuncts
    as chosen, and the selectors of free conjuncts are the only variables that a
    search has to decide besides the inputs. -/

namespace GuardedCnf.Encoding

variable {negated free : List Nat}

/-! ## The variables of assumptions. -/

/-- The literals of a choice are those of selectors, in order and each at most once. -/
theorem select_sublist (negated free : List Nat) (i : Nat) (gs : List GuardedConjunct) :
    ((select negated free i gs).map (·.var)).Sublist (gs.map (·.selector)) := by
  induction gs generalizing i with
  | nil => exact List.Sublist.slnil
  | cons g gs ih =>
      rw [select, List.map_cons]
      split
      · exact (ih (i + 1)).cons _
      · exact (ih (i + 1)).cons_cons _

/-- Every conjunct is free or has an assumption. -/
theorem length_select_add_countP (negated free : List Nat) (i : Nat)
    (gs : List GuardedConjunct) :
    (select negated free i gs).length + (List.range' i gs.length).countP free.contains =
      gs.length := by
  induction gs generalizing i with
  | nil => rfl
  | cons g gs ih =>
      rw [select, List.length_cons, List.range'_succ, List.countP_cons]
      split
      · rw [← Nat.add_assoc, ih]
      · rw [List.length_cons, Nat.add_right_comm]
        exact congrArg (· + 1) (ih (i + 1))

/-- The free numbers are counted once, however often they are listed. -/
theorem countP_free {n : Nat} (hvalid : ValidChoice n negated free) :
    (List.range' 1 n).countP free.contains = free.toFinset.card := by
  have hnodup : ((List.range' 1 n).filter free.contains).Nodup :=
    List.Nodup.filter _ List.nodup_range'
  rw [List.countP_eq_length_filter, ← List.toFinset_card_of_nodup hnodup]
  refine congrArg Finset.card (Finset.ext fun i => ?_)
  rw [List.mem_toFinset, List.mem_toFinset, List.mem_filter, List.contains_iff_mem,
    List.mem_range'_1]
  refine and_iff_right_of_imp fun hi => ?_
  have hknown := hvalid.known i (List.mem_append_right _ hi)
  omega

/-- The literals that are assumed for counting. -/
def countingLiterals (e : Encoding) (negated free : List Nat) : List Literal :=
  select negated free 1 e.conjuncts ++ [⟨e.root, false⟩]

/-- The assumptions on selectors leave the free conjuncts open. -/
theorem length_select_add_card {gs : List GuardedConjunct}
    (hvalid : ValidChoice gs.length negated free) :
    (select negated free 1 gs).length + free.toFinset.card = gs.length := by
  rw [← countP_free hvalid, length_select_add_countP]

/-! ## Models of an encoding. -/

open GuardedCnf.Valuation (AgreeBelow)

/-- The clauses of guarded conjuncts have the variables of the conjuncts and the
    selectors. -/
theorem GuardsAll.within {gs : List GuardedConjunct} {fs : List Formula} (h : GuardsAll gs fs) :
    Cnf.Within (fun x => (∃ f ∈ fs, x ∈ f.vars) ∨ x ∈ gs.map (·.selector))
      (gs.flatMap GuardedConjunct.clauses) := by
  induction h with
  | nil => exact fun c hc => nomatch hc
  | cons hg _ ih =>
      rw [List.flatMap_cons]
      refine Cnf.Within.append (hg.within.mono fun x hx => ?_) (ih.mono fun x hx => ?_)
      · rcases hx with hx | rfl
        · exact Or.inl ⟨_, List.mem_cons_self .., hx⟩
        · exact Or.inr (List.mem_cons_self ..)
      · rcases hx with ⟨f, hf, hx⟩ | hx
        · exact Or.inl ⟨f, List.mem_cons_of_mem _ hf, hx⟩
        · exact Or.inr (List.mem_cons_of_mem _ hx)

/-- Some values are as chosen. -/
theorem exists_chosen (hdisjoint : ∀ i ∈ negated, i ∉ free) (i n : Nat) :
    ∃ values, values.length = n ∧ Chosen negated free i values := by
  induction n generalizing i with
  | zero => exact ⟨[], rfl, chosen_nil i⟩
  | succ n ih =>
      obtain ⟨values, hlen, hchosen⟩ := ih (i + 1)
      refine ⟨(!negated.contains i) :: values, congrArg (· + 1) hlen, ?_⟩
      by_cases hfree : i ∈ free
      · exact (chosen_cons_of_free hdisjoint hfree).mpr hchosen
      · exact (chosen_cons_of_not_free hfree).mpr ⟨rfl, hchosen⟩

namespace Encodes

variable {e : Encoding} {fs : List Formula} {b : Nat}

/-- Selectors come before the root. -/
theorem lt_of_mem_selectors (h : e.Encodes fs b) {a : Var} (ha : a ∈ e.selectors) :
    a < b + fs.length := by
  rw [h.selectors, List.mem_range'_1] at ha
  exact ha.2

/-- The clauses of an encoding have the variables of the map and its own. -/
theorem within_cnf (h : e.Encodes fs b) : e.cnf.Within (· < b + fs.length + 1) := by
  have hselectors {a : Var} (ha : a ∈ e.selectors) : a < b + fs.length + 1 :=
    Nat.lt_succ_of_lt (h.lt_of_mem_selectors ha)
  refine Cnf.Within.append (h.guards.within.mono fun x hx => ?_) ?_
  · rcases hx with ⟨f, hf, hx⟩ | hx
    · have hlt := h.below f hf x hx
      exact Nat.lt_of_lt_of_le hlt (Nat.le_add_right b (fs.length + 1))
    · exact hselectors hx
  · intro c hc l hl
    obtain ⟨g, hg, rfl⟩ := List.mem_map.mp hc
    rcases List.mem_cons.mp hl with rfl | hl
    · rw [h.root]
      exact Nat.lt_succ_self _
    · rw [List.mem_singleton.mp hl]
      exact hselectors (List.mem_map_of_mem hg)

/-! ## Counting assumptions. -/

/-- The literals for counting say that the choice is met and that the root is false. -/
theorem eval_counting (hdisjoint : ∀ i ∈ negated, i ∉ free) (e : Encoding) (v : Valuation) :
    (∀ l ∈ e.countingLiterals negated free, l.eval v = true) ↔
      Chosen negated free 1 (e.selectors.map v) ∧ v e.root = false := by
  rw [countingLiterals, List.forall_mem_append, eval_select hdisjoint]
  refine and_congr_right fun _ => ?_
  rw [List.forall_mem_singleton]
  exact beq_iff_eq

/-- The literals of a choice are on selectors. -/
theorem lt_of_mem_select (h : e.Encodes fs b) {l : Literal}
    (hl : l ∈ select negated free 1 e.conjuncts) : l.var < b + fs.length :=
  h.lt_of_mem_selectors
    ((select_sublist negated free 1 e.conjuncts).subset (List.mem_map_of_mem hl))

/-- The literals for counting are on own variables. -/
theorem lt_of_mem_counting (h : e.Encodes fs b) {l : Literal}
    (hl : l ∈ e.countingLiterals negated free) : l.var < b + fs.length + 1 := by
  rcases List.mem_append.mp hl with hl | hl
  · exact Nat.lt_succ_of_lt (h.lt_of_mem_select hl)
  · rw [List.mem_singleton.mp hl]
    show e.root < _
    rw [h.root]
    exact Nat.lt_succ_self _

/-- The assumptions for counting do not contradict each other. -/
theorem exists_eval_counting (h : e.Encodes fs b) (hdisjoint : ∀ i ∈ negated, i ∉ free) :
    ∃ v : Valuation, ∀ l ∈ e.countingLiterals negated free, l.eval v = true := by
  obtain ⟨values, hlen, hchosen⟩ := exists_chosen hdisjoint 1 fs.length
  obtain ⟨w, -, hselectors, hroot⟩ := h.exists_values (fun _ => false) hlen false
  exact ⟨w, (eval_counting hdisjoint e w).mpr ⟨hselectors ▸ hchosen, hroot⟩⟩

/-- No own variable is listed twice. -/
theorem nodup_ownVars (h : e.Encodes fs b) : e.ownVars.Nodup := by
  rw [h.ownVars_eq]
  exact List.nodup_range'

/-- Assumptions on different variables of the encoding leave the others
    open. -/
theorem openCount_of_sublist (h : e.Encodes fs b) {ls : List Literal}
    (hsub : (ls.map (·.var)).Sublist e.ownVars) (n : Nat) :
    Search.openCount n ls = n - ls.length := by
  rw [Search.openCount, List.toFinset_card_of_nodup (hsub.nodup h.nodup_ownVars),
    List.length_map]

/-- The input variables, the selectors of the free conjuncts and the root are
    left open by a choice. -/
theorem openCount_select (h : e.Encodes fs b) (hvalid : ValidChoice fs.length negated free) :
    Search.openCount (b + fs.length + 1) (select negated free 1 e.conjuncts) =
      b + free.toFinset.card + 1 := by
  have hlength := h.length_conjuncts
  rw [← hlength] at hvalid
  have hopen := length_select_add_card hvalid
  have hsub : ((select negated free 1 e.conjuncts).map (·.var)).Sublist e.ownVars :=
    (select_sublist negated free 1 e.conjuncts).trans (List.sublist_append_left ..)
  rw [h.openCount_of_sublist hsub]
  omega

/-- For counting the root is not left open. -/
theorem openCount_counting (h : e.Encodes fs b) (hvalid : ValidChoice fs.length negated free) :
    Search.openCount (b + fs.length + 1) (e.countingLiterals negated free) =
      b + free.toFinset.card := by
  have hlength := h.length_conjuncts
  rw [← hlength] at hvalid
  have hopen := length_select_add_card hvalid
  have hsub : ((e.countingLiterals negated free).map (·.var)).Sublist e.ownVars := by
    rw [countingLiterals, List.map_append]
    exact (select_sublist negated free 1 e.conjuncts).append_right [e.root]
  rw [h.openCount_of_sublist hsub, countingLiterals, List.length_append, List.length_singleton]
  omega

/-- **A CHOICE IS DECIDED**: under the assumptions of a choice the enumeration finds a
    model whose values of the conjuncts are as chosen, or there are no such
    values. -/
theorem solve_select (h : e.Encodes fs b) (hvalid : ValidChoice fs.length negated free)
    (hlimit : b + free.toFinset.card + 1 ≤ searchLimit) :
    (∃ m, Enumeration.solve e.cnf (b + fs.length + 1) (select negated free 1 e.conjuncts) =
        .ok (some m) ∧ m.size = b + fs.length + 1 ∧
        Chosen negated free 1 (fs.map (Formula.eval m.value))) ∨
      (Enumeration.solve e.cnf (b + fs.length + 1) (select negated free 1 e.conjuncts) =
        .ok none ∧
        ∀ v, ¬Chosen negated free 1 (fs.map (Formula.eval v))) := by
  -- what the enumeration finds, the search finds with fewer tests
  rw [← Enumeration.search_solve_eq]
  obtain ⟨v, hv⟩ := h.exists_eval_counting hvalid.disjoint
  have hassumed := (List.forall_mem_append.mp hv).1
  have hrange (l : Literal) (hl : l ∈ select negated free 1 e.conjuncts) :
      l.var < b + fs.length + 1 := Nat.lt_succ_of_lt (h.lt_of_mem_select hl)
  have hopen := h.openCount_select hvalid
  obtain ⟨m, hfound, hsize, hcnf, hls⟩ | ⟨hfound, hnone⟩ :=
    Search.solve_ok h.within_cnf hassumed hrange (hopen ▸ hlimit)
  · -- the model itself meets the choice, by the values of its selectors
    have hexists := (h.exists_model_select_iff hvalid.disjoint m.value).mp
      ⟨m.value, fun _ _ => rfl, hcnf, hls⟩
    exact Or.inl ⟨m, hfound, hsize, hexists⟩
  · refine Or.inr ⟨hfound, fun v hchosen => ?_⟩
    obtain ⟨w, -, hw, hls⟩ := (h.exists_model_select_iff hvalid.disjoint v).mpr hchosen
    rw [hnone w hls] at hw
    exact nomatch hw

/-- **EVERY INPUT HAS ONE MODEL** under the assumptions for counting, if its
    values of the conjuncts are as chosen, and none otherwise. -/
theorem countOver_models (h : e.Encodes fs b) (hdisjoint : ∀ i ∈ negated, i ∉ free) :
    countOver (Finset.range (b + fs.length + 1)) (fun w =>
        e.cnf.eval w = true ∧ ∀ l ∈ e.countingLiterals negated free, l.eval w = true) =
      countOver (Finset.range b) fun v => Chosen negated free 1 (fs.map (Formula.eval v)) := by
  have hself (v : Valuation) : AgreeBelow b v v := fun _ _ => rfl
  have hbelow {v w : Valuation} (hvw : ∀ x ∈ Finset.range b, v x = w x) : AgreeBelow b v w :=
    fun x hx => (hvw x (Finset.mem_range.mpr hx)).symm
  refine countOver_eq_of_unique_extension ?_
    (Search.dependsOn_range h.within_cnf fun l hl => h.lt_of_mem_counting hl) ?_ ?_ ?_ ?_
  · exact Finset.range_subset_range.mpr (Nat.le_add_right b (fs.length + 1))
  · intro v w hvw
    show Chosen negated free 1 (fs.map (Formula.eval v)) ↔ Chosen negated free 1 (fs.map _)
    rw [h.map_eval_congr (hbelow hvw)]
  · rintro w ⟨hw, hls⟩
    rw [← h.map_selectors (hself w) hw]
    exact ((eval_counting hdisjoint e w).mp hls).1
  · intro v hv
    -- a false root is always possible
    obtain ⟨w, hagree, hroot, hw⟩ := h.exists_model v (Or.inl rfl)
    have hagree := h.agreeBelow_of_agreeOff hagree
    refine ⟨w, fun x hx => hagree x (Finset.mem_range.mp hx), hw, ?_⟩
    refine (eval_counting hdisjoint e w).mpr ⟨?_, hroot⟩
    rw [h.map_selectors hagree hw]
    exact hv
  · rintro w w' ⟨hw, hls⟩ ⟨hw', hls'⟩ hagree x hx
    obtain ⟨-, hroot⟩ := (eval_counting hdisjoint e w).mp hls
    obtain ⟨-, hroot'⟩ := (eval_counting hdisjoint e w').mp hls'
    -- above the inputs there are just the variables of the encoding
    by_cases hxb : x < b
    · exact hagree x (Finset.mem_range.mpr hxb)
    · refine h.eq_of_mem_ownVars (hbelow hagree) hw hw' (hroot.trans hroot'.symm) x ?_
      rw [h.ownVars_eq, List.mem_range'_1]
      exact ⟨Nat.le_of_not_lt hxb, Finset.mem_range.mp hx⟩

/-- The models under the assumptions for counting are as many as the inputs. -/
theorem count_counting (h : e.Encodes fs b) (hvalid : ValidChoice fs.length negated free) :
    Enumeration.count e.cnf (b + fs.length + 1) (e.countingLiterals negated free) =
      if searchLimit < b + free.toFinset.card then
        .error (.tooManyFree (b + free.toFinset.card))
      else .ok (countOver (Finset.range b) fun v =>
        Chosen negated free 1 (fs.map (Formula.eval v))) := by
  obtain ⟨v, hv⟩ := h.exists_eval_counting hvalid.disjoint
  rw [← Enumeration.search_count_eq,
    Search.count_eq h.within_cnf hv fun l hl => h.lt_of_mem_counting hl,
    h.openCount_counting hvalid, h.countOver_models hvalid.disjoint]

end Encodes

/-- **MODELS ARE COUNTED ONCE**.  Assumptions for counting are made for the
    valid choices.  Under them the enumeration of all models counts the values of the
    input variables for which the conjuncts are as chosen, unless the input variables and the
    free conjuncts are too many. -/
theorem models_are_counted_once {fs : List Formula} {vars vars' : VariableMap} {e : Encoding}
    (h : (ofFormula (.and fs)).run vars = .ok e vars') (negated free : List Nat) :
    ((∃ ls, e.countingAssumptions negated free = .ok ls) ↔
      ValidChoice fs.length negated free) ∧
    ∀ ls, e.countingAssumptions negated free = .ok ls →
      ∀ c, Enumeration.count e.cnf vars'.size ls = .ok c ↔
        inputCount vars fs + free.toFinset.card ≤ searchLimit ∧
          c = countOver (Finset.range (inputCount vars fs)) fun v =>
            Chosen negated free 1 (fs.map (Formula.eval v)) := by
  have henc := (ofFormula_ok h).1
  have hlength := henc.length_conjuncts
  refine ⟨?_, fun ls hls c => ?_⟩
  · rw [← hlength]
    constructor
    · rintro ⟨ls, hls⟩
      exact (countingAssumptions_ok_iff.mp hls).1
    · exact fun hvalid => ⟨_, countingAssumptions_ok_iff.mpr ⟨hvalid, rfl⟩⟩
  · obtain ⟨hvalid, rfl⟩ := countingAssumptions_ok_iff.mp hls
    rw [hlength] at hvalid
    rw [ofFormula_size h]
    -- the count is known up to the limit, and refused beyond it
    refine (Eq.congr_left (henc.count_counting hvalid)).trans ?_
    split
    · next hlarge =>
        simp only [reduceCtorEq, false_iff]
        exact fun h => Nat.not_le_of_lt hlarge h.1
    · next hsmall =>
        rw [Except.ok.injEq, eq_comm]
        exact (and_iff_right (Nat.le_of_not_lt hsmall)).symm

/-- With `x | y` negated and `!z` free, two of the eight inputs are counted. -/
theorem models_are_counted_once_two :
    ∃ vars' e ls, (ofFormula (.and [.or [.lit ⟨0, true⟩, .lit ⟨1, true⟩], .lit ⟨2, false⟩])).run
        (.empty 6) = .ok e vars' ∧
      e.countingAssumptions [1] [2, 2] = .ok ls ∧
      Enumeration.count e.cnf vars'.size ls = .ok 2 := by
  let fs : List Formula := [.or [.lit ⟨0, true⟩, .lit ⟨1, true⟩], .lit ⟨2, false⟩]
  have hnnf : ∀ f ∈ fs, f.isNnf = true := by
    simp [fs, Formula.isNnf, Formula.isNnfAll]
  have hchoice : ValidChoice fs.length [1] [2, 2] := ⟨by simp [fs], by simp⟩
  obtain ⟨e, vars', h⟩ := exists_ofFormula (.empty 6) hnnf (by decide)
  obtain ⟨hsome, hcount⟩ := models_are_counted_once h [1] [2, 2]
  obtain ⟨ls, hls⟩ := hsome.mpr hchoice
  exact ⟨vars', e, ls, h, hls, (hcount ls hls 2).mpr ⟨by decide, by decide⟩⟩

end GuardedCnf.Encoding
