import GuardedCnf.Proofs.Enumeration
import Mathlib.Data.List.GetD
/-! # First models — the order in which models are found

    The values of the unassumed variables are a number, the lowest variable being
    the lowest digit.  A search that decides the highest variable first, and tries
    false before true, finds the model with the least number.  As the assumed
    variables have one value each, this is the first model of all: the one at which
    the enumeration ends. -/

namespace GuardedCnf

variable {f : Cnf} {n : Nat} {as : List Literal} {v w : Valuation} {xs : List Var} {x : Var}

/-! ## Places. -/

/-- The place of the values of variables in the order of counting, where the
    first variable of the list changes fastest. -/
def place (xs : List Var) (v : Valuation) : Nat := (⟨xs.map v⟩ : Model).number

theorem place_eq_binary (xs : List Var) (v : Valuation) :
    place xs v = binary xs.length fun i => (xs.map v).getD i false :=
  congrArg (binary · _) (List.length_map v)

theorem place_concat (xs : List Var) (x : Var) (v : Valuation) :
    place (xs ++ [x]) v = place xs v + if v x then 2 ^ xs.length else 0 := by
  have hlast : ((xs ++ [x]).map v).getD xs.length false = v x := by simp
  rw [place_eq_binary, place_eq_binary, List.length_append, List.length_singleton, binary_succ,
    hlast]
  refine congrArg (· + _) (binary_congr fun i hi => ?_)
  rw [List.map_append, List.getD_append _ _ _ _ (by rwa [List.length_map])]

theorem place_lt (xs : List Var) (v : Valuation) : place xs v < 2 ^ xs.length := by
  rw [place_eq_binary]
  exact binary_lt _ _

/-- Different values are at different places. -/
theorem eq_of_place_eq (h : place xs v = place xs w) : ∀ x ∈ xs, v x = w x := by
  rw [place_eq_binary, place_eq_binary] at h
  intro x hx
  obtain ⟨i, hi, rfl⟩ := List.getElem_of_mem hx
  have hdigit := eq_of_binary_eq h i hi
  rwa [List.getD_eq_getElem _ _ (by rwa [List.length_map]),
    List.getD_eq_getElem _ _ (by rwa [List.length_map]), List.getElem_map, List.getElem_map]
    at hdigit

/-! ## The search. -/

namespace Cnf

/-- Where the highest variable of two valuations is false before it is true, or
    the same, the others decide. -/
theorem place_reverse_cons_le (hx : v x = true → w x = true)
    (h : v x = w x → place xs.reverse v ≤ place xs.reverse w) :
    place (x :: xs).reverse v ≤ place (x :: xs).reverse w := by
  have hlt := place_lt xs.reverse v
  rw [List.reverse_cons, place_concat, place_concat]
  rw [List.length_reverse] at hlt ⊢
  cases hvx : v x <;> cases hwx : w x <;> simp [hvx, hwx] at hx h ⊢ <;> omega

/-- **THE SEARCH FINDS THE FIRST MODEL** over variables in decreasing order: no
    values that satisfy the clauses have a lower place. -/
theorem firstModel_le {ls : List Literal} (hf : f.Within (· ∈ xs))
    (h : f.firstModel xs = some ls) (hv : ∀ l ∈ ls, l.eval v = true) (hw : f.eval w = true) :
    place xs.reverse v ≤ place xs.reverse w := by
  induction xs generalizing f ls with
  | nil => exact Nat.le_refl _
  | cons x xs ih =>
      -- what is left after a decision is satisfied by values that decide alike
      have hgiven {b : Bool} (hwx : w x = b) : (f.given ⟨x, b⟩).eval w = true := by
        rw [eval_given_update, ← hwx, Function.update_eq_self]
        exact hw
      rw [firstModel] at h
      split at h
      · cases h
      · split at h
        · split at h
          · next ks hks =>
              rw [← Option.some.inj h] at hv
              obtain ⟨hx, hv⟩ := List.forall_mem_cons.mp hv
              have hvx : v x = false := beq_iff_eq.mp hx
              have hnot : v x ≠ true := Bool.eq_false_iff.mp hvx
              refine place_reverse_cons_le (fun htrue => absurd htrue hnot) fun hxw => ?_
              exact ih (within_tail (hf.given ⟨x, false⟩)) hks hv (hgiven (hxw.symm.trans hvx))
          · next hfalse =>
              obtain ⟨ks, hks, rfl⟩ := Option.map_eq_some_iff.mp h
              obtain ⟨hx, hv⟩ := List.forall_mem_cons.mp hv
              have hvx : v x = true := beq_iff_eq.mp hx
              -- with the variable false nothing was found
              have hwx : w x = true := by
                refine Bool.eq_true_of_not_eq_false fun hwx => ?_
                have hnone := firstModel_none (within_tail (hf.given ⟨x, false⟩)) hfalse w
                cases (hgiven hwx).symm.trans hnone
              refine place_reverse_cons_le (fun _ => hwx) fun _ => ?_
              exact ih (within_tail (hf.given ⟨x, true⟩)) hks hv (hgiven hwx)
        · next hmentions =>
            obtain ⟨ks, hks, rfl⟩ := Option.map_eq_some_iff.mp h
            obtain ⟨hx, hv⟩ := List.forall_mem_cons.mp hv
            have hvx : v x = false := beq_iff_eq.mp hx
            have hnot : v x ≠ true := Bool.eq_false_iff.mp hvx
            refine place_reverse_cons_le (fun htrue => absurd htrue hnot) fun _ => ?_
            exact ih (within_tail (hf.of_not_mentions hmentions)) hks hv hw

end Cnf

/-! ## The search under assumptions. -/

namespace Search

theorem reverse_freeVars {ks : List Literal} (h : ∀ l, l ∈ ks ↔ l ∈ as) :
    (freeVars n ks).reverse = unassumed n as := by
  rw [freeVars, List.filter_reverse, List.reverse_reverse, unassumed]
  refine List.filter_congr fun x _ => congrArg not ?_
  rw [Bool.eq_iff_iff, List.any_eq_true, List.any_eq_true]
  exact exists_congr fun l => and_congr_left fun _ => h l

/-- Values that agree with the assumptions are told apart by their place among
    the values of the unassumed variables. -/
theorem eq_of_place_unassumed (hv : ∀ l ∈ as, l.eval v = true) (hw : ∀ l ∈ as, l.eval w = true)
    (h : place (unassumed n as) v = place (unassumed n as) w) : ∀ x < n, v x = w x := by
  intro x hx
  by_cases hopen : x ∈ unassumed n as
  · exact eq_of_place_eq h x hopen
  · obtain ⟨l, hl, rfl⟩ : ∃ l ∈ as, l.var = x := by
      by_contra hno
      exact hopen (mem_unassumed.mpr ⟨hx, fun hmem => hno (List.mem_map.mp hmem)⟩)
    rw [beq_iff_eq.mp (hv l hl), beq_iff_eq.mp (hw l hl)]

/-- The model that solving finds is the first. -/
theorem place_le_of_solve {m : Model} (hf : f.Within (· < n)) (has : ∀ l ∈ as, l.eval v = true)
    (hrange : ∀ l ∈ as, l.var < n) (hlimit : openCount n as ≤ searchLimit)
    (h : solve f n as = .ok (some m)) (hw : f.eval w = true) (hls : ∀ l ∈ as, l.eval w = true) :
    place (unassumed n as) m.value ≤ place (unassumed n as) w := by
  obtain ⟨ks, hnodup, hmem, hsolve⟩ := exists_solve hf has hrange hlimit
  rw [hsolve] at h
  obtain ⟨ls, hfirst, rfl⟩ := Option.map_eq_some_iff.mp (Except.ok.inj h)
  have hvars := (Cnf.firstModel_some (within_freeVars hf ks) hfirst).1
  have hholds := eval_ofLiterals hnodup (fun l hl => hrange l ((hmem l).mp hl)) hvars
  have hrest : Cnf.eval w (ks.foldl Cnf.given f) = true := by
    rw [Cnf.eval_foldl_given fun l hl => hls l ((hmem l).mp hl)]
    exact hw
  rw [← reverse_freeVars hmem]
  exact Cnf.firstModel_le (within_freeVars hf ks) hfirst
    (List.forall_mem_append.mp hholds).2 hrest

theorem solve_of_refusal {e : SearchError} (hf : f.Within (· < n)) (h : Refusal n as e) :
    solve f n as = .error e := by
  rw [solve, run_of_refusal hf h]
  rfl

theorem count_of_refusal {e : SearchError} (hf : f.Within (· < n)) (h : Refusal n as e) :
    count f n as = .error e := by
  rw [count, run_of_refusal hf h]
  rfl

/-- A search that is not refused finds the first of the models that it
    counts. -/
theorem exists_first (hf : f.Within (· < n)) (hrefused : ¬Refused n as) :
    ∃ found c, solve f n as = .ok found ∧ count f n as = .ok c ∧
      c = countOver (Finset.range n) (fun w => f.eval w = true ∧ ∀ l ∈ as, l.eval w = true) ∧
      (found.isNone = true ↔ c = 0) ∧
      ∀ m, found = some m → m.size = n ∧ f.eval m.value = true ∧
        (∀ l ∈ as, l.eval m.value = true) ∧
        ∀ w, f.eval w = true → (∀ l ∈ as, l.eval w = true) → (∀ x < n, w x = m.value x) ∨
          place (unassumed n as) m.value < place (unassumed n as) w := by
  by_cases hconsistent : Consistent as
  · obtain ⟨v, has⟩ := consistent_iff.mp hconsistent
    have hrange := inRange_of_not_refused hrefused hconsistent
    have hlimit : openCount n as ≤ searchLimit := by
      rw [← length_unassumed hrange]
      exact Nat.le_of_not_lt fun hlarge => hrefused (Or.inr ⟨hrange, hconsistent, hlarge⟩)
    have hcount := count_eq hf has hrange
    rw [if_neg (Nat.not_lt.mpr hlimit)] at hcount
    obtain ⟨m, hm, hsize, heval, hls⟩ | ⟨hnone, hrefuted⟩ := solve_ok hf has hrange hlimit
    · have hne := (dependsOn_range hf hrange).countOver_ne_zero ⟨heval, hls⟩
      refine ⟨some m, _, hm, hcount, rfl, iff_of_false Bool.false_ne_true hne, ?_⟩
      rintro _ ⟨⟩
      refine ⟨hsize, heval, hls, fun w hw hws => ?_⟩
      -- another model with the same place agrees on all variables
      rcases Nat.lt_or_eq_of_le (place_le_of_solve hf has hrange hlimit hm hw hws) with hlt | heq
      · exact Or.inr hlt
      · exact Or.inl (eq_of_place_unassumed hws hls heq.symm)
    · refine ⟨none, _, hnone, hcount, rfl, iff_of_true rfl ?_, fun _ h => nomatch h⟩
      refine countOver_eq_zero_iff.mpr fun s _ hs => ?_
      exact nomatch (hrefuted _ hs.2).symm.trans hs.1
  · -- nothing satisfies the assumptions
    have hsolve : solve f n as = .ok none := by
      rw [solve, run_of_not_refused hf hrefused hconsistent]
      rfl
    have hcount : count f n as = .ok 0 := by
      rw [count, run_of_not_refused hf hrefused hconsistent]
      rfl
    refine ⟨none, 0, hsolve, hcount, ?_, iff_of_true rfl rfl, fun _ h => nomatch h⟩
    refine (countOver_eq_zero_iff.mpr fun s _ hs => ?_).symm
    exact hconsistent (consistent_iff.mpr ⟨_, hs.2⟩)

/-- **THE SEARCH IS EXHAUSTIVE**.  The enumeration of all models is refused if some
    assumption is out of range and those before it do not contradict each other, or
    if all assumptions are in range and consistent and leave too many variables open,
    and for no other reason.  Otherwise it counts the values of the variables that
    satisfy the clauses and the assumptions, and finds a model if there are any.  This
    is one of them, and all others come after it in the order of counting over the
    unassumed variables.  The search by splitting has the same results. -/
theorem search_is_exhaustive (f : Cnf) (varCount : Nat) (as : List Literal) :
    let n := max varCount f.varCount
    (solve f varCount as = Enumeration.solve f varCount as ∧
      count f varCount as = Enumeration.count f varCount as) ∧
    ((∃ e, Enumeration.solve f varCount as = .error e) ↔ Refused n as) ∧
    ((∃ e, Enumeration.count f varCount as = .error e) ↔ Refused n as) ∧
    (¬Refused n as → ∃ found c, Enumeration.solve f varCount as = .ok found ∧
      Enumeration.count f varCount as = .ok c ∧
      c = countOver (Finset.range n) (fun w => f.eval w = true ∧ ∀ l ∈ as, l.eval w = true) ∧
      (found.isNone = true ↔ c = 0) ∧
      ∀ m, found = some m → m.size = n ∧ f.eval m.value = true ∧
        (∀ l ∈ as, l.eval m.value = true) ∧
        ∀ w, f.eval w = true → (∀ l ∈ as, l.eval w = true) → (∀ x < n, w x = m.value x) ∨
          place (unassumed n as) m.value < place (unassumed n as) w) := by
  intro n
  have hf : f.Within (· < n) := Cnf.within_max varCount f
  have hsolve := Enumeration.search_solve_eq f varCount as
  have hcount := Enumeration.search_count_eq f varCount as
  refine ⟨⟨hsolve, hcount⟩, ?_⟩
  -- what is known about the search holds of the enumeration
  rw [← hsolve, ← hcount, ← solve_max f varCount as, ← count_max f varCount as]
  refine ⟨⟨?_, ?_⟩, ⟨?_, ?_⟩, exists_first hf⟩
  · rintro ⟨e, he⟩
    by_contra hrefused
    obtain ⟨found, c, hfound, -⟩ := exists_first hf hrefused
    exact nomatch he.symm.trans hfound
  · intro hrefused
    obtain ⟨e, he⟩ := refused_iff.mp hrefused
    exact ⟨e, solve_of_refusal hf he⟩
  · rintro ⟨e, he⟩
    by_contra hrefused
    obtain ⟨found, c, -, hc, -⟩ := exists_first hf hrefused
    exact nomatch he.symm.trans hc
  · intro hrefused
    obtain ⟨e, he⟩ := refused_iff.mp hrefused
    exact ⟨e, count_of_refusal hf he⟩

/-- Of four variables the first is assumed, twice; six of the eight values of the
    others satisfy the clause, and one of these is first. -/
theorem search_is_exhaustive_six :
    let f : Cnf := [[⟨1, true⟩, ⟨2, true⟩]]
    let as : List Literal := [⟨0, true⟩, ⟨0, true⟩]
    ¬Refused 4 as ∧ ∃ m, Enumeration.solve f 4 as = .ok (some m) ∧
      Enumeration.count f 4 as = .ok 6 ∧ m.size = 4 ∧ f.eval m.value = true ∧
      ∀ w, f.eval w = true → (∀ l ∈ as, l.eval w = true) → (∀ x < 4, w x = m.value x) ∨
        place [1, 2, 3] m.value < place [1, 2, 3] w := by
  intro f as
  have hnot : ¬Refused 4 as := by
    rintro (⟨before, l, after, hsplit, hout, -⟩ | ⟨-, -, hlarge⟩)
    · have hmem : l ∈ as := by
        rw [hsplit]
        exact List.mem_append_right _ (List.mem_cons_self ..)
      exact absurd hout (Nat.not_le.mpr ((by decide : ∀ k ∈ as, k.var < 4) l hmem))
    · exact absurd hlarge (by decide)
  obtain ⟨found, c, hsolve, hcount, hc, hnone, hfirst⟩ :=
    (search_is_exhaustive f 4 as).2.2.2 hnot
  have hsix : countOver (Finset.range (max 4 f.varCount)) (fun w =>
      f.eval w = true ∧ ∀ l ∈ as, l.eval w = true) = 6 := by decide
  rw [hc, hsix] at hcount hnone
  cases found with
  | none => exact nomatch hnone.mp rfl
  | some m =>
      obtain ⟨hsize, heval, -, hlater⟩ := hfirst m rfl
      exact ⟨hnot, m, hsolve, hcount, hsize, heval, hlater⟩

end Search

end GuardedCnf
