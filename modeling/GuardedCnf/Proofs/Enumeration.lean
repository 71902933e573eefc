import GuardedCnf.Enumeration
import GuardedCnf.Proofs.SearchRefusals
/-! # Enumeration — the search meets the same models in the same order

    The values that the counter runs through are the digits of all numbers below a
    power of two.  The highest digit splits these numbers in two halves, and in each
    of them the other digits run through the same values: this is how the search
    decides the highest variable first, and false before true.  So what the search
    counts is the number of values at which the loop makes a visit, and what it finds
    is the first of them.

    The checks of the assumptions agree as well: the search keeps the literals that
    are assumed, the enumeration a model in which they hold, and a mark for each of
    their variables. -/

namespace GuardedCnf

/-! ## Values in the order of counting. -/

namespace Valuation

variable {v w : Valuation} {xs : List Var} {x : Var} {ls : List Literal} {k : Nat}

/-- All values of variables in the order of counting, where the first of the list
    changes slowest; the other variables are as they were. -/
def courses (w : Valuation) : List Var → List Valuation
  | [] => [w]
  | x :: xs =>
      (courses w xs).map (Function.update · x false) ++
        (courses w xs).map (Function.update · x true)

theorem length_courses (w : Valuation) (xs : List Var) :
    (w.courses xs).length = 2 ^ xs.length := by
  induction xs with
  | nil => rfl
  | cons x xs ih =>
      rw [courses, List.length_append, List.length_map, List.length_map, ih, List.length_cons,
        Nat.pow_succ, Nat.mul_two]

/-- Nothing else changes. -/
theorem eq_of_mem_courses (hv : v ∈ w.courses xs) (hx : x ∉ xs) : v x = w x := by
  induction xs generalizing v with
  | nil => rw [List.mem_singleton.mp hv]
  | cons y xs ih =>
      obtain ⟨hne, hx⟩ := not_or.mp (mt List.mem_cons.mpr hx)
      rcases List.mem_append.mp hv with hv | hv <;>
      · obtain ⟨u, hu, rfl⟩ := List.mem_map.mp hv
        rw [Function.update_of_ne hne, ih hu hx]

/-- The values with the digits of a number for variables, the first of the list
    being the lowest digit. -/
def withDigits (w : Valuation) (xs : List Var) (k : Nat) : Valuation := fun x =>
  if x ∈ xs then k.testBit (xs.idxOf x) else w x

/-- The last variable of the list has the highest digit. -/
theorem withDigits_concat (w : Valuation) (hx : x ∉ xs) (k : Nat) :
    w.withDigits (xs ++ [x]) k = Function.update (w.withDigits xs k) x (k.testBit xs.length) := by
  funext y
  unfold withDigits
  by_cases hy : y = x
  · rw [hy, Function.update_self, if_pos (List.mem_append_right xs List.mem_cons_self),
      List.idxOf_append_of_notMem hx, List.idxOf_cons_self, Nat.add_zero]
  · rw [Function.update_of_ne hy]
    by_cases hmem : y ∈ xs
    · rw [if_pos hmem, if_pos (List.mem_append_left [x] hmem), List.idxOf_append_of_mem hmem]
    · have hnot : y ∉ xs ++ [x] := by simp [hmem, hy]
      rw [if_neg hmem, if_neg hnot]

/-- Digits above those of the variables do not matter. -/
theorem withDigits_two_pow_add (w : Valuation) (xs : List Var) (k : Nat) :
    w.withDigits xs (2 ^ xs.length + k) = w.withDigits xs k := by
  funext x
  unfold withDigits
  split
  · next hx => exact Nat.testBit_two_pow_add_gt (List.idxOf_lt_length_iff.mpr hx) k
  · rfl

/-- **COUNTING SPLITS AT THE HIGHEST DIGIT**: the digits of all numbers give the
    variables their values in the order of counting. -/
theorem map_withDigits (w : Valuation) (hnodup : xs.Nodup) :
    (List.range (2 ^ xs.length)).map (w.withDigits xs.reverse) = w.courses xs := by
  induction xs with
  | nil => rfl
  | cons x xs ih =>
      obtain ⟨hx, hnodup⟩ := List.nodup_cons.mp hnodup
      have hx : x ∉ xs.reverse := mt List.mem_reverse.mp hx
      rw [courses, ← ih hnodup, List.length_cons, Nat.pow_succ, Nat.mul_two, List.range_add,
        List.map_append, List.map_map, List.map_map, List.map_map, List.reverse_cons]
      -- the new variable has the highest digit: 0 in the first half, 1 in the second
      refine congrArg₂ (· ++ ·) (List.map_congr_left fun k hk => ?_)
        (List.map_congr_left fun k hk => ?_)
      · rw [withDigits_concat w hx, List.length_reverse,
          Nat.testBit_lt_two_pow (List.mem_range.mp hk)]
        rfl
      · have hlow := withDigits_two_pow_add w xs.reverse k
        rw [List.length_reverse] at hlow
        show w.withDigits (xs.reverse ++ [x]) (2 ^ xs.length + k) = _
        rw [withDigits_concat w hx, hlow, List.length_reverse, Nat.testBit_two_pow_add_eq,
          Nat.testBit_lt_two_pow (List.mem_range.mp hk)]
        rfl

/-- Makes literals true, one after the other from the right. -/
def making (w : Valuation) (ls : List Literal) : Valuation :=
  ls.foldr (fun l v => Function.update v l.var l.positive) w

/-- A variable of none of the literals keeps its value. -/
theorem making_of_not_mem (hx : x ∉ ls.map (·.var)) : w.making ls x = w x := by
  induction ls with
  | nil => rfl
  | cons l ls ih =>
      obtain ⟨hne, hx⟩ := not_or.mp (mt List.mem_cons.mpr hx)
      exact (Function.update_of_ne hne ..).trans (ih hx)

/-- Each of the literals is true if no two have the same variable. -/
theorem eval_making (hnodup : (ls.map (·.var)).Nodup) {l : Literal} (hl : l ∈ ls) :
    l.eval (w.making ls) = true := by
  induction ls with
  | nil => exact nomatch hl
  | cons k ls ih =>
      obtain ⟨hk, hnodup⟩ := List.nodup_cons.mp hnodup
      show (w.making (k :: ls) l.var == l.positive) = true
      rcases List.mem_cons.mp hl with rfl | hl
      · exact beq_iff_eq.mpr (Function.update_self ..)
      · have hne : l.var ≠ k.var := fun hvar => hk (List.mem_map.mpr ⟨l, hl, hvar⟩)
        exact (congrArg (· == l.positive) (Function.update_of_ne hne ..)).trans (ih hnodup hl)

end Valuation

/-! ## The search over these values. -/

namespace Cnf

variable {f : Cnf} {xs : List Var}

/-- The search counts the values that satisfy the clauses. -/
theorem countModels_eq_countP (w : Valuation) (hf : f.Within (· ∈ xs)) :
    f.countModels xs = (w.courses xs).countP fun v => f.eval v := by
  induction xs generalizing f with
  | nil =>
      rw [countModels, Valuation.courses, List.countP_singleton, eval_of_within_nil hf]
  | cons x xs ih =>
      have hhalf (b : Bool) : ((w.courses xs).map (Function.update · x b)).countP
          (fun v => f.eval v) = (w.courses xs).countP fun v => (f.given ⟨x, b⟩).eval v := by
        rw [List.countP_map]
        exact congrArg (List.countP · _) (funext fun v => (eval_given_update f x b v).symm)
      rw [countModels]
      split
      · next hempty =>
          refine (List.countP_eq_zero.mpr fun v _ => ?_).symm
          rw [eval_of_any_isEmpty hempty]
          exact Bool.false_ne_true
      · split
        · next hnil =>
            have hall : ∀ v ∈ w.courses (x :: xs), f.eval v = true := fun v _ => by
              rw [List.isEmpty_iff.mp hnil]
              rfl
            rw [List.countP_eq_length.mpr hall, Valuation.length_courses]
            rfl
        · rw [Valuation.courses, List.countP_append, hhalf, hhalf]
          split
          · rw [ih (within_tail (hf.given _)), ih (within_tail (hf.given _))]
          · next hmentions =>
              -- neither value of the variable changes anything
              simp only [eval_given_of_not_mentions hmentions]
              rw [ih (within_tail (hf.of_not_mentions hmentions)), Nat.two_mul]

/-- The search finds the first values that satisfy the clauses. -/
theorem find?_courses (w : Valuation) (hf : f.Within (· ∈ xs)) :
    (w.courses xs).find? (fun v => f.eval v) = (f.firstModel xs).map w.making := by
  induction xs generalizing f with
  | nil =>
      rw [firstModel, Valuation.courses, List.find?_singleton, eval_of_within_nil hf]
      split <;> rfl
  | cons x xs ih =>
      have hhalf (b : Bool) : ((w.courses xs).map (Function.update · x b)).find?
          (fun v => f.eval v) =
            ((w.courses xs).find? fun v => (f.given ⟨x, b⟩).eval v).map
              (Function.update · x b) := by
        rw [List.find?_map]
        exact congrArg (fun p => ((w.courses xs).find? p).map (Function.update · x b))
          (funext fun v => (eval_given_update f x b v).symm)
      rw [firstModel]
      split
      · next hempty =>
          refine List.find?_eq_none.mpr fun v _ => ?_
          rw [eval_of_any_isEmpty hempty]
          exact Bool.false_ne_true
      · rw [Valuation.courses, List.find?_append, hhalf, hhalf]
        split
        · rw [ih (within_tail (hf.given _)), ih (within_tail (hf.given _))]
          -- the values with the variable true are tried if no others are found
          cases (f.given ⟨x, false⟩).firstModel xs with
          | some ls => rfl
          | none =>
              cases (f.given ⟨x, true⟩).firstModel xs <;> rfl
        · next hmentions =>
            simp only [eval_given_of_not_mentions hmentions]
            rw [ih (within_tail (hf.of_not_mentions hmentions))]
            cases f.firstModel xs <;> rfl

end Cnf

/-! ## The models of a counter. -/

namespace Model

variable {counter m : Model} {x : Var}

/-- The model of `n` variables with given values. -/
def ofValuation (n : Nat) (v : Valuation) : Model := ⟨(List.range n).map v⟩

theorem size_ofValuation (n : Nat) (v : Valuation) : (ofValuation n v).size = n := by
  rw [size, ofValuation, List.length_map, List.length_range]

/-- A model of values has these values, up to its size. -/
theorem value_ofValuation {n : Nat} (v : Valuation) (hx : x < n) :
    (ofValuation n v).value x = v x := by
  have hlength : x < (ofValuation n v).values.length :=
    Nat.lt_of_lt_of_eq hx (size_ofValuation n v).symm
  rw [value, List.getD_eq_getElem _ _ hlength]
  simp only [ofValuation, List.getElem_map, List.getElem_range]

/-- Setting a variable changes its value and no other. -/
theorem value_set (b : Bool) (h : x < m.size) :
    (m.set x b h).value = Function.update m.value x b := by
  funext y
  by_cases hy : y = x
  · rw [hy, Function.update_self, value, values_set,
      List.getD_eq_getElem _ _ ((List.length_set ..).symm ▸ h)]
    exact List.getElem_set_self _
  · rw [Function.update_of_ne hy, value, values_set, List.getD_eq_getElem?_getD,
      List.getElem?_set_ne (Ne.symm hy), ← List.getD_eq_getElem?_getD, value]

theorem size_fill (bit : Nat) (vs : List Var) (h : ∀ v ∈ vs, v < m.size) :
    (fill counter m bit vs h).size = m.size := by
  induction vs generalizing m bit with
  | nil => rfl
  | cons v vs ih => exact (ih (bit + 1) _).trans (size_set ..)

/-- The variables get the values of the counter, and no others are changed. -/
theorem value_fill (bit : Nat) {vs : List Var} (h : ∀ v ∈ vs, v < m.size) (hnodup : vs.Nodup)
    (x : Var) : (fill counter m bit vs h).value x =
      if x ∈ vs then counter.value (bit + vs.idxOf x) else m.value x := by
  induction vs generalizing m bit with
  | nil => rfl
  | cons v vs ih =>
      obtain ⟨hv, hnodup⟩ := List.nodup_cons.mp hnodup
      rw [fill, ih _ _ hnodup, value_set]
      by_cases hx : x = v
      · rw [hx, if_neg hv, if_pos List.mem_cons_self, Function.update_self, List.idxOf_cons_self]
        rfl
      · rw [List.idxOf_cons_ne _ (Ne.symm hx), Function.update_of_ne hx]
        simp only [List.mem_cons, hx, false_or]
        rw [Nat.add_assoc, Nat.add_comm 1]

end Model

namespace Enumeration

variable {σ : Type} {n : Nat} {f : Cnf} {a : Assumed n} {ks ls : List Literal}
  {visit : σ → Model → σ × Bool} {s : σ}

theorem Assumed.nodup_free (a : Assumed n) : a.free.Nodup := List.nodup_range.filter _

/-- A counter stands for the model with its digits in the places of the unassumed
    variables. -/
theorem Assumed.model_eq {counter : Model} (hsize : counter.size = a.free.length) :
    a.model counter = .ofValuation n (a.base.value.withDigits a.free counter.number) := by
  have hmodel : (a.model counter).size = n := (Model.size_fill ..).trans a.size_base
  refine Model.eq_of_value (hmodel.trans (Model.size_ofValuation ..).symm) fun x hx => ?_
  rw [Model.value_ofValuation _ (hmodel ▸ hx), Assumed.model, Model.value_fill _ _ a.nodup_free,
    Valuation.withDigits]
  split
  · next hmem =>
      have hdigit : a.free.idxOf x < counter.size := hsize ▸ List.idxOf_lt_length_iff.mpr hmem
      rw [Nat.zero_add, Model.testBit_number hdigit]
  · rfl

/-! ## The course of the loop. -/

/-- Visits the models of a list, as long as more are wanted. -/
def visitAll (visit : σ → Model → σ × Bool) (s : σ) : List Model → σ
  | [] => s
  | m :: ms => if (visit s m).2 then visitAll visit (visit s m).1 ms else (visit s m).1

/-- The models of the numbers from `k` on that satisfy the clauses. -/
def Assumed.modelsFrom (a : Assumed n) (f : Cnf) (k : Nat) : List Model :=
  ((List.range' k (2 ^ a.free.length - k)).map fun k =>
    Model.ofValuation n (a.base.value.withDigits a.free k)).filter fun m => f.eval m.value

/-- The models from a number on are the one that has it and those after it. -/
theorem modelsFrom_number {counter : Model} (hsize : counter.size = a.free.length) :
    a.modelsFrom f counter.number =
      if f.eval (a.model counter).value then
        a.model counter :: a.modelsFrom f (counter.number + 1)
      else a.modelsFrom f (counter.number + 1) := by
  have hlt := hsize ▸ counter.number_lt
  obtain ⟨left, hleft⟩ : ∃ left, 2 ^ a.free.length - counter.number = left + 1 :=
    Nat.exists_eq_succ_of_ne_zero (by omega)
  have hrest : 2 ^ a.free.length - (counter.number + 1) = left := by omega
  rw [Assumed.modelsFrom, Assumed.modelsFrom, hleft, hrest, List.range'_succ, List.map_cons,
    List.filter_cons, ← a.model_eq hsize]

/-- **THE LOOP MEETS ALL MODELS** from that of the counter on. -/
theorem loop_eq {counter : Model} (hsize : counter.size = a.free.length) (s : σ) :
    loop f a visit counter s = visitAll visit s (a.modelsFrom f counter.number) := by
  -- the number of values that are left decreases
  induction hleft : 2 ^ a.free.length - counter.number using Nat.strongRecOn
    generalizing counter s with | ind left ih =>
  obtain ⟨hnext, hnumber, hmore⟩ := counter.number_next
  rw [hsize] at hnumber hmore
  have hlt := hsize ▸ counter.number_lt
  have hrest (s : σ) : (if counter.next.2 then loop f a visit counter.next.1 s else s) =
      visitAll visit s (a.modelsFrom f (counter.number + 1)) := by
    cases hflag : counter.next.2 with
    | false =>
        have hempty : 2 ^ a.free.length - (counter.number + 1) = 0 := by
          rw [hmore.mp hflag, Nat.sub_self]
        rw [Assumed.modelsFrom, hempty]
        rfl
    | true =>
        have hnot : counter.number + 1 ≠ 2 ^ a.free.length := fun hfull =>
          nomatch hflag.symm.trans (hmore.mpr hfull)
        rw [Nat.mod_eq_of_lt (Nat.lt_of_le_of_ne hlt hnot)] at hnumber
        rw [if_pos rfl, ih _ (by omega) (hnext.trans hsize) s rfl, hnumber]
  rw [loop, modelsFrom_number hsize]
  cases f.eval (a.model counter).value with
  | false => exact hrest s
  | true =>
      show (if (visit s (a.model counter)).2 then _ else _) = _
      rw [hrest]
      rfl

/-- The models that the loop visits when nothing ends it: all values of the variables
    that are not on literals of `ks`, in the order of counting. -/
def visited (f : Cnf) (n : Nat) (w : Valuation) (ks : List Literal) : List Model :=
  ((w.courses (Search.freeVars n ks)).map (Model.ofValuation n)).filter fun m => f.eval m.value

/-! ## Assumptions. -/

/-- What is kept of assumptions that the search keeps as literals. -/
structure Assumed.Keeps (a : Assumed n) (ks : List Literal) : Prop where
  nodup : (ks.map (·.var)).Nodup
  marks : ∀ x, a.marks.value x = true ↔ x ∈ ks.map (·.var)
  base : ∀ l ∈ ks, a.base.value l.var = l.positive

/-- How the checks of assumptions by the search and by the enumeration end. -/
inductive Agree (n : Nat) : Except SearchError (Option (List Literal)) →
    Except SearchError (Option (Assumed n)) → Prop where
  | refused (e : SearchError) : Agree n (.error e) (.error e)
  | contradiction : Agree n (.ok none) (.ok none)
  | passed {ks : List Literal} {a : Assumed n} (keeps : a.Keeps ks) :
      Agree n (.ok (some ks)) (.ok (some a))

/-- Before the first assumption no variable is marked. -/
theorem keeps_nothing (n : Nat) : (Assumed.nothing n).Keeps [] where
  nodup := List.nodup_nil
  marks x := iff_of_false (Bool.eq_false_iff.mp (Model.value_allFalse n x)) List.not_mem_nil
  base _ hl := nomatch hl

/-- A literal contradicts what is kept if its complement is. -/
theorem Assumed.Keeps.contradicts_iff (h : a.Keeps ks) (l : Literal) :
    a.contradicts l = true ↔ l.complement ∈ ks := by
  rw [Assumed.contradicts, Bool.and_eq_true, h.marks, bne_iff_ne]
  constructor
  · rintro ⟨hmem, hne⟩
    obtain ⟨k, hk, hvar⟩ := List.mem_map.mp hmem
    have hbase := h.base k hk
    rcases Literal.eq_or_eq_complement hvar with rfl | rfl
    · exact absurd hbase hne
    · exact hk
  · intro hl
    refine ⟨List.mem_map_of_mem (f := (·.var)) hl, ?_⟩
    rw [show l.var = l.complement.var from rfl, h.base _ hl]
    exact Bool.not_ne_self l.positive

/-- A literal is kept once. -/
theorem Assumed.Keeps.add (h : a.Keeps ks) {l : Literal} (hlt : l.var < n)
    (hcomplement : l.complement ∉ ks) : (a.add l hlt).Keeps (if l ∈ ks then ks else l :: ks) := by
  have hmarks (x : Var) : (a.add l hlt).marks.value x = true ↔ x = l.var ∨ x ∈ ks.map (·.var) := by
    rw [Assumed.add, Model.value_set]
    by_cases hx : x = l.var
    · rw [hx, Function.update_self]
      exact iff_of_true rfl (Or.inl rfl)
    · rw [Function.update_of_ne hx, h.marks]
      exact (or_iff_right hx).symm
  have hbase (k : Literal) (hk : k = l ∨ k ∈ ks) :
      (a.add l hlt).base.value k.var = k.positive := by
    rw [Assumed.add, Model.value_set]
    by_cases hvar : k.var = l.var
    · rcases Literal.eq_or_eq_complement hvar with rfl | rfl
      · exact Function.update_self ..
      · exact absurd (hk.resolve_left l.complement_ne) hcomplement
    · rw [Function.update_of_ne hvar]
      exact h.base k (hk.resolve_left fun heq => hvar (congrArg _ heq))
  -- an assumption made twice is kept once
  by_cases hmem : l ∈ ks
  · rw [if_pos hmem]
    refine ⟨h.nodup, fun x => (hmarks x).trans (or_iff_right_of_imp ?_),
      fun k hk => hbase k (Or.inr hk)⟩
    rintro rfl
    exact List.mem_map_of_mem hmem
  · rw [if_neg hmem]
    refine ⟨List.nodup_cons.mpr ⟨Search.var_not_mem hmem hcomplement, h.nodup⟩, fun x => ?_,
      fun k hk => hbase k (List.mem_cons.mp hk)⟩
    rw [hmarks, List.map_cons, List.mem_cons]

/-- The checks of assumptions end alike. -/
theorem agree_assume (h : a.Keeps ks) (ls : List Literal) :
    Agree n (Search.assume n ks ls) (assume a ls) := by
  induction ls generalizing ks a with
  | nil => exact .passed h
  | cons l ls ih =>
      rw [Search.assume, assume]
      by_cases hlt : l.var < n
      · rw [if_neg (Nat.not_le.mpr hlt), dif_pos hlt]
        by_cases hcomplement : l.complement ∈ ks
        · rw [if_pos (List.contains_iff_mem.mpr hcomplement),
            if_pos ((h.contradicts_iff l).mpr hcomplement)]
          exact .contradiction
        · rw [if_neg (mt List.contains_iff_mem.mp hcomplement),
            if_neg (mt (h.contradicts_iff l).mp hcomplement)]
          simp only [List.contains_iff_mem]
          exact ih (h.add hlt hcomplement)
      · rw [if_pos (Nat.le_of_not_lt hlt), dif_neg hlt]
        exact .refused _

namespace Assumed.Keeps

/-- An assumed variable is one of the model. -/
theorem lt_of_mem (h : a.Keeps ks) {l : Literal} (hl : l ∈ ks) : l.var < n := by
  have htrue := (h.marks l.var).mpr (List.mem_map_of_mem hl)
  refine Nat.lt_of_not_le fun hle => ?_
  rw [Model.value_of_size_le (a.size_marks.symm ▸ hle)] at htrue
  exact nomatch htrue

/-- The variables without a mark are those the search has left, from the lowest up. -/
theorem free_eq (h : a.Keeps ks) : a.free = (Search.freeVars n ks).reverse := by
  rw [Search.freeVars, List.filter_reverse, List.reverse_reverse, Assumed.free]
  refine List.filter_congr fun x _ => congrArg not ?_
  rw [Bool.eq_iff_iff, h.marks, List.any_eq_true, List.mem_map]
  exact exists_congr fun l => and_congr_right fun _ => beq_iff_eq.symm

/-- Each assumption leaves one free variable less. -/
theorem length_free (h : a.Keeps ks) : a.free.length = n - ks.length := by
  have hcard := Search.length_unassumed fun l hl => h.lt_of_mem hl
  rw [Search.openCount, List.toFinset_card_of_nodup h.nodup, List.length_map] at hcard
  rw [h.free_eq, List.length_reverse, ← hcard, Search.unassumed, Search.freeVars,
    List.filter_reverse, List.length_reverse]

/-- The loop tests the values of the unassumed variables in the order of
    counting. -/
theorem modelsFrom_zero (h : a.Keeps ks) : a.modelsFrom f 0 = visited f n a.base.value ks := by
  rw [Assumed.modelsFrom, visited, Nat.sub_zero, ← List.range_eq_range',
    ← Valuation.map_withDigits _ (Search.nodup_freeVars n ks), List.map_map, h.free_eq,
    List.length_reverse]
  rfl

end Assumed.Keeps

/-! ## Runs of the search and of the loop. -/

/-- **THE SEARCH AND THE LOOP RUN ALIKE**: they are refused for the same reason, meet
    a contradiction, or look at the same values. -/
theorem run_or_loop {α : Type} (f : Cnf) (varCount : Nat) (as : List Literal)
    (search : List Literal → List Var → Cnf → α) (visit : σ → Model → σ × Bool) (s : σ) :
    let n := max varCount f.varCount
    (∃ e, Search.run f varCount as search = .error e ∧ models f varCount as visit s = .error e) ∨
    (Search.run f varCount as search = .ok none ∧ models f varCount as visit s = .ok s) ∨
    ∃ ks w, (ks.map (·.var)).Nodup ∧ (∀ l ∈ ks, l.var < n ∧ l.eval w = true) ∧
      Search.run f varCount as search =
        .ok (some (search ks (Search.freeVars n ks) (ks.foldl Cnf.given f))) ∧
      models f varCount as visit s = .ok (visitAll visit s (visited f n w ks)) := by
  intro n
  -- both check the assumptions first, one after the other, and agree on how that ends
  have hagree := agree_assume (keeps_nothing n) as
  simp only [Search.run, models]
  generalize hsearch : Search.assume n [] as = checked at hagree
  generalize hloop : assume (.nothing n) as = checked' at hagree
  cases hagree with
  | refused e => exact Or.inl ⟨e, rfl, rfl⟩
  | contradiction => exact Or.inr (Or.inl ⟨rfl, rfl⟩)
  | @passed ks a keeps =>
      have hlength := keeps.length_free
      by_cases hlarge : searchLimit < n - ks.length
      · refine Or.inl ⟨.tooManyFree (n - ks.length), if_pos hlarge, ?_⟩
        rw [← hlength] at hlarge ⊢
        exact if_pos hlarge
      · refine Or.inr (Or.inr ⟨ks, a.base.value, keeps.nodup, fun l hl => ?_, if_neg hlarge, ?_⟩)
        · exact ⟨keeps.lt_of_mem hl, beq_iff_eq.mpr (keeps.base l hl)⟩
        · -- the loop starts at the first values of the free variables
          refine (if_neg (hlength ▸ hlarge)).trans (congrArg Except.ok ?_)
          rw [loop_eq (Model.size_allFalse _), Model.number_allFalse, keeps.modelsFrom_zero]

/-! ## Solving and counting. -/

/-- Of the models that are visited, solving takes the first. -/
theorem visitAll_first (ms : List Model) :
    visitAll (fun _ m => (some m, false)) none ms = ms.head? := by
  cases ms <;> rfl

/-- Counting takes them all. -/
theorem visitAll_count (c : Nat) (ms : List Model) :
    visitAll (fun c _ => (c + 1, true)) c ms = c + ms.length := by
  induction ms generalizing c with
  | nil => rfl
  | cons m ms ih =>
      rw [visitAll, if_pos rfl, ih, List.length_cons]
      omega

/-- The loop tests what is left of the clauses after the assumptions. -/
theorem visited_eq {w : Valuation} (hf : f.Within (· < n)) (hks : ∀ l ∈ ks, l.eval w = true) :
    visited f n w ks =
      ((w.courses (Search.freeVars n ks)).filter fun v =>
        Cnf.eval v (ks.foldl Cnf.given f)).map (Model.ofValuation n) := by
  rw [visited, List.filter_map]
  refine congrArg (List.map _) (List.filter_congr fun v hv => ?_)
  have hkept : ∀ l ∈ ks, l.eval v = true := by
    intro l hl
    have hnot : l.var ∉ Search.freeVars n ks := fun hfree =>
      (Search.mem_freeVars.mp hfree).2 (List.mem_map_of_mem hl)
    rw [Literal.eval, Valuation.eq_of_mem_courses hv hnot]
    exact hks l hl
  rw [Cnf.eval_foldl_given hkept]
  exact Cnf.eval_congr hf fun x hx => Model.value_ofValuation v hx

/-- Literals that are assumed and decided give one value to every variable. -/
theorem ofLiterals_append_eq {w : Valuation} (hnodup : (ks.map (·.var)).Nodup)
    (hks : ∀ l ∈ ks, l.var < n ∧ l.eval w = true) (hvars : ls.map (·.var) = Search.freeVars n ks) :
    Model.ofLiterals n (ks ++ ls) = .ofValuation n (w.making ls) := by
  have hall := Search.eval_ofLiterals hnodup (fun l hl => (hks l hl).1) hvars
  refine Model.eq_of_value ?_ fun x hx => ?_
  · rw [Model.size_ofLiterals, Model.size_ofValuation]
  rw [Model.size_ofLiterals] at hx
  rw [Model.value_ofValuation _ hx]
  by_cases hfree : x ∈ Search.freeVars n ks
  · obtain ⟨l, hl, rfl⟩ := List.mem_map.mp (hvars ▸ hfree)
    have hdecided := Valuation.eval_making (w := w) (hvars ▸ Search.nodup_freeVars n ks) hl
    rw [beq_iff_eq.mp hdecided, beq_iff_eq.mp (hall l (List.mem_append_right ks hl))]
  · obtain ⟨l, hl, rfl⟩ := Search.mem_map_of_not_mem_freeVars hx hfree
    rw [Valuation.making_of_not_mem (hvars ▸ hfree), beq_iff_eq.mp (hks l hl).2,
      beq_iff_eq.mp (hall l (List.mem_append_left ls hl))]

/-- **SOLVING BY SEARCH** finds the model that the enumeration finds. -/
theorem search_solve_eq (f : Cnf) (varCount : Nat) (as : List Literal) :
    Search.solve f varCount as = solve f varCount as := by
  rw [Search.solve, solve]
  have hf := Cnf.within_max varCount f
  rcases run_or_loop f varCount as
    (fun fixed free rest => (rest.firstModel free).map fun ls =>
      Model.ofLiterals (max varCount f.varCount) (fixed ++ ls))
    (fun _ m => (some m, false)) none with
    ⟨e, hrun, hmodels⟩ | ⟨hrun, hmodels⟩ | ⟨ks, w, hnodup, hks, hrun, hmodels⟩
  · rw [hrun, hmodels]
    rfl
  · rw [hrun, hmodels]
    rfl
  · -- a visit that stops at once keeps the first of the visited models
    rw [hrun, hmodels, visitAll_first, visited_eq hf fun l hl => (hks l hl).2, List.head?_map,
      List.head?_filter, Cnf.find?_courses w (Search.within_freeVars hf ks)]
    show Except.ok (Option.map _ _) = Except.ok (Option.map _ (Option.map _ _))
    rw [Option.map_map]
    refine congrArg Except.ok (Option.map_congr fun ls hls => ?_)
    have hvars := (Cnf.firstModel_some (Search.within_freeVars hf ks) hls).1
    exact ofLiterals_append_eq hnodup hks hvars

/-- **COUNTING BY SEARCH** counts the models that the enumeration counts. -/
theorem search_count_eq (f : Cnf) (varCount : Nat) (as : List Literal) :
    Search.count f varCount as = count f varCount as := by
  rw [Search.count, count]
  have hf := Cnf.within_max varCount f
  rcases run_or_loop f varCount as (fun _ free rest => Cnf.countModels rest free)
    (fun c _ => (c + 1, true)) 0 with
    ⟨e, hrun, hmodels⟩ | ⟨hrun, hmodels⟩ | ⟨ks, w, hnodup, hks, hrun, hmodels⟩
  · rw [hrun, hmodels]
    rfl
  · rw [hrun, hmodels]
    rfl
  · rw [hrun, hmodels, visitAll_count, visited_eq hf fun l hl => (hks l hl).2, List.length_map,
      ← List.countP_eq_length_filter,
      ← Cnf.countModels_eq_countP w (Search.within_freeVars hf ks), Nat.zero_add]
    rfl

end Enumeration

end GuardedCnf
