import GuardedCnf.Search
import GuardedCnf.Proofs.Counting
import GuardedCnf.Proofs.Distribution
import GuardedCnf.Proofs.Simplification
/-! # Search — what exhaustive search finds and counts

    Deciding a variable keeps the truth value of the clauses under every
    valuation that decides it alike.  So the search over the unassumed variables
    counts the valuations of these that go with the assumptions, and as the
    assumed variables have one value each, these are all valuations that satisfy
    the clauses and the assumptions. -/

namespace GuardedCnf

/-! ## Literals with different variables. -/

/-- The valuation that makes true just the positive literals of a list. -/
def Valuation.ofLiterals (ls : List Literal) : Valuation := fun x => ls.contains ⟨x, true⟩

/-- Literals on different variables are all true when the positive ones are. -/
theorem Valuation.eval_ofLiterals {ls : List Literal} (hnodup : (ls.map (·.var)).Nodup)
    {l : Literal} (hl : l ∈ ls) : l.eval (ofLiterals ls) = true := by
  obtain ⟨x, p⟩ := l
  show (ls.contains ⟨x, true⟩ == p) = true
  rw [beq_iff_eq]
  cases p with
  | true => exact List.contains_iff_mem.mpr hl
  | false =>
      refine Bool.eq_false_iff.mpr fun hmem => ?_
      have heq := List.inj_on_of_nodup_map hnodup hl (List.contains_iff_mem.mp hmem) rfl
      exact nomatch congrArg Literal.positive heq

namespace Cnf

variable {f : Cnf} {p : Var → Prop} {v w : Valuation} {l : Literal}

/-- The truth value of clauses depends on their own variables only. -/
theorem eval_congr (hf : f.Within p) (h : ∀ x, p x → v x = w x) : f.eval v = f.eval w := by
  refine Formula.all_congr_mem fun c hc => Formula.any_congr_mem fun l hl => ?_
  show (v l.var == l.positive) = (w l.var == l.positive)
  rw [h l.var (hf c hc l hl)]

/-- An empty clause makes the clauses false. -/
theorem eval_of_any_isEmpty (h : f.any List.isEmpty = true) (v : Valuation) :
    f.eval v = false := by
  obtain ⟨c, hc, hempty⟩ := List.any_eq_true.mp h
  rw [List.isEmpty_iff] at hempty
  refine Bool.eq_false_iff.mpr fun htrue => ?_
  have hclause := List.all_eq_true.mp htrue c hc
  rw [hempty] at hclause
  exact nomatch hclause

/-! ## Deciding a variable. -/

/-- A literal that is false adds nothing to a clause. -/
theorem eval_filter_complement (hl : l.eval v = true) (c : Clause) :
    Clause.eval v (c.filter (· != l.complement)) = Clause.eval v c := by
  have hfalse : l.complement.eval v = false := by rw [Literal.eval_complement, hl]; rfl
  induction c with
  | nil => rfl
  | cons k c ih =>
      by_cases hk : k = l.complement
      · rw [List.filter_cons_of_neg (by simp [hk]), ih]
        show Clause.eval v c = (k.eval v || Clause.eval v c)
        rw [hk, hfalse, Bool.false_or]
      · rw [List.filter_cons_of_pos (by simp [hk])]
        show (k.eval v || Clause.eval v (c.filter _)) = (k.eval v || Clause.eval v c)
        rw [ih]

/-- Where a literal holds, what is left to satisfy is equivalent to the
    clauses. -/
theorem eval_given (hl : l.eval v = true) (f : Cnf) : eval v (f.given l) = eval v f := by
  induction f with
  | nil => rfl
  | cons c f ih =>
      by_cases hc : c.contains l = true
      · have hnone : given (c :: f) l = given f l :=
          List.filterMap_cons_none (if_pos hc)
        rw [hnone, ih, eval_cons, Clause.eval_of_mem (List.contains_iff_mem.mp hc) hl,
          Bool.true_and]
      · have hsome : given (c :: f) l = c.filter (· != l.complement) :: given f l :=
          List.filterMap_cons_some (if_neg hc)
        rw [hsome, eval_cons, eval_cons, ih, eval_filter_complement hl]

/-- What is left does not mention the variable that was decided. -/
theorem Within.given (hf : f.Within p) (l : Literal) :
    Within (fun x => p x ∧ x ≠ l.var) (f.given l) := by
  intro d hd k hk
  obtain ⟨c, hc, hcd⟩ := List.mem_filterMap.mp hd
  by_cases hcl : c.contains l = true
  · rw [if_pos hcl] at hcd
    exact nomatch hcd
  · rw [if_neg hcl] at hcd
    rw [← Option.some.inj hcd] at hk
    obtain ⟨hkc, hkl⟩ := List.mem_filter.mp hk
    refine ⟨hf c hc k hkc, fun hvar => ?_⟩
    rcases Literal.eq_or_eq_complement hvar with rfl | rfl
    · exact hcl (List.contains_iff_mem.mpr hkc)
    · simp at hkl

/-- Variables that do not occur can be left out of the bound. -/
theorem Within.of_not_mentions (hf : f.Within p) {x : Var} (h : ¬f.mentions x = true) :
    Within (fun y => p y ∧ y ≠ x) f := by
  intro c hc l hl
  refine ⟨hf c hc l hl, fun hvar => h (List.any_eq_true.mpr ⟨c, hc, ?_⟩)⟩
  exact List.any_eq_true.mpr ⟨l, hl, beq_iff_eq.mpr hvar⟩

/-- Once the first variable of a list is out of the clauses, the others are left. -/
theorem within_tail {x : Var} {xs : List Var} (hf : Within (fun y => y ∈ x :: xs ∧ y ≠ x) f) :
    f.Within (· ∈ xs) :=
  hf.mono fun _ hy => (List.mem_cons.mp hy.1).resolve_left hy.2

/-- The values that satisfy what is left are those that satisfy the clauses
    with the decided variable updated. -/
theorem eval_given_update (f : Cnf) (x : Var) (b : Bool) (v : Valuation) :
    eval v (f.given ⟨x, b⟩) = eval (Function.update v x b) f := by
  have hholds : (⟨x, b⟩ : Literal).eval (Function.update v x b) = true := by
    show (Function.update v x b x == b) = true
    rw [Function.update_self]
    exact beq_self_eq_true b
  rw [← eval_given hholds f]
  refine eval_congr (f.within_true.given ⟨x, b⟩) fun y hy => ?_
  exact (Function.update_of_ne hy.2 b v).symm

/-- The value of a variable that does not occur is of no matter. -/
theorem eval_update_of_not_mentions {x : Var} (h : ¬f.mentions x = true) (b : Bool)
    (v : Valuation) : eval (Function.update v x b) f = eval v f :=
  eval_congr (f.within_true.of_not_mentions h) fun _ hy => Function.update_of_ne hy.2 b v

/-- Deciding a variable that does not occur is of no matter either. -/
theorem eval_given_of_not_mentions {x : Var} (h : ¬f.mentions x = true) (b : Bool)
    (v : Valuation) : eval v (f.given ⟨x, b⟩) = eval v f :=
  (eval_given_update f x b v).trans (eval_update_of_not_mentions h b v)

/-- Clauses without variables are satisfied when there are none, and then
    only. -/
theorem eval_of_within_nil (hf : f.Within (· ∈ ([] : List Var))) (v : Valuation) :
    f.eval v = f.isEmpty := by
  cases f with
  | nil => rfl
  | cons c f =>
      cases c with
      | nil => rfl
      | cons l c => exact nomatch hf _ (List.mem_cons_self ..) l (List.mem_cons_self ..)

/-! ## The search. -/

/-- **COUNTING DECIDES EVERY VARIABLE**: over a list that has all variables of
    the clauses, the search counts the values that satisfy them. -/
theorem countModels_eq {xs : List Var} (hnodup : xs.Nodup) (hf : f.Within (· ∈ xs)) :
    f.countModels xs = countOver xs.toFinset fun v => f.eval v = true := by
  -- deciding a variable changes the clauses, so the induction is for all of them
  induction xs generalizing f with
  | nil => rw [countModels, List.toFinset_nil, countOver_empty, eval_of_within_nil hf]
  | cons x xs ih =>
      obtain ⟨hx, hxs⟩ := List.nodup_cons.mp hnodup
      have hmem : x ∉ xs.toFinset := fun hmem => hx (List.mem_toFinset.mp hmem)
      rw [countModels, List.toFinset_cons]
      split
      · next hempty =>
          refine (countOver_eq_zero_iff.mpr fun s _ => ?_).symm
          rw [eval_of_any_isEmpty hempty]
          exact Bool.false_ne_true
      · split
        · next hnil =>
            have hall (v : Valuation) : f.eval v = true := by rw [List.isEmpty_iff.mp hnil]; rfl
            rw [countOver_of_forall hall, Finset.card_insert_of_notMem hmem,
              List.toFinset_card_of_nodup hxs]
            rfl
        · rw [countOver_insert hmem]
          -- the two values of the variable, of which the search decides both only
          -- if the clauses mention it
          split
          · have hrest (b : Bool) : (f.given ⟨x, b⟩).countModels xs =
                countOver xs.toFinset fun v => f.eval (Function.update v x b) = true := by
              rw [ih hxs (within_tail (hf.given ⟨x, b⟩))]
              exact countOver_congr fun v => by rw [eval_given_update]
            rw [hrest false, hrest true]
          · next hmentions =>
              have hrest (b : Bool) : f.countModels xs =
                  countOver xs.toFinset fun v => f.eval (Function.update v x b) = true := by
                rw [ih hxs (within_tail (hf.of_not_mentions hmentions))]
                exact countOver_congr fun v => by rw [eval_update_of_not_mentions hmentions]
              rw [← hrest false, ← hrest true, Nat.two_mul]

/-- The literals that the search finds decide every variable of the list, and
    satisfy the clauses wherever they hold. -/
theorem firstModel_some {xs : List Var} {ls : List Literal} (hf : f.Within (· ∈ xs))
    (h : f.firstModel xs = some ls) :
    ls.map (·.var) = xs ∧ ∀ v, (∀ l ∈ ls, l.eval v = true) → f.eval v = true := by
  induction xs generalizing f ls with
  | nil =>
      rw [firstModel] at h
      split at h
      · next hnil =>
          rw [← Option.some.inj h]
          exact ⟨rfl, fun v _ => (eval_of_within_nil hf v).trans hnil⟩
      · exact nomatch h
  | cons x xs ih =>
      -- both values are tried in the same way
      have hgiven (b : Bool) (ks : List Literal)
          (hks : (f.given ⟨x, b⟩).firstModel xs = some ks) :
          (⟨x, b⟩ :: ks : List Literal).map (·.var) = x :: xs ∧
            ∀ v, (∀ l ∈ (⟨x, b⟩ :: ks : List Literal), l.eval v = true) → f.eval v = true := by
        obtain ⟨hvars, hholds⟩ := ih (within_tail (hf.given ⟨x, b⟩)) hks
        refine ⟨congrArg (x :: ·) hvars, fun v hv => ?_⟩
        obtain ⟨hx, hrest⟩ := List.forall_mem_cons.mp hv
        rw [← eval_given hx f]
        exact hholds v hrest
      rw [firstModel] at h
      split at h
      · exact nomatch h
      · split at h
        · split at h
          · next ks hks =>
              rw [← Option.some.inj h]
              exact hgiven false ks hks
          · obtain ⟨ks, hks, rfl⟩ := Option.map_eq_some_iff.mp h
            exact hgiven true ks hks
        · next hmentions =>
            obtain ⟨ks, hks, rfl⟩ := Option.map_eq_some_iff.mp h
            obtain ⟨hvars, hholds⟩ := ih (within_tail (hf.of_not_mentions hmentions)) hks
            refine ⟨congrArg (x :: ·) hvars, fun v hv => ?_⟩
            exact hholds v (List.forall_mem_cons.mp hv).2

/-- A search that finds nothing has refuted the clauses. -/
theorem firstModel_none {xs : List Var} (hf : f.Within (· ∈ xs))
    (h : f.firstModel xs = none) (v : Valuation) : f.eval v = false := by
  induction xs generalizing f with
  | nil =>
      rw [firstModel] at h
      split at h
      · exact nomatch h
      · next hnil => rw [eval_of_within_nil hf, Bool.eq_false_iff.mpr hnil]
  | cons x xs ih =>
      rw [firstModel] at h
      split at h
      · next hempty => exact eval_of_any_isEmpty hempty v
      · split at h
        · split at h
          · exact nomatch h
          · next hfalse =>
              -- the value that the valuation has was tried as well
              have hboth (b : Bool) : (f.given ⟨x, b⟩).firstModel xs = none := by
                cases b with
                | false => exact hfalse
                | true => exact Option.map_eq_none_iff.mp h
              rw [← ih (within_tail (hf.given ⟨x, v x⟩)) (hboth (v x)), eval_given_update,
                Function.update_eq_self]
        · next hmentions =>
            exact ih (within_tail (hf.of_not_mentions hmentions)) (Option.map_eq_none_iff.mp h)

/-- A bound on the variables is not raised by the clauses. -/
theorem max_varCount {n : Nat} (hf : f.Within (· < n)) : max n f.varCount = n :=
  Nat.max_eq_left (varCount_le_iff.mpr hf)

/-- Deciding literals one after the other keeps the truth value where all of
    them hold. -/
theorem eval_foldl_given {ks : List Literal} (hks : ∀ l ∈ ks, l.eval v = true) (f : Cnf) :
    eval v (ks.foldl given f) = eval v f := by
  induction ks generalizing f with
  | nil => rfl
  | cons k ks ih =>
      obtain ⟨hk, hrest⟩ := List.forall_mem_cons.mp hks
      rw [List.foldl_cons, ih hrest, eval_given hk]

/-- Assumed literals take their variables out of the clauses. -/
theorem Within.foldl_given (hf : f.Within p) (ks : List Literal) :
    Within (fun x => p x ∧ x ∉ ks.map (·.var)) (ks.foldl Cnf.given f) := by
  induction ks generalizing f p with
  | nil => exact hf.mono fun x hx => ⟨hx, List.not_mem_nil⟩
  | cons k ks ih =>
      rw [List.foldl_cons]
      refine (ih (hf.given k)).mono fun x hx => ⟨hx.1.1, ?_⟩
      rw [List.map_cons, List.mem_cons, not_or]
      exact ⟨hx.1.2, hx.2⟩

end Cnf

/-! ## Models of literals. -/

namespace Model

theorem size_foldl_mark (bs : Array Bool) (ls : List Literal) :
    (ls.foldl (fun bs l => if l.positive then bs.setIfInBounds l.var true else bs) bs).size =
      bs.size := by
  induction ls generalizing bs with
  | nil => rfl
  | cons l ls ih =>
      rw [List.foldl_cons, ih]
      split
      · exact Array.size_setIfInBounds
      · rfl

/-- A variable is true in the marked model if it was, or if its positive literal is
    among those marked. -/
theorem getElem?_foldl_mark (bs : Array Bool) (ls : List Literal) {x : Var} (hx : x < bs.size) :
    (ls.foldl (fun bs l => if l.positive then bs.setIfInBounds l.var true else bs) bs)[x]? =
      some (bs[x] || ls.contains ⟨x, true⟩) := by
  induction ls generalizing bs with
  | nil =>
      rw [List.foldl_nil, Array.getElem?_eq_getElem hx]
      exact congrArg some (Bool.or_false _).symm
  | cons l ls ih =>
      obtain ⟨y, b⟩ := l
      rw [List.foldl_cons, List.contains_cons]
      cases b with
      | false =>
          rw [if_neg Bool.false_ne_true, ih bs hx]
          -- a negative literal marks nothing
          have hne : ((⟨x, true⟩ : Literal) == ⟨y, false⟩) = false := by simp
          rw [hne, Bool.false_or]
      | true =>
          rw [if_pos rfl, ih _ (by rw [Array.size_setIfInBounds]; exact hx),
            Array.getElem_setIfInBounds hx]
          by_cases hxy : y = x
          · simp [hxy]
          · have hne : ((⟨x, true⟩ : Literal) == ⟨y, true⟩) = false := by simp [Ne.symm hxy]
            rw [if_neg hxy, hne, Bool.false_or]

theorem size_ofLiterals (n : Nat) (ls : List Literal) : (ofLiterals n ls).size = n := by
  show (List.foldl _ (Array.replicate n false) ls).toList.length = n
  rw [Array.length_toList, size_foldl_mark, Array.size_replicate]

/-- The model of literals has just the positive ones true. -/
theorem value_ofLiterals {n : Nat} (ls : List Literal) {x : Var} (hx : x < n) :
    (ofLiterals n ls).value x = Valuation.ofLiterals ls x := by
  show (List.foldl _ (Array.replicate n false) ls).toList.getD x false = ls.contains ⟨x, true⟩
  have hsize : x < (Array.replicate n false).size := by rw [Array.size_replicate]; exact hx
  rw [List.getD_eq_getElem?_getD, Array.getElem?_toList, getElem?_foldl_mark _ _ hsize,
    Array.getElem_replicate, Bool.false_or, Option.getD_some]

end Model

/-! ## Assumptions. -/

namespace Search

variable {f : Cnf} {n : Nat} {as : List Literal} {v : Valuation}

/-- A literal is on a new variable if neither it nor its complement is fixed. -/
theorem var_not_mem {fixed : List Literal} {l : Literal} (hmem : l ∉ fixed)
    (hcomplement : l.complement ∉ fixed) : l.var ∉ fixed.map (·.var) := by
  intro h
  obtain ⟨k, hk, hvar⟩ := List.mem_map.mp h
  rcases Literal.eq_or_eq_complement hvar with rfl | rfl
  · exact hmem hk
  · exact hcomplement hk

/-- Assumptions that some values satisfy pass the check, each of them once. -/
theorem exists_assume {fixed ls : List Literal} (hnodup : (fixed.map (·.var)).Nodup)
    (hfixed : ∀ l ∈ fixed, l.eval v = true) (hls : ∀ l ∈ ls, l.eval v = true)
    (hrange : ∀ l ∈ ls, l.var < n) :
    ∃ ks, assume n fixed ls = .ok (some ks) ∧ (ks.map (·.var)).Nodup ∧
      ∀ l, l ∈ ks ↔ l ∈ fixed ∨ l ∈ ls := by
  -- what is fixed already stays free of repetitions and true
  induction ls generalizing fixed with
  | nil => exact ⟨fixed, rfl, hnodup, fun l => by rw [List.mem_nil_iff, or_false]⟩
  | cons l ls ih =>
      obtain ⟨hl, hls⟩ := List.forall_mem_cons.mp hls
      obtain ⟨hlt, hrange⟩ := List.forall_mem_cons.mp hrange
      have hcomplement : l.complement ∉ fixed := by
        intro hmem
        have htrue := hfixed _ hmem
        rw [Literal.eval_complement, hl] at htrue
        exact nomatch htrue
      rw [assume, if_neg (Nat.not_le.mpr hlt),
        if_neg fun h => hcomplement (List.contains_iff_mem.mp h)]
      by_cases hmem : l ∈ fixed
      · rw [if_pos (List.contains_iff_mem.mpr hmem)]
        obtain ⟨ks, hks, hnodup', hmem'⟩ := ih hnodup hfixed hls hrange
        refine ⟨ks, hks, hnodup', fun k => (hmem' k).trans ?_⟩
        rw [List.mem_cons]
        constructor
        · exact Or.imp_right Or.inr
        · rintro (h | rfl | h)
          · exact Or.inl h
          · exact Or.inl hmem
          · exact Or.inr h
      · rw [if_neg fun h => hmem (List.contains_iff_mem.mp h)]
        have hnodup : ((l :: fixed).map (·.var)).Nodup :=
          List.nodup_cons.mpr ⟨var_not_mem hmem hcomplement, hnodup⟩
        obtain ⟨ks, hks, hnodup', hmem'⟩ :=
          ih hnodup (List.forall_mem_cons.mpr ⟨hl, hfixed⟩) hls hrange
        refine ⟨ks, hks, hnodup', fun k => (hmem' k).trans ?_⟩
        rw [List.mem_cons, List.mem_cons, or_assoc, or_left_comm]

/-- Assumptions that no values satisfy are found to contradict each other. -/
theorem assume_eq_none {fixed ls : List Literal} (hnodup : (fixed.map (·.var)).Nodup)
    (hrange : ∀ l ∈ ls, l.var < n)
    (hno : ∀ v, (∀ l ∈ fixed, l.eval v = true) → ¬∀ l ∈ ls, l.eval v = true) :
    assume n fixed ls = .ok none := by
  induction ls generalizing fixed with
  | nil =>
      have hall : ∀ l ∈ fixed, l.eval (Valuation.ofLiterals fixed) = true :=
        fun l hl => Valuation.eval_ofLiterals hnodup hl
      exact absurd (fun l hl => nomatch hl) (hno _ hall)
  | cons l ls ih =>
      obtain ⟨hlt, hrange⟩ := List.forall_mem_cons.mp hrange
      rw [assume, if_neg (Nat.not_le.mpr hlt)]
      by_cases hcomplement : l.complement ∈ fixed
      · exact if_pos (List.contains_iff_mem.mpr hcomplement)
      · -- the literal is not refuted yet, so the ones that are must come later
        rw [if_neg fun h => hcomplement (List.contains_iff_mem.mp h)]
        by_cases hmem : l ∈ fixed
        · rw [if_pos (List.contains_iff_mem.mpr hmem)]
          refine ih hnodup hrange fun v hfixed hls => hno v hfixed ?_
          exact List.forall_mem_cons.mpr ⟨hfixed l hmem, hls⟩
        · rw [if_neg fun h => hmem (List.contains_iff_mem.mp h)]
          refine ih (List.nodup_cons.mpr ⟨var_not_mem hmem hcomplement, hnodup⟩) hrange ?_
          intro v hfixed hls
          obtain ⟨hl, hfixed⟩ := List.forall_mem_cons.mp hfixed
          exact hno v hfixed (List.forall_mem_cons.mpr ⟨hl, hls⟩)

/-- The number of variables that assumptions leave open. -/
def openCount (n : Nat) (as : List Literal) : Nat := n - (as.map (·.var)).toFinset.card

theorem mem_freeVars {ks : List Literal} {x : Var} :
    x ∈ freeVars n ks ↔ x < n ∧ x ∉ ks.map (·.var) := by
  rw [freeVars, List.mem_filter, List.mem_reverse, List.mem_range, Bool.not_eq_true']
  refine and_congr_right fun _ => ?_
  rw [← Bool.not_eq_true, List.any_eq_true, List.mem_map]
  exact not_congr (exists_congr fun l => and_congr_right fun _ => beq_iff_eq)

theorem nodup_freeVars (n : Nat) (ks : List Literal) : (freeVars n ks).Nodup :=
  (List.nodup_reverse.mpr List.nodup_range).filter _

/-- Under the assumptions only free variables are left in the clauses. -/
theorem within_freeVars (hf : f.Within (· < n)) (ks : List Literal) :
    Cnf.Within (· ∈ freeVars n ks) (ks.foldl Cnf.given f) :=
  (hf.foldl_given ks).mono fun _ hx => mem_freeVars.mpr hx

/-- A variable of the search that is not free is assumed. -/
theorem mem_map_of_not_mem_freeVars {ks : List Literal} {x : Var} (hx : x < n)
    (h : x ∉ freeVars n ks) : ∃ l ∈ ks, l.var = x := by
  by_contra hno
  exact h (mem_freeVars.mpr ⟨hx, fun hmem => hno (List.mem_map.mp hmem)⟩)

/-- A search under assumptions that some values satisfy is done when it does
    not leave too many variables open. -/
theorem exists_run {α : Type} (hf : f.Within (· < n)) (has : ∀ l ∈ as, l.eval v = true)
    (hrange : ∀ l ∈ as, l.var < n) (search : List Literal → List Var → Cnf → α) :
    ∃ ks, (ks.map (·.var)).Nodup ∧ (∀ l, l ∈ ks ↔ l ∈ as) ∧
      run f n as search =
        if searchLimit < openCount n as then .error (.tooManyFree (openCount n as))
        else .ok (some (search ks (freeVars n ks) (ks.foldl Cnf.given f))) := by
  have hnil : (([] : List Literal).map (·.var)).Nodup := List.nodup_nil
  obtain ⟨ks, hks, hnodup, hmem⟩ := exists_assume hnil (fun _ hl => nomatch hl) has hrange
  have hmem : ∀ l, l ∈ ks ↔ l ∈ as := fun l =>
    (hmem l).trans ⟨fun h => h.resolve_left List.not_mem_nil, Or.inr⟩
  have hmax := Cnf.max_varCount hf
  -- every assumption is in the list once, so its length counts their variables
  have hlength : n - ks.length = openCount n as := by
    rw [openCount, ← List.length_map (·.var), ← List.toFinset_card_of_nodup hnodup]
    refine congrArg (n - ·) (congrArg Finset.card (Finset.ext fun x => ?_))
    rw [List.mem_toFinset, List.mem_toFinset, List.mem_map, List.mem_map]
    exact exists_congr fun l => and_congr_left fun _ => hmem l
  refine ⟨ks, hnodup, hmem, ?_⟩
  simp only [run, hmax, hks, ← hlength]
  rfl

/-- Clauses and assumptions depend on the variables below a bound only, when
    theirs are below it. -/
theorem dependsOn_range (hf : f.Within (· < n)) (hrange : ∀ l ∈ as, l.var < n) :
    DependsOn (Finset.range n) fun w => f.eval w = true ∧ ∀ l ∈ as, l.eval w = true := by
  intro w w' hw
  show (f.eval w = true ∧ _) ↔ (f.eval w' = true ∧ _)
  rw [Cnf.eval_congr hf fun x hx => hw x (Finset.mem_range.mpr hx)]
  refine and_congr_right fun _ => forall₂_congr fun l hl => ?_
  unfold Literal.eval
  rw [hw l.var (Finset.mem_range.mpr (hrange l hl))]

/-- Values of the open variables that satisfy what is left of the clauses are
    values of all variables that satisfy the clauses and the assumptions, which
    give one value to each assumed variable. -/
theorem countOver_freeVars (hf : f.Within (· < n)) (hnodup : (as.map (·.var)).Nodup)
    (hrange : ∀ l ∈ as, l.var < n) :
    countOver (Finset.range n) (fun w => f.eval w = true ∧ ∀ l ∈ as, l.eval w = true) =
      countOver (freeVars n as).toFinset
        fun w => Cnf.eval w (as.foldl Cnf.given f) = true := by
  have hrest := within_freeVars hf as
  refine countOver_eq_of_unique_extension ?_ (dependsOn_range hf hrange) ?_ ?_ ?_ ?_
  · intro x hx
    exact Finset.mem_range.mpr (mem_freeVars.mp (List.mem_toFinset.mp hx)).1
  · intro w w' hw
    show Cnf.eval w _ = true ↔ Cnf.eval w' _ = true
    rw [Cnf.eval_congr hrest fun x hx => hw x (List.mem_toFinset.mpr hx)]
  · rintro w ⟨hw, hls⟩
    exact (Cnf.eval_foldl_given hls f).trans hw
  · intro w hw
    -- the assumed variables get the values that are assumed
    let w' : Valuation := fun x => if x ∈ freeVars n as then w x else Valuation.ofLiterals as x
    have hfree : ∀ x ∈ freeVars n as, w' x = w x := fun x hx => if_pos hx
    have hfixed : ∀ l ∈ as, l.eval w' = true := by
      intro l hl
      have hnot : l.var ∉ freeVars n as := fun h =>
        (mem_freeVars.mp h).2 (List.mem_map_of_mem hl)
      have hvalue : w' l.var = Valuation.ofLiterals as l.var := if_neg hnot
      rw [← Valuation.eval_ofLiterals hnodup hl]
      unfold Literal.eval
      rw [hvalue]
    refine ⟨w', fun x hx => hfree x (List.mem_toFinset.mp hx), ?_, hfixed⟩
    rw [← Cnf.eval_foldl_given hfixed, Cnf.eval_congr hrest hfree, hw]
  · rintro w w' ⟨-, hw⟩ ⟨-, hw'⟩ hagree x hx
    by_cases hfree : x ∈ freeVars n as
    · exact hagree x (List.mem_toFinset.mpr hfree)
    · obtain ⟨l, hl, rfl⟩ := mem_map_of_not_mem_freeVars (Finset.mem_range.mp hx) hfree
      rw [beq_iff_eq.mp (hw l hl), beq_iff_eq.mp (hw' l hl)]

/-- **COUNTING UNDER ASSUMPTIONS** is refused when too many variables are left
    open; otherwise the number is that of the values of all variables that
    satisfy the clauses and the assumptions. -/
theorem count_eq (hf : f.Within (· < n)) (has : ∀ l ∈ as, l.eval v = true)
    (hrange : ∀ l ∈ as, l.var < n) :
    count f n as =
      if searchLimit < openCount n as then .error (.tooManyFree (openCount n as))
      else .ok (countOver (Finset.range n) fun w =>
        f.eval w = true ∧ ∀ l ∈ as, l.eval w = true) := by
  obtain ⟨ks, hnodup, hmem, hrun⟩ :=
    exists_run hf has hrange fun _ free rest => Cnf.countModels rest free
  unfold count
  rw [hrun]
  split
  · rfl
  · refine congrArg Except.ok ?_
    show Cnf.countModels _ (freeVars n ks) = _
    rw [Cnf.countModels_eq (nodup_freeVars n ks) (within_freeVars hf ks),
      ← countOver_freeVars hf hnodup fun l hl => hrange l ((hmem l).mp hl)]
    exact countOver_congr fun w => and_congr_right fun _ => forall_congr' fun l =>
      imp_congr_left (hmem l)

/-- A model of the assumptions, each of them once, and of what the search
    decides about the open variables makes all of these true. -/
theorem eval_ofLiterals {ks ls : List Literal} (hnodup : (ks.map (·.var)).Nodup)
    (hrange : ∀ l ∈ ks, l.var < n) (hvars : ls.map (·.var) = freeVars n ks) :
    ∀ l ∈ ks ++ ls, l.eval (Model.ofLiterals n (ks ++ ls)).value = true := by
  -- assumptions and decisions are on different variables, so all can hold
  have hboth : ((ks ++ ls).map (·.var)).Nodup := by
    rw [List.map_append, hvars]
    refine hnodup.append (nodup_freeVars n ks) fun x hx hfree => ?_
    exact (mem_freeVars.mp hfree).2 hx
  intro l hl
  have hlt : l.var < n := by
    rcases List.mem_append.mp hl with hl | hl
    · exact hrange l hl
    · exact (mem_freeVars.mp (hvars ▸ List.mem_map_of_mem hl)).1
  rw [← Valuation.eval_ofLiterals hboth hl]
  unfold Literal.eval
  rw [Model.value_ofLiterals _ hlt]

/-- Solving decides the open variables, when there are not too many. -/
theorem exists_solve (hf : f.Within (· < n)) (has : ∀ l ∈ as, l.eval v = true)
    (hrange : ∀ l ∈ as, l.var < n) (hlimit : openCount n as ≤ searchLimit) :
    ∃ ks, (ks.map (·.var)).Nodup ∧ (∀ l, l ∈ ks ↔ l ∈ as) ∧
      solve f n as =
        .ok ((Cnf.firstModel (ks.foldl Cnf.given f) (freeVars n ks)).map fun ls =>
          Model.ofLiterals n (ks ++ ls)) := by
  obtain ⟨ks, hnodup, hmem, hrun⟩ :=
    exists_run hf has hrange fun fixed free rest =>
      (rest.firstModel free).map fun ls => Model.ofLiterals n (fixed ++ ls)
  rw [if_neg (Nat.not_lt.mpr hlimit)] at hrun
  refine ⟨ks, hnodup, hmem, ?_⟩
  unfold solve
  rw [Cnf.max_varCount hf, hrun]
  rfl

/-- **SOLVING UNDER ASSUMPTIONS** finds a model of the clauses and the
    assumptions, or refutes them, when not too many variables are left open. -/
theorem solve_ok (hf : f.Within (· < n)) (has : ∀ l ∈ as, l.eval v = true)
    (hrange : ∀ l ∈ as, l.var < n) (hlimit : openCount n as ≤ searchLimit) :
    (∃ m, solve f n as = .ok (some m) ∧ m.size = n ∧ f.eval m.value = true ∧
      ∀ l ∈ as, l.eval m.value = true) ∨
    (solve f n as = .ok none ∧ ∀ w, (∀ l ∈ as, l.eval w = true) → f.eval w = false) := by
  obtain ⟨ks, hnodup, hmem, hsolve⟩ := exists_solve hf has hrange hlimit
  rw [hsolve]
  cases hfirst : Cnf.firstModel (ks.foldl Cnf.given f) (freeVars n ks) with
  | none =>
      -- without a model of what is left, no valuation that meets the assumptions is one
      refine Or.inr ⟨rfl, fun w hw => ?_⟩
      rw [← Cnf.eval_foldl_given fun l hl => hw l ((hmem l).mp hl)]
      exact Cnf.firstModel_none (within_freeVars hf ks) hfirst w
  | some ls =>
      obtain ⟨hvars, hholds⟩ := Cnf.firstModel_some (within_freeVars hf ks) hfirst
      obtain ⟨hks, hls⟩ := List.forall_mem_append.mp
        (eval_ofLiterals hnodup (fun l hl => hrange l ((hmem l).mp hl)) hvars)
      refine Or.inl ⟨_, rfl, Model.size_ofLiterals n _, ?_, ?_⟩
      · rw [← Cnf.eval_foldl_given hks]
        exact hholds _ hls
      · exact fun l hl => hks l ((hmem l).mpr hl)

/-! ## Results. -/

/-- The variables of the clauses are searched in any case. -/
theorem solve_max (f : Cnf) (n : Nat) (as : List Literal) :
    solve f (max n f.varCount) as = solve f n as := by
  simp only [solve, run, Nat.max_assoc, Nat.max_self]

/-- Whether a search takes the variables of the clauses into account is of no matter: it
    does so itself. -/
theorem count_max (f : Cnf) (n : Nat) (as : List Literal) :
    count f (max n f.varCount) as = count f n as := by
  simp only [count, run, Nat.max_assoc, Nat.max_self]

/-- A search under assumptions that contradict each other has nothing to look
    for. -/
theorem run_eq_none {α : Type} (hf : f.Within (· < n)) (hrange : ∀ l ∈ as, l.var < n)
    (hno : ∀ v, ¬∀ l ∈ as, l.eval v = true) (search : List Literal → List Var → Cnf → α) :
    run f n as search = .ok none := by
  have hnone : assume n [] as = .ok none :=
    assume_eq_none List.nodup_nil hrange fun v _ => hno v
  simp only [run, Cnf.max_varCount hf, hnone]
  rfl

/-- A search with a result finds a model just if there are values that satisfy
    the clauses and the assumptions. -/
theorem isSome_of_solve {found : Option Model} (hf : f.Within (· < n))
    (hrange : ∀ l ∈ as, l.var < n) (h : solve f n as = .ok found) :
    found.isSome = true ↔ ∃ v, f.eval v = true ∧ ∀ l ∈ as, l.eval v = true := by
  by_cases hsome : ∃ v : Valuation, ∀ l ∈ as, l.eval v = true
  · obtain ⟨v, has⟩ := hsome
    have hlimit : openCount n as ≤ searchLimit := by
      by_contra hlarge
      -- too many open variables would be refused, but an answer was given
      obtain ⟨ks, -, -, hrun⟩ := exists_run hf has hrange fun fixed free rest =>
        (rest.firstModel free).map fun ls => Model.ofLiterals (max n f.varCount) (fixed ++ ls)
      rw [if_pos (Nat.not_le.mp hlarge)] at hrun
      rw [solve, hrun] at h
      exact nomatch h
    obtain ⟨m, hm, -, heval, hls⟩ | ⟨hnone, hrefuted⟩ := solve_ok hf has hrange hlimit
    · rw [← Except.ok.inj (hm.symm.trans h)]
      exact iff_of_true rfl ⟨m.value, heval, hls⟩
    · rw [← Except.ok.inj (hnone.symm.trans h)]
      refine iff_of_false Bool.false_ne_true ?_
      rintro ⟨w, hw, hls⟩
      exact nomatch (hrefuted w hls).symm.trans hw
  · have hno (v : Valuation) : ¬∀ l ∈ as, l.eval v = true := fun has => hsome ⟨v, has⟩
    rw [solve, run_eq_none hf hrange hno] at h
    rw [← Except.ok.inj h]
    exact iff_of_false Bool.false_ne_true fun ⟨v, _, hls⟩ => hno v hls

/-- A count with a result is the number of values that satisfy the clauses and
    the assumptions. -/
theorem eq_of_count {c : Nat} (hf : f.Within (· < n)) (hrange : ∀ l ∈ as, l.var < n)
    (h : count f n as = .ok c) :
    c = countOver (Finset.range n) fun w => f.eval w = true ∧ ∀ l ∈ as, l.eval w = true := by
  by_cases hsome : ∃ v : Valuation, ∀ l ∈ as, l.eval v = true
  · obtain ⟨v, has⟩ := hsome
    rw [count_eq hf has hrange] at h
    split at h
    · exact nomatch h
    · exact (Except.ok.inj h).symm
  · have hno (v : Valuation) : ¬∀ l ∈ as, l.eval v = true := fun has => hsome ⟨v, has⟩
    rw [count, run_eq_none hf hrange hno] at h
    rw [← Except.ok.inj h]
    exact (countOver_eq_zero_iff.mpr fun s _ hs => hno _ hs.2).symm

end Search

end GuardedCnf
