import GuardedCnf.Proofs.Search
/-! # Search refusals — which assumptions a search does not take

    Assumptions are checked from left to right, and the check ends at the first
    that is on no variable of the formula or contradicts one before it.  So a
    search is refused for an assumption out of range only if those before it do
    not contradict each other, and for too many open variables only if all
    assumptions pass.  A contradiction leaves nothing to look for, whatever comes
    after it. -/

namespace GuardedCnf

/-- No literal of a list has its complement there. -/
def Consistent (ls : List Literal) : Prop := ∀ l ∈ ls, l.complement ∉ ls

/-- Fewer assumptions of consistent ones are consistent. -/
theorem Consistent.of_subset {ks ls : List Literal} (h : Consistent ls)
    (hsub : ∀ l ∈ ks, l ∈ ls) : Consistent ks :=
  fun l hl hcomplement => h l (hsub l hl) (hsub _ hcomplement)

/-- Literals can be true together unless two of them are complementary. -/
theorem consistent_iff {ls : List Literal} :
    Consistent ls ↔ ∃ v : Valuation, ∀ l ∈ ls, l.eval v = true := by
  constructor
  · intro h
    refine ⟨Valuation.ofLiterals ls, fun l hl => ?_⟩
    obtain ⟨x, b⟩ := l
    show (ls.contains ⟨x, true⟩ == b) = true
    rw [beq_iff_eq]
    cases b with
    | true => exact List.contains_iff_mem.mpr hl
    | false =>
        rw [← Bool.not_eq_true, List.contains_iff_mem]
        exact h _ hl
  · rintro ⟨v, hv⟩ l hl hcomplement
    have hfalse := hv _ hcomplement
    rw [Literal.eval_complement, hv l hl] at hfalse
    exact nomatch hfalse

namespace Search

variable {α : Type} {f : Cnf} {n varCount : Nat} {as before after : List Literal} {l : Literal}

/-- The variables below `n` that are not assumed, in increasing order. -/
def unassumed (n : Nat) (as : List Literal) : List Var :=
  (List.range n).filter fun x => !as.any (·.var == x)

/-- Why a search over `n` variables is refused. -/
inductive Refusal (n : Nat) (as : List Literal) : SearchError → Prop where
  | outOfRange {before after : List Literal} {l : Literal} (split : as = before ++ l :: after)
      (inRange : ∀ k ∈ before, k.var < n) (consistent : Consistent before) (out : n ≤ l.var) :
      Refusal n as (.outOfRange l n)
  | tooManyFree (inRange : ∀ k ∈ as, k.var < n) (consistent : Consistent as)
      (large : searchLimit < (unassumed n as).length) :
      Refusal n as (.tooManyFree (unassumed n as).length)

/-- Some assumption is out of range, and those before it do not contradict each
    other; or all assumptions are in range and consistent, and leave too many
    variables open. -/
def Refused (n : Nat) (as : List Literal) : Prop :=
  (∃ before l after, as = before ++ l :: after ∧ n ≤ l.var ∧ Consistent before) ∨
    ((∀ l ∈ as, l.var < n) ∧ Consistent as ∧ searchLimit < (unassumed n as).length)

/-! ## The first assumption out of range. -/

/-- Either all assumptions are in range, or there is a first that is not. -/
theorem inRange_or_first (n : Nat) (as : List Literal) :
    (∀ l ∈ as, l.var < n) ∨
      ∃ before l after, as = before ++ l :: after ∧ (∀ k ∈ before, k.var < n) ∧ n ≤ l.var := by
  cases hfind : as.find? fun l => decide (n ≤ l.var) with
  | none =>
      refine Or.inl fun l hl => ?_
      have hnot := List.find?_eq_none.mp hfind l hl
      exact Nat.lt_of_not_le fun hle => hnot (decide_eq_true hle)
  | some l =>
      obtain ⟨hout, before, after, rfl, hbefore⟩ := List.find?_eq_some_iff_append.mp hfind
      refine Or.inr ⟨before, l, after, rfl, fun k hk => ?_, of_decide_eq_true hout⟩
      have hnot := hbefore k hk
      exact Nat.lt_of_not_le fun hle => by simp [hle] at hnot

/-- Before any assumption out of range are all that are before the first. -/
theorem subset_of_first {before' after' : List Literal} {l' : Literal}
    (hin : ∀ k ∈ before, k.var < n) (hout : n ≤ l'.var)
    (h : before ++ l :: after = before' ++ l' :: after') : ∀ k ∈ before, k ∈ before' := by
  obtain ⟨middle, rfl, -⟩ | ⟨middle, rfl, hrest⟩ := List.append_eq_append_iff.mp h
  · exact fun k hk => List.mem_append_left middle hk
  · cases middle with
    | nil =>
        rw [List.append_nil]
        exact fun _ hk => hk
    | cons k middle =>
        obtain rfl : l' = k := (List.cons.inj hrest).1
        have hmem : l' ∈ before' ++ l' :: middle := by simp
        exact absurd hout (Nat.not_le.mpr (hin l' hmem))

/-- A search is refused for one of two reasons. -/
theorem refused_iff : Refused n as ↔ ∃ e, Refusal n as e := by
  constructor
  · rintro (⟨before', l', after', rfl, hout', hconsistent⟩ | ⟨hin, hconsistent, hlarge⟩)
    · obtain hall | ⟨before, l, after, hsplit, hin, hout⟩ :=
        inRange_or_first n (before' ++ l' :: after')
      · exact absurd hout' (Nat.not_le.mpr (hall l' (by simp)))
      · have hsub := subset_of_first hin hout' hsplit.symm
        exact ⟨_, .outOfRange hsplit hin (hconsistent.of_subset hsub) hout⟩
    · exact ⟨_, .tooManyFree hin hconsistent hlarge⟩
  · rintro ⟨e, h⟩
    cases h with
    | outOfRange split _ consistent out => exact Or.inl ⟨_, _, _, split, out, consistent⟩
    | tooManyFree inRange consistent large => exact Or.inr ⟨inRange, consistent, large⟩

/-! ## The check. -/

/-- A list of assumptions is checked as its first part and then, if that passes,
    the second. -/
theorem assume_append (n : Nat) (fixed before after : List Literal) :
    assume n fixed (before ++ after) =
      match assume n fixed before with
      | .ok (some fixed) => assume n fixed after
      | other => other := by
  induction before generalizing fixed with
  | nil => rfl
  | cons l before ih =>
      rw [List.cons_append, assume, assume]
      by_cases hout : n ≤ l.var
      · rw [if_pos hout, if_pos hout]
      · rw [if_neg hout, if_neg hout]
        split
        · rfl
        · exact ih _

/-- Consistent assumptions on variables of the search are kept. -/
theorem assume_of_consistent (hin : ∀ l ∈ as, l.var < n) (h : Consistent as) :
    ∃ ks, assume n [] as = .ok (some ks) := by
  obtain ⟨v, hv⟩ := consistent_iff.mp h
  have hnil : (([] : List Literal).map (·.var)).Nodup := List.nodup_nil
  obtain ⟨ks, hks, -⟩ := exists_assume hnil (fun _ hl => nomatch hl) hv hin
  exact ⟨ks, hks⟩

/-- Assumptions that contradict each other are noticed, when none is refused. -/
theorem assume_of_not_consistent (hin : ∀ l ∈ as, l.var < n) (h : ¬Consistent as) :
    assume n [] as = .ok none :=
  assume_eq_none List.nodup_nil hin fun v _ hv => h (consistent_iff.mpr ⟨v, hv⟩)

/-- The first assumption out of range is reported if those before it do not
    contradict each other. -/
theorem assume_of_out (hin : ∀ k ∈ before, k.var < n) (h : Consistent before)
    (hout : n ≤ l.var) : assume n [] (before ++ l :: after) = .error (.outOfRange l n) := by
  obtain ⟨ks, hks⟩ := assume_of_consistent hin h
  rw [assume_append, hks]
  exact if_pos hout

/-- Assumptions that contradict each other and are not refused have nothing to
    look for. -/
theorem assume_of_not_refused (hrefused : ¬Refused n as) (h : ¬Consistent as) :
    assume n [] as = .ok none := by
  obtain hall | ⟨before, l, after, rfl, hin, hout⟩ := inRange_or_first n as
  · exact assume_of_not_consistent hall h
  · have hbefore : ¬Consistent before := fun hconsistent =>
      hrefused (Or.inl ⟨before, l, after, rfl, hout, hconsistent⟩)
    rw [assume_append, assume_of_not_consistent hin hbefore]

/-- Consistent assumptions that are not refused are in range. -/
theorem inRange_of_not_refused (hrefused : ¬Refused n as) (h : Consistent as) :
    ∀ l ∈ as, l.var < n := by
  obtain hall | ⟨before, l, after, rfl, -, hout⟩ := inRange_or_first n as
  · exact hall
  · have hbefore : Consistent before := h.of_subset fun k hk => List.mem_append_left _ hk
    exact absurd (Or.inl ⟨before, l, after, rfl, hout, hbefore⟩) hrefused

/-! ## Open variables. -/

/-- The variables without an assumption. -/
theorem mem_unassumed {x : Var} : x ∈ unassumed n as ↔ x < n ∧ x ∉ as.map (·.var) := by
  rw [← mem_freeVars, freeVars, unassumed, List.mem_filter, List.mem_filter, List.mem_reverse]

/-- The variables without an assumption are as many as the search finds open. -/
theorem length_unassumed (hin : ∀ l ∈ as, l.var < n) :
    (unassumed n as).length = openCount n as := by
  have hnodup : (unassumed n as).Nodup := List.nodup_range.filter _
  have hassumed : (as.map (·.var)).toFinset ⊆ Finset.range n := by
    intro x hx
    obtain ⟨l, hl, rfl⟩ := List.mem_map.mp (List.mem_toFinset.mp hx)
    exact Finset.mem_range.mpr (hin l hl)
  have hopen : (unassumed n as).toFinset = Finset.range n \ (as.map (·.var)).toFinset := by
    ext x
    rw [List.mem_toFinset, mem_unassumed, Finset.mem_sdiff, Finset.mem_range, List.mem_toFinset]
  rw [← List.toFinset_card_of_nodup hnodup, hopen, Finset.card_sdiff_of_subset hassumed,
    Finset.card_range, openCount]

/-! ## Refused searches. -/

/-- **A SEARCH IS REFUSED** for the first assumption out of range or for too many
    open variables. -/
theorem run_of_refusal {e : SearchError} (hf : f.Within (· < n)) (h : Refusal n as e)
    (search : List Literal → List Var → Cnf → α) : run f n as search = .error e := by
  cases h with
  | outOfRange split inRange consistent out =>
      subst split
      simp only [run, Cnf.max_varCount hf, assume_of_out inRange consistent out]
      rfl
  | tooManyFree inRange consistent large =>
      obtain ⟨v, hv⟩ := consistent_iff.mp consistent
      obtain ⟨ks, -, -, hrun⟩ := exists_run hf hv inRange search
      rw [length_unassumed inRange] at large ⊢
      rw [hrun, if_pos large]

/-- A search under contradicting assumptions finds nothing, and is not refused. -/
theorem run_of_not_refused (hf : f.Within (· < n)) (hrefused : ¬Refused n as)
    (h : ¬Consistent as) (search : List Literal → List Var → Cnf → α) :
    run f n as search = .ok none := by
  simp only [run, Cnf.max_varCount hf, assume_of_not_refused hrefused h]
  rfl

end Search

end GuardedCnf
