import GuardedCnf.Proofs.Histories
import Mathlib.Algebra.Group.Nat.Defs
/-! # Name searches — every search for a name comes to an end

    The search for a free variant has no bound of its own, and its counter is a
    number of 32 bits with a sign.  The runs of the search, and of the loop that
    chooses a name for each variable that a formula still needs, are inductive
    relations: a run is derived in finitely many steps, and no rule takes the
    counter beyond its last number.

    A run of the search ends at the first free variant, and a map with fewer than
    2^31 - 2 variables has one that the counter can pass. -/

namespace GuardedCnf.VariableMap

variable {vars : VariableMap} {hint name : String} {k : Nat} {f : Formula}
  {r : EStateM.Result EncodingError VariableMap Unit}

/-! ## Runs. -/

/-- The greatest number of 32 bits with a sign. -/
def lastCount : Nat := 2 ^ 31 - 1

/-- `Finds vars hint k name`: counting on from `k`, the search for a free variant
    ends with `name`.  The counter takes its next number before a variant is
    looked up, so it has to have one. -/
inductive Finds (vars : VariableMap) (hint : String) : Nat → String → Prop where
  | free {k : Nat} (hcount : k < lastCount) (hfree : vars.get? (variant hint k) = none) :
      Finds vars hint k (variant hint k)
  | taken {k : Nat} {name : String} (hcount : k < lastCount)
      (htaken : vars.get? (variant hint k) ≠ none) (hrest : Finds vars hint (k + 1) name) :
      Finds vars hint k name

/-- `Chooses vars hint name`: the choice of a name for a hint ends with `name`. -/
inductive Chooses (vars : VariableMap) (hint : String) : String → Prop where
  | hint (hfree : vars.get? hint = none) : Chooses vars hint hint
  | variant {name : String} (htaken : vars.get? hint ≠ none) (hfinds : Finds vars hint 2 name) :
      Chooses vars hint name

theorem Finds.get?_eq_none (h : Finds vars hint k name) : vars.get? name = none := by
  induction h with
  | free _ hfree => exact hfree
  | taken _ _ _ ih => exact ih

/-- A name that is chosen is not taken. -/
theorem Chooses.get?_eq_none (h : Chooses vars hint name) : vars.get? name = none := by
  cases h with
  | hint hfree => exact hfree
  | variant _ hfinds => exact hfinds.get?_eq_none

/-- `Covers f vars r`: while the map has fewer variables than the formula needs,
    a name is chosen and allocated, and this ends with the outcome `r`. -/
inductive Covers (f : Formula) :
    VariableMap → EStateM.Result EncodingError VariableMap Unit → Prop where
  | done {vars : VariableMap} (hdone : f.varCount ≤ vars.size) : Covers f vars (.ok () vars)
  | next {vars : VariableMap} {name : String}
      {r : EStateM.Result EncodingError VariableMap Unit} (hmore : vars.size < f.varCount)
      (hname : Chooses vars ("x" ++ toString (vars.size + 1)) name)
      (hroom : vars.size < vars.limit)
      (hrest : Covers f (vars.push ⟨name, false⟩ hname.get?_eq_none) r) : Covers f vars r
  | full {vars : VariableMap} {name : String} (hmore : vars.size < f.varCount)
      (hname : Chooses vars ("x" ++ toString (vars.size + 1)) name)
      (hfull : vars.limit ≤ vars.size) :
      Covers f vars (.error (.exhausted name vars.limit) vars)

/-! ## Where runs end. -/

theorem finds_firstFree (h : vars.firstFree hint k < lastCount) :
    Finds vars hint k (variant hint (vars.firstFree hint k)) := by
  fun_induction firstFree vars hint k with
  | case1 k hfree => exact .free h hfree
  | case2 k htaken ih =>
      have hle := (vars.isLeast_firstFree hint (k + 1)).1.1
      exact .taken (by omega) htaken (ih h)

/-- **THE SEARCH ENDS AT THE FIRST FREE VARIANT** that its counter can pass, and
    nowhere else. -/
theorem finds_iff : Finds vars hint k name ↔
    vars.firstFree hint k < lastCount ∧ name = variant hint (vars.firstFree hint k) := by
  constructor
  · intro h
    induction h with
    | free hcount hfree =>
        rw [firstFree, dif_pos hfree]
        exact ⟨hcount, rfl⟩
    | taken hcount htaken hrest ih =>
        rw [firstFree, dif_neg htaken]
        exact ih
  · rintro ⟨h, rfl⟩
    exact finds_firstFree h

/-- With so few variables the counter can pass the first free variant. -/
theorem firstFree_lt_lastCount (hsize : vars.size < 2 ^ 31 - 2) (h : hint ∈ vars.names) :
    vars.firstFree hint 2 < lastCount := by
  have hle := firstFree_le h
  unfold lastCount
  omega

theorem chooses_uniqueName (hsize : vars.size < 2 ^ 31 - 2) (hint : String) :
    Chooses vars hint (vars.uniqueName hint) := by
  by_cases h : hint ∈ vars.names
  · rw [uniqueName_of_mem h]
    have hcount := firstFree_lt_lastCount hsize h
    exact .variant (get?_ne_none_iff.mpr h) (finds_firstFree hcount)
  · rw [uniqueName_of_not_mem h]
    exact .hint (get?_eq_none_iff.mpr h)

theorem Chooses.eq_uniqueName (h : Chooses vars hint name) : name = vars.uniqueName hint := by
  cases h with
  | hint hfree => exact (uniqueName_of_not_mem (get?_eq_none_iff.mp hfree)).symm
  | variant htaken hfinds =>
      rw [uniqueName_of_mem (get?_ne_none_iff.mp htaken)]
      exact (finds_iff.mp hfinds).2

/-- **COVERING IS A LOOP**: one variable is allocated while the formula needs
    more than the map has. -/
theorem cover_run (f : Formula) (vars : VariableMap) :
    (cover f).run vars =
      if vars.size < f.varCount then
        if vars.size < vars.limit then (cover f).run vars.pushNext
        else .error (.exhausted vars.nextName vars.limit) vars
      else .ok () vars := by
  show (extend (f.varCount - vars.size)).run vars = _
  by_cases hmore : vars.size < f.varCount
  · obtain ⟨n, hn⟩ : ∃ n, f.varCount - vars.size = n + 1 := ⟨f.varCount - vars.size - 1, by omega⟩
    have hrest : f.varCount - vars.pushNext.size = n := by
      rw [size_pushNext]
      omega
    rw [if_pos hmore, hn, extend_succ_run, ← hrest]
    rfl
  · rw [if_neg hmore, Nat.sub_eq_zero_of_le (Nat.le_of_not_lt hmore)]
    rfl

/-- The loop ends if it meets no map with more variables than a search can bear:
    it searches a name only below what the formula needs and up to the limit. -/
theorem covers_run (hfew : min f.varCount (vars.limit + 1) ≤ 2 ^ 31 - 2)
    (hsize : vars.size < f.varCount → vars.size < 2 ^ 31 - 2) :
    Covers f vars ((cover f).run vars) := by
  -- by induction on how many variables the map still lacks
  induction hn : f.varCount - vars.size generalizing vars with
  | zero =>
      have hdone : f.varCount ≤ vars.size := Nat.le_of_sub_eq_zero hn
      rw [cover_run, if_neg (Nat.not_lt.mpr hdone)]
      exact .done hdone
  | succ n ih =>
      have hmore : vars.size < f.varCount := by omega
      have hname := chooses_uniqueName (hsize hmore) ("x" ++ toString (vars.size + 1))
      rw [cover_run, if_pos hmore]
      by_cases hroom : vars.size < vars.limit
      · rw [if_pos hroom]
        refine .next hmore hname hroom (ih hfew ?_ ?_)
        · rw [size_push]
          intro hmore'
          -- the larger map is still below the formula and within the limit
          exact Nat.lt_of_lt_of_le (Nat.lt_min.mpr ⟨hmore', Nat.succ_lt_succ hroom⟩) hfew
        · rw [size_push]
          omega
      · rw [if_neg hroom]
        exact .full hmore hname (Nat.le_of_not_lt hroom)

theorem Covers.eq_run (h : Covers f vars r) : r = (cover f).run vars := by
  induction h with
  | done hdone => rw [cover_run, if_neg (Nat.not_lt.mpr hdone)]
  | next hmore hname hroom hrest ih =>
      obtain rfl := hname.eq_uniqueName
      rw [cover_run, if_pos hmore, if_pos hroom, ih]
      rfl
  | full hmore hname hfull =>
      rw [cover_run, if_pos hmore, if_neg (Nat.not_lt.mpr hfull), hname.eq_uniqueName]
      rfl

/-- **SEARCHES FOR NAMES END**.  In a map with fewer than 2^31 - 2 variables the
    choice of a name for any hint ends: with the hint itself if it is free, and
    else with its first free variant, whose number is at most one more than that
    of the variables.  The name is not taken.  So a new variable gets a name, and
    the loop that covers a formula ends with the outcome of the covering, if the
    maps in which it searches are small as well: they have fewer variables than
    the formula and no more than their limit. -/
theorem name_searches_end (vars : VariableMap) (hsize : vars.size < 2 ^ 31 - 2) :
    (∀ hint name, Chooses vars hint name ↔ name = vars.uniqueName hint) ∧
      (∀ hint, hint ∉ vars.names → vars.uniqueName hint = hint) ∧
      (∀ hint, hint ∈ vars.names → ∃ k, vars.uniqueName hint = variant hint k ∧
        IsLeast {j | 2 ≤ j ∧ variant hint j ∉ vars.names} k ∧ k ≤ vars.size + 1) ∧
      (∀ hint, vars.uniqueName hint ∉ vars.names) ∧
      (∀ hint, ∃ name, ∃ h : Chooses vars hint name,
        (fresh hint).run vars = vars.allocate name true h.get?_eq_none) ∧
      ∀ f, min f.varCount (vars.limit + 1) ≤ 2 ^ 31 - 2 →
        ∀ r, Covers f vars r ↔ r = (cover f).run vars := by
  refine ⟨fun hint name => ?_, fun hint => uniqueName_of_not_mem, fun hint h => ?_,
    fun hint => get?_eq_none_iff.mp (vars.get?_uniqueName hint),
    fun hint => ⟨_, chooses_uniqueName hsize hint, rfl⟩, fun f hfew r => ?_⟩
  · refine ⟨Chooses.eq_uniqueName, ?_⟩
    rintro rfl
    exact chooses_uniqueName hsize hint
  · exact ⟨_, uniqueName_of_mem h, vars.isLeast_firstFree hint 2, firstFree_le h⟩
  · refine ⟨Covers.eq_run, ?_⟩
    rintro rfl
    exact covers_run hfew fun _ => hsize

/-- The names of a map leave out the third variant of one of them, and have the
    name that covering a formula asks for first. -/
theorem name_searches_end_gap :
    let vars := ((((empty 6).push ⟨"a", false⟩ (by simp)).push ⟨"a_2", false⟩ (by simp)).push
      ⟨"a_4", false⟩ (by simp)).push ⟨"x5", false⟩ (by simp)
    let f : Formula := .lit ⟨5, true⟩
    vars.size < 2 ^ 31 - 2 ∧ min f.varCount (vars.limit + 1) ≤ 2 ^ 31 - 2 ∧
      "a" ∈ vars.names ∧ vars.uniqueName "a" = "a_3" ∧ Chooses vars "a" "a_3" ∧
      Covers f vars ((cover f).run vars) := by
  intro vars f
  have hsize : vars.size < 2 ^ 31 - 2 := by decide
  have hfew : min f.varCount (vars.limit + 1) ≤ 2 ^ 31 - 2 := by decide
  have hmem : "a" ∈ vars.names := by decide
  obtain ⟨hchooses, -, hvariant, -, -, hcovers⟩ := name_searches_end vars hsize
  obtain ⟨k, hname, ⟨⟨hk, hfree⟩, hleast⟩, -⟩ := hvariant "a" hmem
  -- the gap between the second and the fourth name is filled
  have hle : k ≤ 3 := hleast ⟨by decide, by decide⟩
  have hne : k ≠ 2 := by
    rintro rfl
    exact hfree (by decide)
  obtain rfl : k = 3 := by omega
  have hthird : vars.uniqueName "a" = "a_3" := hname
  exact ⟨hsize, hfew, hmem, hthird, (hchooses "a" "a_3").mpr hthird.symm,
    (hcovers f hfew _).mpr rfl⟩

end GuardedCnf.VariableMap
