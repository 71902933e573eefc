import GuardedCnf.Proofs.Histories
/-! # Failures — what a failed encoding reports and leaves

    Encoding a conjunction first reserves its variables, which fails only for want
    of room, and then distributes the conjuncts one after the other.  Distribution
    visits the nodes of a formula from left to right, each before its children,
    whatever clauses it has so far; so it stops at the first negation node in
    this order, also where the product of the clauses is empty already. -/

namespace GuardedCnf

namespace Formula

variable {f g : Formula} {fs before : List Formula} {err : EncodingError}

/-! ## The nodes of a formula, in order. -/

mutual

/-- The nodes of a formula, each before its children. -/
def nodes : Formula → List Formula
  | .lit l => [.lit l]
  | .not f => .not f :: f.nodes
  | .and fs => .and fs :: nodesAll fs
  | .or fs => .or fs :: nodesAll fs

/-- The nodes of the formulas of a list, from left to right. -/
def nodesAll : List Formula → List Formula
  | [] => []
  | f :: fs => f.nodes ++ nodesAll fs

end

/-- Whether a node is a negation. -/
def isNegation : Formula → Bool
  | .not _ => true
  | _ => false

/-- The first negation node of a formula. -/
def firstNegation? (f : Formula) : Option Formula := f.nodes.find? isNegation

theorem nodesAll_eq_flatMap (fs : List Formula) : nodesAll fs = fs.flatMap nodes := by
  induction fs with
  | nil => rfl
  | cons f fs ih => rw [nodesAll, ih, List.flatMap_cons]

theorem firstNegation?_and (fs : List Formula) :
    (Formula.and fs).firstNegation? = fs.findSome? firstNegation? := by
  show (nodesAll fs).find? isNegation = _
  rw [nodesAll_eq_flatMap, List.find?_flatMap]
  rfl

theorem firstNegation?_or (fs : List Formula) :
    (Formula.or fs).firstNegation? = fs.findSome? firstNegation? := firstNegation?_and fs

theorem firstNegation?_eq_none {f : Formula} : f.firstNegation? = none ↔ f.isNnf = true := by
  induction f with
  | lit l => exact ⟨fun _ => rfl, fun _ => rfl⟩
  | not f _ => exact ⟨(fun h => nomatch h), fun h => nomatch h⟩
  | and fs ih =>
      rw [firstNegation?_and, List.findSome?_eq_none_iff, isNnf, isNnfAll_eq_all,
        List.all_eq_true]
      exact forall₂_congr ih
  | or fs ih =>
      rw [firstNegation?_or, List.findSome?_eq_none_iff, isNnf, isNnfAll_eq_all,
        List.all_eq_true]
      exact forall₂_congr ih

/-! ## Distribution. -/

theorem distributeAll_error (hbefore : ∀ k ∈ before, k.isNnf = true)
    (hf : f.distribute = .error err) (after : List Formula) :
    distributeAll (before ++ f :: after) = .error err := by
  induction before with
  | nil => exact except_bind_error.mpr (Or.inl hf)
  | cons k before ih =>
      obtain ⟨a, ha⟩ := exists_distribute (hbefore k (List.mem_cons_self ..))
      have hrest := ih fun j hj => hbefore j (List.mem_cons_of_mem _ hj)
      exact except_bind_error.mpr (Or.inr ⟨a, ha, except_bind_error.mpr (Or.inl hrest)⟩)

/-- A disjunct is distributed whatever the clauses before it are. -/
theorem distributeAny_error (sofar : Cnf) (hbefore : ∀ k ∈ before, k.isNnf = true)
    (hf : f.distribute = .error err) (after : List Formula) :
    distributeAny sofar (before ++ f :: after) = .error err := by
  induction before generalizing sofar with
  | nil => exact except_bind_error.mpr (Or.inl hf)
  | cons k before ih =>
      obtain ⟨a, ha⟩ := exists_distribute (hbefore k (List.mem_cons_self ..))
      have hrest := ih (Cnf.product sofar a) fun j hj => hbefore j (List.mem_cons_of_mem _ hj)
      exact except_bind_error.mpr (Or.inr ⟨a, ha, hrest⟩)

/-- **DISTRIBUTION STOPS AT THE FIRST NEGATION**, by induction over the tree: the
    children before the one with the negation are distributed. -/
theorem distribute_error (h : f.firstNegation? = some g) :
    f.distribute = .error (.notNormal none g) := by
  induction f generalizing g with
  | lit l => exact nomatch h
  | not f _ =>
      rw [← Option.some.inj h]
      rfl
  | and fs ih =>
      rw [firstNegation?_and, List.findSome?_eq_some_iff] at h
      obtain ⟨before, f, after, rfl, hf, hbefore⟩ := h
      have herror := ih f (List.mem_append_right _ (List.mem_cons_self ..)) hf
      exact distributeAll_error (fun k hk => firstNegation?_eq_none.mp (hbefore k hk)) herror after
  | or fs ih =>
      rw [firstNegation?_or, List.findSome?_eq_some_iff] at h
      obtain ⟨before, f, after, rfl, hf, hbefore⟩ := h
      have herror := ih f (List.mem_append_right _ (List.mem_cons_self ..)) hf
      exact distributeAny_error [[]] (fun k hk => firstNegation?_eq_none.mp (hbefore k hk))
        herror after

/-- Formulas are all in normal form, or there is a first one that is not. -/
theorem all_nnf_or_first (fs : List Formula) :
    (∀ f ∈ fs, f.isNnf = true) ∨ ∃ before f after g, fs = before ++ f :: after ∧
      (∀ k ∈ before, k.isNnf = true) ∧ f.firstNegation? = some g := by
  cases h : fs.findSome? firstNegation? with
  | none =>
      rw [List.findSome?_eq_none_iff] at h
      exact Or.inl fun f hf => firstNegation?_eq_none.mp (h f hf)
  | some g =>
      obtain ⟨before, f, after, hsplit, hf, hbefore⟩ := List.findSome?_eq_some_iff.mp h
      exact Or.inr ⟨before, f, after, g, hsplit,
        fun k hk => firstNegation?_eq_none.mp (hbefore k hk), hf⟩

end Formula

namespace Encoding

open VariableMap

variable {f g : Formula} {fs before after : List Formula} {vars : VariableMap}

/-! ## Conjuncts. -/

/-- The first conjunct with a negation is reported, with its number. -/
theorem guardAll_error {i : Nat} {as : List Var} (hbefore : ∀ k ∈ before, k.isNnf = true)
    (hg : f.firstNegation? = some g) (hlen : before.length < as.length) :
    guardAll i (before ++ f :: after) as = .error (.notNormal (some (before.length + i)) g) := by
  induction before generalizing i as with
  | nil =>
      cases as with
      | nil => exact absurd hlen (Nat.lt_irrefl 0)
      | cons a as =>
          have hconjunct : GuardedConjunct.ofFormula f a = .error (.notNormal none g) :=
            except_bind_error.mpr (Or.inl (Formula.distribute_error hg))
          -- distribution does not know the number, which is added here
          refine except_bind_error.mpr (Or.inl ?_)
          rw [hconjunct, List.length_nil, Nat.zero_add]
          rfl
  | cons k before ih =>
      cases as with
      | nil => exact absurd hlen (Nat.not_lt_zero _)
      | cons a as =>
          obtain ⟨c, hc⟩ := GuardedConjunct.exists_ofFormula (hbefore k (List.mem_cons_self ..)) a
          have hrest := ih (i := i + 1) (fun j hj => hbefore j (List.mem_cons_of_mem _ hj))
            (Nat.lt_of_succ_lt_succ hlen)
          refine except_bind_error.mpr (Or.inr ⟨c, except_mapError_ok.mpr hc, ?_⟩)
          refine except_bind_error.mpr (Or.inl ?_)
          rw [List.length_cons, Nat.add_assoc, Nat.add_comm 1 i]
          exact hrest

theorem above_error (b : Nat) (hbefore : ∀ k ∈ before, k.isNnf = true)
    (hg : f.firstNegation? = some g) :
    above b (before ++ f :: after) = .error (.notNormal (some (before.length + 1)) g) := by
  refine except_bind_error.mpr (Or.inl (guardAll_error hbefore hg ?_))
  rw [List.length_range', List.length_append, List.length_cons]
  omega

/-- Conjuncts are all encoded, or the first one with a negation is reported. -/
theorem above_cases (b : Nat) (fs : List Formula) :
    ((∀ f ∈ fs, f.isNnf = true) ∧ ∃ e, above b fs = .ok e ∧
      e.selectors = List.range' b fs.length ∧ e.root = b + fs.length) ∨
    ∃ before f after g, fs = before ++ f :: after ∧ (∀ k ∈ before, k.isNnf = true) ∧
      f.firstNegation? = some g ∧
      above b fs = .error (.notNormal (some (before.length + 1)) g) := by
  rcases Formula.all_nnf_or_first fs with hnnf | ⟨before, f, after, g, rfl, hbefore, hg⟩
  · obtain ⟨gs, hgs⟩ := exists_guardAll hnnf 1 (List.range' b fs.length)
    have hselectors := (guardAll_ok List.length_range' hgs).1
    exact Or.inl ⟨hnnf, ⟨gs, b + fs.length⟩, except_bind_ok.mpr ⟨gs, hgs, rfl⟩, hselectors, rfl⟩
  · exact Or.inr ⟨before, f, after, g, rfl, hbefore, hg, above_error b hbefore hg⟩

/-! ## Room. -/

/-- With room for all variables they are allocated, whatever the conjuncts come
    to. -/
theorem ofFormula_of_room (hroom : inputCount vars fs + fs.length + 1 ≤ vars.limit) :
    ∃ vars', vars'.size = inputCount vars fs + fs.length + 1 ∧ vars.Keeps vars' ∧
      (Call.encode (.and fs)).grants vars = .covered (.and fs) ::
        List.zipWith .fresh (ownHints fs.length)
          (List.range' (inputCount vars fs) (fs.length + 1)) ∧
      (ofFormula (.and fs)).run vars = match above (inputCount vars fs) fs with
        | .ok e => .ok e vars'
        | .error err => .error err vars' := by
  obtain ⟨vars', hreserve⟩ := exists_reserve hroom
  have hperform := perform_encode_of_ok hreserve
  have hrun := ofFormula_run fs vars
  obtain ⟨es, hgrows⟩ := (goesOn_perform (Call.encode (.and fs)).steps vars).grows
  rw [hperform] at hgrows
  rw [hreserve] at hrun
  exact ⟨vars', reserve_size hreserve, hgrows.keeps, congrArg Prod.fst hperform, hrun⟩

/-- Without room for all variables an encoding fails, and the map is full. -/
theorem ofFormula_of_no_room (hsize : vars.size ≤ vars.limit)
    (hfew : vars.limit < inputCount vars fs + fs.length + 1) :
    ∃ name vars', (ofFormula (.and fs)).run vars = .error (.exhausted name vars.limit) vars' ∧
      vars'.size = vars.limit ∧ vars.Keeps vars' := by
  have hgoes := goesOn_perform (Call.encode (.and fs)).steps vars
  obtain ⟨es, hgrows⟩ := hgoes.grows
  have hroom := hgoes.room hsize
  rw [hgoes.limit] at hroom
  cases hreserve : (reserve fs).run vars with
  | ok u vars' =>
      -- the map would have more variables than its limit
      rw [perform_encode_of_ok hreserve, reserve_size hreserve] at hroom
      exact absurd hroom (Nat.not_le_of_lt hfew)
  | error err vars' =>
      rw [perform_encode_of_error hreserve] at hgrows hroom
      obtain ⟨⟨name, rfl⟩, -, hfull⟩ := (Allocates.reserve fs).error hreserve
      refine ⟨name, vars', ?_, Nat.le_antisymm hroom hfull, hgrows.keeps⟩
      rw [ofFormula_run, hreserve]

/-- **FAILURES OF ENCODINGS**.  With a map on which any calls were made before, a
    formula that is no conjunction is refused before anything is allocated.  A
    conjunction fails for want of room exactly when its variables, the selectors
    and the root do not fit, and this fills the map.  When they fit they are
    allocated, and it fails exactly for the first conjunct with a negation
    node. -/
theorem failures_of_encodings (limit : Nat) (calls : List Call) :
    let vars := afterAll calls (.empty limit)
    (∀ root, (∀ fs, root ≠ .and fs) →
      (ofFormula root).run vars = .error (.notConjunction root) vars) ∧
    ∀ fs, let b := max vars.size (Formula.and fs).varCount
      ((∃ name most vars', (ofFormula (.and fs)).run vars = .error (.exhausted name most) vars') ↔
        limit < b + fs.length + 1) ∧
      (limit < b + fs.length + 1 → ∃ name vars',
        (ofFormula (.and fs)).run vars = .error (.exhausted name limit) vars' ∧
          vars'.size = limit ∧ vars.Keeps vars') ∧
      (b + fs.length + 1 ≤ limit → ∃ vars',
        vars'.size = b + fs.length + 1 ∧ vars.Keeps vars' ∧
        (Call.encode (.and fs)).grants vars = .covered (.and fs) ::
          List.zipWith .fresh (ownHints fs.length) (List.range' b (fs.length + 1)) ∧
        (((∀ f ∈ fs, f.isNnf = true) ∧ ∃ e, (ofFormula (.and fs)).run vars = .ok e vars' ∧
            e.selectors = List.range' b fs.length ∧ e.root = b + fs.length) ∨
          ∃ before f after g, fs = before ++ f :: after ∧ (∀ k ∈ before, k.isNnf = true) ∧
            f.isNnf = false ∧ f.firstNegation? = some g ∧
            (ofFormula (.and fs)).run vars =
              .error (.notNormal (some (before.length + 1)) g) vars')) := by
  intro vars
  -- the calls before have left a map within its limit
  obtain ⟨hlimit, hconsistent⟩ : vars.limit = limit ∧ Consistent limit vars _ :=
    consistent_afterAll limit calls
  have hsize := hconsistent.size_le
  constructor
  · intro root hroot
    cases root with
    | and fs => exact absurd rfl (hroot fs)
    | lit l => rfl
    | not f => rfl
    | or fs => rfl
  intro fs b
  rw [← hlimit] at hsize ⊢
  refine ⟨⟨?_, ?_⟩, ofFormula_of_no_room hsize, ?_⟩
  · rintro ⟨name, most, vars', h⟩
    -- with room, nothing is reported but a negation
    refine Nat.lt_of_not_le fun hroom => ?_
    obtain ⟨last, -, -, -, hrun⟩ := ofFormula_of_room hroom
    rw [h] at hrun
    rcases above_cases (inputCount vars fs) fs with
      ⟨-, e, he, -⟩ | ⟨before, f, after, g, -, -, -, herror⟩
    · rw [he] at hrun
      exact nomatch hrun
    · rw [herror] at hrun
      exact nomatch hrun
  · intro hfew
    obtain ⟨name, vars', hrun, -⟩ := ofFormula_of_no_room hsize hfew
    exact ⟨name, vars.limit, vars', hrun⟩
  · -- what is left to go wrong is a negation, in the first conjunct that has one
    intro hroom
    obtain ⟨vars', hlast, hkeeps, hgrants, hrun⟩ := ofFormula_of_room hroom
    refine ⟨vars', hlast, hkeeps, hgrants, ?_⟩
    rcases above_cases (inputCount vars fs) fs with
      ⟨hnnf, e, he, hown⟩ | ⟨before, f, after, g, hfs, hbefore, hg, herror⟩
    · rw [he] at hrun
      exact Or.inl ⟨hnnf, e, hrun, hown⟩
    · rw [herror] at hrun
      refine Or.inr ⟨before, f, after, g, hfs, hbefore, ?_, hg, hrun⟩
      rw [← Bool.not_eq_true, ← Formula.firstNegation?_eq_none, hg]
      exact nofun

/-- The negation that is reported is below a disjunction with a true disjunct
    before it, so that no clause is left there.  With one variable less there is
    no room for the root. -/
theorem failures_of_encodings_four :
    let g : Formula := .not (.lit ⟨0, true⟩)
    let fs : List Formula := [.lit ⟨0, true⟩, .or [.and [], g]]
    (∃ vars', (ofFormula (.and fs)).run (.empty 4) = .error (.notNormal (some 2) g) vars' ∧
      vars'.size = 4) ∧
    ∃ name vars', (ofFormula (.and fs)).run (.empty 3) = .error (.exhausted name 3) vars' ∧
      vars'.size = 3 := by
  intro g fs
  obtain ⟨-, hfour⟩ := failures_of_encodings 4 []
  obtain ⟨-, -, hroom⟩ := hfour fs
  obtain ⟨-, hthree⟩ := failures_of_encodings 3 []
  obtain ⟨-, hfew, -⟩ := hthree fs
  constructor
  · obtain ⟨vars', hsize, -, -, hcases⟩ := hroom (by decide)
    rcases hcases with ⟨hnnf, -⟩ | ⟨before, f, after, k, hfs, hbefore, -, hk, hrun⟩
    · exact absurd (hnnf (.or [.and [], g]) (by simp [fs])) (by decide)
    · match before, hfs, hrun with
      | [], hfs, _ =>
          injection hfs with hf _
          rw [← hf] at hk
          exact nomatch hk
      | [_], hfs, hrun =>
          injection hfs with _ hfs
          injection hfs with hf _
          rw [← hf] at hk
          rw [← Option.some.inj hk] at hrun
          exact ⟨vars', hrun, hsize⟩
      | _ :: _ :: rest, hfs, _ =>
          injection hfs with _ hfs
          injection hfs with _ hfs
          exact absurd hfs (by simp)
  · obtain ⟨name, vars', hrun, hsize, -⟩ := hfew (by decide)
    exact ⟨name, vars', hrun, hsize⟩

end Encoding

end GuardedCnf
