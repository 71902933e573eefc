import GuardedCnf.Proofs.Declarations
import GuardedCnf.Proofs.Refusals
import GuardedCnf.Proofs.UniqueNames
/-! # Histories — what a map is after any calls

    A map begins empty and is changed by calls that may fail.  A call asks for
    variables step by step: encoding a conjunction covers it and then asks for a
    selector for each conjunct and for the root, up to the first step that is
    refused.  The history of a map is the list of what it has granted.  One lemma
    for a single step says how the map and its history go on, and by induction
    this is so for any calls. -/

namespace GuardedCnf.VariableMap

variable {α : Type} {vars vars' vars'' : VariableMap} {es : List Entry}

/-! ## Calls and their steps. -/

/-- A request for variables. -/
inductive Step where
  /-- For the variable with a name. -/
  | declare (name : String)
  /-- For a new auxiliary variable. -/
  | fresh (hint : String)
  /-- For all variables of a formula. -/
  | cover (f : Formula)

/-- A request that was granted. -/
inductive Grant where
  | declared (name : String) (v : Var)
  | fresh (hint : String) (v : Var)
  | covered (f : Formula)

/-- The variables that a request got; a formula covers those up to its greatest. -/
def Grant.variables : Grant → List Var
  | .declared _ v => [v]
  | .fresh _ v => [v]
  | .covered f => List.range f.varCount

/-- Makes a request. -/
def Step.run : Step → Allocation Grant
  | .declare name => do return .declared name (← VariableMap.declare name)
  | .fresh hint => do return .fresh hint (← VariableMap.fresh hint)
  | .cover f => do
      VariableMap.cover f
      return .covered f

/-- What is granted of steps in turn, up to the first that is refused, and the
    map after them. -/
def perform : List Step → VariableMap → List Grant × VariableMap
  | [], vars => ([], vars)
  | step :: steps, vars =>
      match step.run.run vars with
      | .ok g vars' => (g :: (perform steps vars').1, (perform steps vars').2)
      | .error _ vars' => ([], vars')

/-- A call on a map. -/
inductive Call where
  /-- A single request. -/
  | step (s : Step)
  /-- The encoding of a formula. -/
  | encode (f : Formula)

/-- The hints for the selectors and the root of `n` conjuncts. -/
def ownHints (n : Nat) : List String :=
  (List.range' 1 n).map Encoding.selectorName ++ [Encoding.rootName]

/-- The steps of a call. -/
def Call.steps : Call → List Step
  | .step s => [s]
  | .encode (.and fs) => .cover (.and fs) :: (ownHints fs.length).map .fresh
  | .encode _ => []

/-- The map that a computation leaves, also when it fails. -/
def left (x : Allocation α) (vars : VariableMap) : VariableMap :=
  match x.run vars with
  | .ok _ vars' => vars'
  | .error _ vars' => vars'

/-- The map after a call. -/
def Call.after : Call → VariableMap → VariableMap
  | .step s => left s.run
  | .encode f => left (Encoding.ofFormula f)

/-- What a call is granted. -/
def Call.grants (c : Call) (vars : VariableMap) : List Grant := (perform c.steps vars).1

/-- The map after calls. -/
def afterAll : List Call → VariableMap → VariableMap
  | [], vars => vars
  | c :: calls, vars => afterAll calls (c.after vars)

/-- What calls are granted, one after the other. -/
def history : List Call → VariableMap → List Grant
  | [], _ => []
  | c :: calls, vars => c.grants vars ++ history calls (c.after vars)

/-! ## The map that is left. -/

theorem left_of_ok {x : Allocation α} {a : α} (h : x.run vars = .ok a vars') :
    left x vars = vars' := by
  unfold left
  rw [h]

theorem left_of_error {x : Allocation α} {err : EncodingError}
    (h : x.run vars = .error err vars') : left x vars = vars' := by
  unfold left
  rw [h]

/-- A step that succeeds adds its grant, and the others go on from its map. -/
theorem perform_of_ok {s : Step} {steps : List Step} {g : Grant}
    (h : s.run.run vars = .ok g vars') :
    perform (s :: steps) vars = (g :: (perform steps vars').1, (perform steps vars').2) := by
  rw [perform, h]

/-- A step that fails is the last one. -/
theorem perform_of_error {s : Step} {steps : List Step} {err : EncodingError}
    (h : s.run.run vars = .error err vars') : perform (s :: steps) vars = ([], vars') := by
  rw [perform, h]

/-- A fresh variable is granted under its hint. -/
theorem run_fresh_of_ok {hint : String} {v : Var} (h : (fresh hint).run vars = .ok v vars') :
    (Step.fresh hint).run.run vars = .ok (.fresh hint v) vars' := state_bind_of_ok h

theorem run_fresh_of_error {hint : String} {err : EncodingError}
    (h : (fresh hint).run vars = .error err vars') :
    (Step.fresh hint).run.run vars = .error err vars' := state_bind_of_error h

/-- A covered formula is granted as such. -/
theorem run_cover_of_ok {f : Formula} {u : Unit} (h : (cover f).run vars = .ok u vars') :
    (Step.cover f).run.run vars = .ok (.covered f) vars' := state_bind_of_ok h

theorem run_cover_of_error {f : Formula} {err : EncodingError}
    (h : (cover f).run vars = .error err vars') :
    (Step.cover f).run.run vars = .error err vars' := state_bind_of_error h

/-! ## Encoding step by step. -/

/-- The steps for selectors, numbered from `i`. -/
def selectorSteps (i n : Nat) : List Step :=
  ((List.range' i n).map Encoding.selectorName).map .fresh

/-- The selectors of an encoding are fresh variables one after the other, granted under
    their numbered names. -/
theorem perform_selectorSteps_of_ok {i : Nat} {fs : List Formula} {as : List Var}
    (h : (Encoding.allocateSelectors i fs).run vars = .ok as vars') (rest : List Step) :
    perform (selectorSteps i fs.length ++ rest) vars =
      (List.zipWith .fresh ((List.range' i fs.length).map Encoding.selectorName) as
        ++ (perform rest vars').1, (perform rest vars').2) := by
  induction fs generalizing i vars as with
  | nil =>
      obtain ⟨rfl, rfl⟩ := state_pure_ok.mp h
      rfl
  | cons f fs ih =>
      obtain ⟨a, middle, ha, h⟩ := state_bind_ok.mp h
      obtain ⟨others, last, hothers, h⟩ := state_bind_ok.mp h
      obtain ⟨rfl, rfl⟩ := state_pure_ok.mp h
      show perform (.fresh (Encoding.selectorName i) :: (selectorSteps (i + 1) fs.length ++ rest))
        vars = _
      rw [perform_of_ok (run_fresh_of_ok ha), ih hothers]
      rfl

/-- Where the selectors of an encoding cannot all be had, the map is left as by the
    steps that succeeded. -/
theorem perform_selectorSteps_of_error {i : Nat} {fs : List Formula} {err : EncodingError}
    (h : (Encoding.allocateSelectors i fs).run vars = .error err vars') (rest : List Step) :
    (perform (selectorSteps i fs.length ++ rest) vars).2 = vars' := by
  induction fs generalizing i vars with
  | nil => exact nomatch h
  | cons f fs ih =>
      show (perform (.fresh (Encoding.selectorName i) :: (selectorSteps (i + 1) fs.length ++ rest))
        vars).2 = _
      rcases state_bind_error.mp h with ha | ⟨a, middle, ha, h⟩
      · rw [perform_of_error (run_fresh_of_error ha)]
      · rw [perform_of_ok (run_fresh_of_ok ha)]
        rcases state_bind_error.mp h with hothers | ⟨others, last, -, h⟩
        · exact ih hothers
        · exact nomatch h

/-- An encoding covers its formula, takes a selector for each conjunct and one for the
    root. -/
theorem steps_encode (fs : List Formula) :
    (Call.encode (.and fs)).steps =
      .cover (.and fs) :: (selectorSteps 1 fs.length ++ [.fresh Encoding.rootName]) := by
  show Step.cover (.and fs) :: (ownHints fs.length).map .fresh = _
  rw [ownHints, List.map_append]
  rfl

/-- A reservation that succeeds is granted every step of the encoding. -/
theorem perform_encode_of_ok {fs : List Formula} {u : Unit}
    (h : (Encoding.reserve fs).run vars = .ok u vars') :
    perform (Call.encode (.and fs)).steps vars =
      (.covered (.and fs) :: List.zipWith .fresh (ownHints fs.length)
        (List.range' (Encoding.inputCount vars fs) (fs.length + 1)), vars') := by
  obtain ⟨middle, selected, hcover, hselectors, hroot⟩ := Encoding.reserve_ok h
  rw [steps_encode, perform_of_ok (run_cover_of_ok hcover),
    perform_selectorSteps_of_ok hselectors, perform_of_ok (run_fresh_of_ok hroot),
    ownHints, List.range'_concat, Nat.one_mul, List.zipWith_append]
  · rfl
  · rw [List.length_map, List.length_range', List.length_range']

/-- An encoding that fails leaves the map of its steps up to the failure. -/
theorem perform_encode_of_error {fs : List Formula} {err : EncodingError}
    (h : (Encoding.reserve fs).run vars = .error err vars') :
    (perform (Call.encode (.and fs)).steps vars).2 = vars' := by
  rw [steps_encode]
  rcases state_bind_error.mp h with hcover | ⟨_, middle, hcover, h⟩
  · rw [perform_of_error (run_cover_of_error hcover)]
  rw [perform_of_ok (run_cover_of_ok hcover)]
  rcases state_bind_error.mp h with hselectors | ⟨_, selected, hselectors, hroot⟩
  · exact perform_selectorSteps_of_error (state_discard_error.mp hselectors) _
  obtain ⟨as, hselectors⟩ := state_discard_ok.mp hselectors
  rw [perform_selectorSteps_of_ok hselectors,
    perform_of_error (run_fresh_of_error (state_discard_error.mp hroot))]

/-- An encoding that succeeds was granted its variables one by one. -/
theorem grants_encode {fs : List Formula} {e : Encoding}
    (h : (Encoding.ofFormula (.and fs)).run vars = .ok e vars') :
    (Call.encode (.and fs)).grants vars =
      .covered (.and fs) :: List.zipWith .fresh (ownHints fs.length) e.ownVars := by
  rw [(Encoding.ofFormula_ok h).1.ownVars_eq, Call.grants,
    perform_encode_of_ok (Encoding.ofFormula_parts h).1]

/-- **CALLS ARE THEIR STEPS**: a call leaves the map that its steps leave. -/
theorem after_eq_perform (c : Call) (vars : VariableMap) :
    c.after vars = (perform c.steps vars).2 := by
  cases c with
  | step s =>
      show left s.run vars = (perform [s] vars).2
      cases h : s.run.run vars with
      | ok g vars' => rw [left_of_ok h, perform_of_ok h]; rfl
      | error err vars' => rw [left_of_error h, perform_of_error h]
  | encode f =>
      cases f with
      | and fs =>
          show left (Encoding.ofFormula (.and fs)) vars = _
          unfold left
          rw [Encoding.ofFormula_run]
          cases h : (Encoding.reserve fs).run vars with
          | ok u vars' =>
              -- whether the conjuncts can be encoded does not matter for the map
              rw [perform_encode_of_ok h]
              cases Encoding.above (Encoding.inputCount vars fs) fs <;> rfl
          | error err vars' => exact (perform_encode_of_error h).symm
      | lit l => rfl
      | not f => rfl
      | or fs => rfl

/-! ## How maps and histories go on. -/

/-- A map goes on as a larger one with the given grants: the limit is kept, and the
    auxiliary variables that are added are the ones that new grants made, beyond all
    variables of the grants before. -/
structure GoesOn (vars vars' : VariableMap) (gs : List Grant) : Prop where
  grows : ∃ es, vars.Grows vars' es
  room : vars.size ≤ vars.limit → vars'.size ≤ vars'.limit
  auxiliary : ∀ v, vars'.isAuxiliary v = true ↔
    vars.isAuxiliary v = true ∨ ∃ hint, .fresh hint v ∈ gs
  below : ∀ g ∈ gs, ∀ v ∈ g.variables, v < vars'.size
  beyond : ∀ hint v, .fresh hint v ∈ gs → vars.size ≤ v
  new : gs.Pairwise fun g g' => ∀ hint v, g' = .fresh hint v → v ∉ g.variables

/-- One more variable is auxiliary if the new one is. -/
theorem isAuxiliary_push_iff (vars : VariableMap) (e : Entry) (hnew : vars.get? e.name = none)
    (v : Var) : (vars.push e hnew).isAuxiliary v = true ↔
      vars.isAuxiliary v = true ∨ (v = vars.size ∧ e.auxiliary = true) := by
  rw [isAuxiliary_push]
  by_cases hv : v = vars.size
  · rw [if_pos hv, hv, isAuxiliary_of_size_le (Nat.le_refl _)]
    simp
  · rw [if_neg hv]
    simp [hv]

namespace GoesOn

variable {gs gs' : List Grant}

theorem size_le (h : GoesOn vars vars' gs) : vars.size ≤ vars'.size := by
  obtain ⟨es, hgrows⟩ := h.grows
  rw [hgrows.size]
  exact Nat.le_add_right ..

theorem limit (h : GoesOn vars vars' gs) : vars'.limit = vars.limit := by
  obtain ⟨es, hgrows⟩ := h.grows
  exact hgrows.limit

theorem refl (vars : VariableMap) : GoesOn vars vars [] where
  grows := ⟨[], .refl vars⟩
  room := id
  auxiliary v := by simp
  below g hg := nomatch hg
  beyond hint v hg := nomatch hg
  new := List.Pairwise.nil

/-- What two histories say of their parts is said by the one after the other of the
    whole. -/
theorem trans (h : GoesOn vars vars' gs) (h' : GoesOn vars' vars'' gs') :
    GoesOn vars vars'' (gs ++ gs') where
  grows := by
    obtain ⟨es, hgrows⟩ := h.grows
    obtain ⟨es', hgrows'⟩ := h'.grows
    exact ⟨es ++ es', hgrows.trans hgrows'⟩
  room hroom := h'.room (h.room hroom)
  auxiliary v := by
    simp only [h'.auxiliary, h.auxiliary, List.mem_append, exists_or, or_assoc]
  below g hg v hv := by
    rcases List.mem_append.mp hg with hg | hg
    · exact Nat.lt_of_lt_of_le (h.below g hg v hv) h'.size_le
    · exact h'.below g hg v hv
  beyond hint v hg := by
    rcases List.mem_append.mp hg with hg | hg
    · exact h.beyond hint v hg
    · exact Nat.le_trans h.size_le (h'.beyond hint v hg)
  new := by
    rw [List.pairwise_append]
    refine ⟨h.new, h'.new, ?_⟩
    -- a later variable is beyond the map that has all earlier ones
    rintro g hg g' hg' hint v rfl hv
    exact Nat.not_lt_of_le (h'.beyond hint v hg') (h.below g hg v hv)

/-- One more entry with a new name. -/
theorem push (name hint : String) (auxiliary : Bool) (hnew : vars.get? name = none)
    (hroom : vars.size < vars.limit) :
    GoesOn vars (vars.push ⟨name, auxiliary⟩ hnew)
      (if auxiliary then [.fresh hint vars.size] else []) where
  grows := ⟨_, .push vars _ hnew⟩
  room _ := by
    rw [size_push]
    exact hroom
  auxiliary v := by
    rw [isAuxiliary_push_iff]
    cases auxiliary <;> simp
  below g hg v hv := by
    rw [size_push]
    cases auxiliary with
    | false => exact nomatch hg
    | true =>
        rw [List.mem_singleton.mp hg] at hv
        rw [List.mem_singleton.mp hv]
        exact Nat.lt_succ_self _
  beyond hint' v hg := by
    cases auxiliary with
    | false => exact nomatch hg
    | true =>
        injection List.mem_singleton.mp hg with _ hv
        exact Nat.le_of_eq hv.symm
  new := by
    cases auxiliary with
    | false => exact List.Pairwise.nil
    | true => exact List.pairwise_singleton ..

/-- A grant of variables that the map has, none of them new. -/
theorem grant {g : Grant} (h : GoesOn vars vars' []) (hold : ∀ hint v, g ≠ .fresh hint v)
    (hbelow : ∀ v ∈ g.variables, v < vars'.size) : GoesOn vars vars' [g] where
  grows := h.grows
  room := h.room
  auxiliary v := by
    rw [h.auxiliary]
    refine or_congr_right ?_
    constructor
    · rintro ⟨hint, hmem⟩
      exact nomatch hmem
    · rintro ⟨hint, hmem⟩
      exact absurd (List.mem_singleton.mp hmem).symm (hold hint v)
  below g' hg' := by
    rw [List.mem_singleton.mp hg']
    exact hbelow
  beyond hint v hmem := absurd (List.mem_singleton.mp hmem).symm (hold hint v)
  new := List.pairwise_singleton ..

end GoesOn

/-! ## Single steps. -/

/-- The map with the next variable of a formula that is covered. -/
def pushNext (vars : VariableMap) : VariableMap :=
  vars.push ⟨vars.nextName, false⟩ vars.get?_nextName

@[simp] theorem size_pushNext (vars : VariableMap) : vars.pushNext.size = vars.size + 1 :=
  size_push ..

/-- One variable after the other is added while the limit allows it. -/
theorem extend_succ_run (n : Nat) (vars : VariableMap) :
    (extend (n + 1)).run vars =
      if vars.size < vars.limit then (extend n).run vars.pushNext
      else .error (.exhausted vars.nextName vars.limit) vars := by
  have hallocate : next.run vars = _ := allocate_eq vars vars.nextName false vars.get?_nextName
  rw [extend]
  by_cases hroom : vars.size < vars.limit
  · rw [if_pos hroom] at hallocate ⊢
    exact state_bind_of_ok (a := ()) (state_discard_ok.mpr ⟨vars.size, hallocate⟩)
  · rw [if_neg hroom] at hallocate ⊢
    exact state_bind_of_error (state_discard_error.mpr hallocate)

/-- Adding variables by number grants no fresh name, also when the limit stops it. -/
theorem goesOn_extend (n : Nat) (vars : VariableMap) : GoesOn vars (left (extend n) vars) [] := by
  induction n generalizing vars with
  | zero => exact .refl vars
  | succ n ih =>
      unfold left
      rw [extend_succ_run]
      by_cases hroom : vars.size < vars.limit
      · rw [if_pos hroom]
        exact (GoesOn.push _ "" false vars.get?_nextName hroom).trans (ih _)
      · rw [if_neg hroom]
        exact .refl vars

/-- Covering a formula grants no fresh name. -/
theorem goesOn_cover (f : Formula) (vars : VariableMap) : GoesOn vars (left (cover f) vars) [] :=
  goesOn_extend (f.varCount - vars.size) vars

/-- A fresh variable is new to the map, and is granted once. -/
theorem goesOn_fresh {hint : String} {v : Var} (h : (fresh hint).run vars = .ok v vars') :
    GoesOn vars vars' [.fresh hint v] := by
  obtain ⟨hroom, rfl, rfl⟩ := allocate_ok h
  exact GoesOn.push _ hint true (vars.get?_uniqueName hint) hroom

/-- A variable that is declared has the name, and at most a name without a
    variable gets a new one. -/
theorem goesOn_declare {name : String} {v : Var} (h : (declare name).run vars = .ok v vars') :
    vars'.name? v = some name ∧ GoesOn vars vars' [] := by
  rcases declare_cases h with ⟨hplace, rfl⟩ | ⟨hroom, rfl, hnew, rfl⟩
  · exact ⟨get?_eq_some_iff.mp hplace, .refl vars'⟩
  · exact ⟨(name?_push ..).trans (if_pos rfl), GoesOn.push name "" false hnew hroom⟩

/-- **A GRANTED STEP** goes on by its grant. -/
theorem goesOn_of_ok {s : Step} {g : Grant} (h : s.run.run vars = .ok g vars') :
    GoesOn vars vars' [g] := by
  cases s with
  | declare name =>
      obtain ⟨v, middle, hv, h⟩ := state_bind_ok.mp h
      obtain ⟨rfl, rfl⟩ := state_pure_ok.mp h
      obtain ⟨hname, hgoes⟩ := goesOn_declare hv
      -- a declared variable is granted, and is none that a fresh one could be
      refine hgoes.grant (fun _ _ heq => nomatch heq) fun w hw => ?_
      rw [List.mem_singleton.mp hw]
      exact lt_size_of_name? hname
  | fresh hint =>
      obtain ⟨v, middle, hv, h⟩ := state_bind_ok.mp h
      obtain ⟨rfl, rfl⟩ := state_pure_ok.mp h
      exact goesOn_fresh hv
  | cover f =>
      obtain ⟨_, middle, hcover, h⟩ := state_bind_ok.mp h
      obtain ⟨rfl, rfl⟩ := state_pure_ok.mp h
      have hgoes := goesOn_cover f vars
      rw [left_of_ok hcover] at hgoes
      refine hgoes.grant (fun _ _ heq => nomatch heq) fun v hv => ?_
      rw [(cover_ok hcover).1]
      exact Nat.lt_of_lt_of_le (List.mem_range.mp hv) (Nat.le_max_right ..)

/-- **A REFUSED STEP** goes on without a grant. -/
theorem goesOn_of_error {s : Step} {err : EncodingError} (h : s.run.run vars = .error err vars') :
    GoesOn vars vars' [] := by
  cases s with
  | declare name =>
      rcases state_bind_error.mp h with h | ⟨v, middle, -, h⟩
      · rw [declare_error h]
        exact .refl vars
      · exact nomatch h
  | fresh hint =>
      rcases state_bind_error.mp h with h | ⟨v, middle, -, h⟩
      · rw [fresh_error h]
        exact .refl vars
      · exact nomatch h
  | cover f =>
      rcases state_bind_error.mp h with h | ⟨_, middle, -, h⟩
      · rw [← left_of_error h]
        exact goesOn_cover f vars
      · exact nomatch h

/-! ## Steps and calls in sequence. -/

/-- The step lemmas put together, by induction on the steps. -/
theorem goesOn_perform (steps : List Step) (vars : VariableMap) :
    GoesOn vars (perform steps vars).2 (perform steps vars).1 := by
  induction steps generalizing vars with
  | nil => exact .refl vars
  | cons s steps ih =>
      cases h : s.run.run vars with
      | ok g vars' =>
          rw [perform_of_ok h]
          exact (goesOn_of_ok h).trans (ih vars')
      | error err vars' =>
          rw [perform_of_error h]
          exact goesOn_of_error h

theorem goesOn_after (c : Call) (vars : VariableMap) :
    GoesOn vars (c.after vars) (c.grants vars) := by
  rw [after_eq_perform]
  exact goesOn_perform c.steps vars

/-- The same of any number of calls, by induction on them. -/
theorem goesOn_afterAll (calls : List Call) (vars : VariableMap) :
    GoesOn vars (afterAll calls vars) (history calls vars) := by
  induction calls generalizing vars with
  | nil => exact .refl vars
  | cons c calls ih => exact (goesOn_after c vars).trans (ih _)

/-! ## Consistent maps. -/

/-- Names, variables and flags of a map agree with each other and with what the
    map has granted, within a limit. -/
structure Consistent (limit : Nat) (vars : VariableMap) (past : List Grant) : Prop where
  size_le : vars.size ≤ limit
  distinct : vars.names.Nodup
  inverse : ∀ name v, vars.get? name = some v ↔ vars.name? v = some name
  named : ∀ v, (vars.name? v).isSome = true ↔ v < vars.size
  auxiliary : ∀ v, vars.isAuxiliary v = true ↔ ∃ hint, .fresh hint v ∈ past
  /-- A new variable is none that was handed out or covered before. -/
  new : past.Pairwise fun g g' => ∀ hint v, g' = .fresh hint v → v ∉ g.variables

/-- The variables of a map are those of a later one, with their names and
    flags. -/
structure Keeps (vars later : VariableMap) : Prop where
  name : ∀ v < vars.size, later.name? v = vars.name? v
  auxiliary : ∀ v < vars.size, later.isAuxiliary v = vars.isAuxiliary v

/-- Exactly the variables of a map have names. -/
theorem isSome_name? (vars : VariableMap) (v : Var) :
    (vars.name? v).isSome = true ↔ v < vars.size := by
  rw [name?, isSome_getElem?]
  exact Iff.rfl

/-- The name of a variable is that of its entry. -/
theorem name?_eq_map_entries (vars : VariableMap) (v : Var) :
    vars.name? v = vars.entries[v]?.map (·.name) := by
  rw [name?, entries, Array.getElem?_mapIdx, Option.map_map]
  exact Option.map_id'.symm

/-- A variable is auxiliary if its entry says so. -/
theorem isAuxiliary_eq_any_entries (vars : VariableMap) (v : Var) :
    vars.isAuxiliary v = vars.entries[v]?.any (·.auxiliary) := by
  rw [entries, Array.getElem?_mapIdx]
  cases hname : vars.table[v]? with
  | none => exact isAuxiliary_of_size_le (Array.getElem?_eq_none_iff.mp hname)
  | some name => rfl

/-- A map that grows keeps the entries it had. -/
theorem Grows.keeps (h : Grows vars vars' es) : vars.Keeps vars' := by
  have hentry : ∀ v < vars.size, vars'.entries[v]? = vars.entries[v]? := by
    intro v hv
    rw [← Array.getElem?_toList, h.entries, List.getElem?_append_left, Array.getElem?_toList]
    rwa [Array.length_toList, size_entries]
  constructor
  · intro v hv
    rw [name?_eq_map_entries, name?_eq_map_entries, hentry v hv]
  · intro v hv
    rw [isAuxiliary_eq_any_entries, isAuxiliary_eq_any_entries, hentry v hv]

/-- After any calls on an empty map its limit holds, and it is consistent with
    its history. -/
theorem consistent_afterAll (limit : Nat) (calls : List Call) :
    (afterAll calls (.empty limit)).limit = limit ∧
      Consistent limit (afterAll calls (.empty limit)) (history calls (.empty limit)) := by
  have hgoes := goesOn_afterAll calls (.empty limit)
  refine ⟨hgoes.limit, ?_, nodup_names _, fun _ _ => get?_eq_some_iff, isSome_name? _, ?_,
    hgoes.new⟩
  · have hroom := hgoes.room (Nat.zero_le limit)
    rw [hgoes.limit] at hroom
    exact hroom
  · intro v
    rw [hgoes.auxiliary]
    constructor
    · rintro (hnone | hnew)
      · exact nomatch hnone
      · exact hnew
    · exact Or.inr

/-- A map keeps its variables under any calls. -/
theorem keeps_afterAll (calls : List Call) (vars : VariableMap) :
    vars.Keeps (afterAll calls vars) := by
  obtain ⟨es, hgrows⟩ := (goesOn_afterAll calls vars).grows
  exact hgrows.keeps

/-- Calls after calls start from what the first ones leave. -/
theorem afterAll_append (calls more : List Call) (vars : VariableMap) :
    afterAll (calls ++ more) vars = afterAll more (afterAll calls vars) := by
  induction calls generalizing vars with
  | nil => rfl
  | cons c calls ih => exact ih _

/-- A covering that fails leaves a full map. -/
theorem cover_error {f : Formula} {err : EncodingError} (hroom : vars.size ≤ vars.limit)
    (h : (cover f).run vars = .error err vars') : vars'.size = vars.limit := by
  obtain ⟨-, hlimit, hfull⟩ := (Allocates.cover f).error h
  have hle := (goesOn_cover f vars).room hroom
  rw [left_of_error h, hlimit] at hle
  exact Nat.le_antisymm hle hfull

/-- **MAPS AND HISTORIES AGREE**.  After any calls on an empty map, which may
    fail or not, names are distinct and lead to their variables, the auxiliary
    variables are those that were asked for as new ones, and each of these is
    different from all variables handed out or covered before.  Variables keep
    their names and flags for ever, so a name always gives the same variable.  A
    failure changes nothing but for a covering, which fills the map. -/
theorem maps_agree_with_histories (limit : Nat) (calls : List Call) :
    let vars := afterAll calls (.empty limit)
    Consistent limit vars (history calls (.empty limit)) ∧
      (∀ more, vars.Keeps (afterAll more vars)) ∧
      (∀ more name v, vars.name? v = some name →
        (declare name).run (afterAll more vars) = .ok v (afterAll more vars)) ∧
      (∀ name v vars', (declare name).run vars = .ok v vars' → vars'.name? v = some name) ∧
      (∀ name err vars', (declare name).run vars = .error err vars' → vars' = vars) ∧
      (∀ hint err vars', (fresh hint).run vars = .error err vars' → vars' = vars) ∧
      (∀ f vars', (cover f).run vars = .ok () vars' → f.varCount ≤ vars'.size) ∧
      (∀ f err vars', (cover f).run vars = .error err vars' → vars'.size = limit) ∧
      (∀ c : Call, c.after vars = (perform c.steps vars).2) ∧
      ∀ fs e vars', (Encoding.ofFormula (.and fs)).run vars = .ok e vars' →
        (Call.encode (.and fs)).grants vars =
          .covered (.and fs) :: List.zipWith .fresh (ownHints fs.length) e.ownVars := by
  intro vars
  obtain ⟨hlimit, hconsistent⟩ := consistent_afterAll limit calls
  refine ⟨hconsistent, fun more => keeps_afterAll more vars, ?_, ?_, ?_, ?_, ?_, ?_, ?_, ?_⟩
  · intro more name v hname
    -- the name is still that of the variable, so it is found
    have hlater := (consistent_afterAll limit (calls ++ more)).2
    rw [afterAll_append] at hlater
    have hsame := (keeps_afterAll more vars).name v (lt_size_of_name? hname)
    rw [hname, ← hlater.inverse] at hsame
    exact declare_of_get? hsame
  · exact fun name v vars' h => (goesOn_declare h).1
  · exact fun name err vars' h => declare_error h
  · exact fun hint err vars' h => fresh_error h
  · intro f vars' h
    rw [(cover_ok h).1]
    exact Nat.le_max_right ..
  · intro f err vars' h
    rw [cover_error (hlimit ▸ hconsistent.size_le) h, hlimit]
  · exact fun c => after_eq_perform c vars
  · intro fs e vars' h
    exact grants_encode h

/-- A map for three variables covers one, encodes a conjunction up to the root,
    for which there is no room, and then refuses everything new. -/
theorem maps_agree_with_histories_three :
    let f : Formula := .lit ⟨1, true⟩
    let g : Formula := .and [.lit ⟨0, true⟩]
    let vars := afterAll [.step (.cover f), .encode g] (.empty 3)
    Consistent 3 vars [.covered f, .covered g, .fresh "__selector_1" 2] ∧
      (∃ err, (fresh "s").run vars = .error err vars) ∧
      ∃ err vars', (cover (.lit ⟨7, true⟩)).run vars = .error err vars' ∧ vars'.size = 3 := by
  intro f g vars
  obtain ⟨hconsistent, -, -, -, -, hfresh, -, hcover, -⟩ :=
    maps_agree_with_histories 3 [.step (.cover f), .encode g]
  have hhistory : history [.step (.cover f), .encode g] (.empty 3) =
      [.covered f, .covered g, .fresh "__selector_1" 2] := rfl
  rw [hhistory] at hconsistent
  have hfailed : ∃ err vars', (fresh "s").run vars = .error err vars' := ⟨_, _, rfl⟩
  obtain ⟨err, vars', hfailed⟩ := hfailed
  have hfull : ∃ err vars', (cover (.lit ⟨7, true⟩)).run vars = .error err vars' := ⟨_, _, rfl⟩
  obtain ⟨err', vars'', hfull⟩ := hfull
  have hsame : vars' = vars := hfresh _ _ _ hfailed
  rw [hsame] at hfailed
  have hsize : vars''.size = 3 := hcover (.lit ⟨7, true⟩) err' vars'' hfull
  exact ⟨hconsistent, ⟨err, hfailed⟩, err', vars'', hfull, hsize⟩

end GuardedCnf.VariableMap
