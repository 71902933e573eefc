import GuardedCnf.Proofs.Reservations
/-! # Refusals — allocations fail for want of room

    A computation that allocates variables one after the other keeps the limit of
    its map, and it fails only when the map is full.  Computations in sequence
    have this property if their parts do, so it is shown part by part. -/

namespace GuardedCnf.VariableMap

variable {α β : Type} {vars vars' : VariableMap}

/-- An allocation that fails leaves the map, which is full, as it is. -/
theorem allocate_error {name : String} {auxiliary : Bool} {hnew : vars.get? name = none}
    {err : EncodingError} (h : vars.allocate name auxiliary hnew = .error err vars') :
    vars' = vars ∧ vars.limit ≤ vars.size ∧ err = .exhausted name vars.limit := by
  rw [allocate_eq] at h
  split at h
  · exact nomatch h
  · next hfull =>
      injection h with herr hvars
      exact ⟨hvars.symm, Nat.le_of_not_lt hfull, herr.symm⟩

/-- A fresh variable that cannot be had leaves the map as it was. -/
theorem fresh_error {hint : String} {err : EncodingError}
    (h : (fresh hint).run vars = .error err vars') : vars' = vars :=
  (allocate_error h).1

/-- A name that cannot be declared leaves the map as it was. -/
theorem declare_error {name : String} {err : EncodingError}
    (h : (declare name).run vars = .error err vars') : vars' = vars := by
  rw [declare_run] at h
  split at h
  · exact nomatch h
  · exact (allocate_error h).1

/-! ## Computations that allocate. -/

/-- A computation that keeps the limit, and fails only with a full map. -/
structure Allocates (x : Allocation α) : Prop where
  limit : ∀ {vars vars' a}, x.run vars = .ok a vars' → vars'.limit = vars.limit
  error : ∀ {vars vars' err}, x.run vars = .error err vars' →
    (∃ name, err = .exhausted name vars.limit) ∧ vars'.limit = vars.limit ∧
      vars.limit ≤ vars'.size

namespace Allocates

theorem pure (a : α) : Allocates (Pure.pure a) where
  limit h := (state_pure_ok.mp h).2 ▸ rfl
  error h := nomatch h

/-- What allocates in both parts allocates as a whole: the second part fails with the
    limit of the first. -/
theorem bind {x : Allocation α} {f : α → Allocation β} (hx : Allocates x)
    (hf : ∀ a, Allocates (f a)) : Allocates (x >>= f) where
  limit h := by
    obtain ⟨a, middle, ha, h⟩ := state_bind_ok.mp h
    rw [(hf a).limit h, hx.limit ha]
  error h := by
    rcases state_bind_error.mp h with h | ⟨a, middle, ha, h⟩
    · exact hx.error h
    · have hlast := (hf a).error h
      rw [hx.limit ha] at hlast
      exact hlast

/-- A computation that looks at the map first. -/
theorem get {f : VariableMap → Allocation α} (hf : ∀ vars, Allocates (f vars)) :
    Allocates (MonadState.get >>= f) where
  limit {vars _ _} h := (hf vars).limit h
  error {vars _ _} h := (hf vars).error h

theorem discard {x : Allocation α} (hx : Allocates x) : Allocates (Functor.discard x) where
  limit h := by
    obtain ⟨a, ha⟩ := state_discard_ok.mp h
    exact hx.limit ha
  error h := hx.error (state_discard_error.mp h)

/-- One variable, with a name that is chosen in view of the map. -/
theorem allocate {name : VariableMap → String} (auxiliary : Bool)
    (hnew : ∀ vars : VariableMap, vars.get? (name vars) = none) :
    Allocates fun vars => vars.allocate (name vars) auxiliary (hnew vars) where
  limit h := by
    obtain ⟨-, -, rfl⟩ := allocate_ok h
    rfl
  error h := by
    obtain ⟨rfl, hfull, rfl⟩ := allocate_error h
    exact ⟨⟨_, rfl⟩, rfl, hfull⟩

/-- A fresh variable is refused only by a full map. -/
theorem fresh (hint : String) : Allocates (VariableMap.fresh hint) :=
  allocate true fun vars => vars.get?_uniqueName hint

theorem next : Allocates VariableMap.next :=
  allocate false get?_nextName

/-- Variables are added until the map is full, by induction on how many. -/
theorem extend (n : Nat) : Allocates (VariableMap.extend n) := by
  induction n with
  | zero => exact pure ()
  | succ n ih => exact next.discard.bind fun _ => ih

/-- The variables of a formula are added until the map is full. -/
theorem cover (f : Formula) : Allocates (VariableMap.cover f) :=
  get fun _ => extend _

/-- Selectors are added until the map is full, by induction on the conjuncts. -/
theorem allocateSelectors (i : Nat) (fs : List Formula) :
    Allocates (Encoding.allocateSelectors i fs) := by
  induction fs generalizing i with
  | nil => exact pure []
  | cons f fs ih =>
      exact (fresh _).bind fun a => (ih (i + 1)).bind fun as => pure (a :: as)

/-- The variables of an encoding are added until the map is full. -/
theorem reserve (fs : List Formula) : Allocates (Encoding.reserve fs) :=
  (cover _).bind fun _ => (allocateSelectors 1 fs).discard.bind fun _ => (fresh _).discard

end Allocates

end GuardedCnf.VariableMap
