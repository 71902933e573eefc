/-! # Outcomes — opening computations that may fail

    A computation made of two in sequence succeeds exactly when both do.  These
    are the only ways in which later proofs take a computation apart, with a
    state or without. -/

namespace GuardedCnf

variable {ε ε' σ α β : Type}

/-- A sequence succeeds exactly when both parts do. -/
theorem except_bind_ok {x : Except ε α} {f : α → Except ε β} {b : β} :
    x >>= f = .ok b ↔ ∃ a, x = .ok a ∧ f a = .ok b := by
  cases x with
  | error e =>
      constructor
      · intro h
        exact nomatch h
      · rintro ⟨a, ha, -⟩
        exact nomatch ha
  | ok a =>
      constructor
      · intro h
        exact ⟨a, rfl, h⟩
      · rintro ⟨a', ha, h⟩
        rw [Except.ok.inj ha]
        exact h

/-- A sequence fails when a part of it does, and the second part only gets to
    fail after the first succeeds. -/
theorem except_bind_error {x : Except ε α} {f : α → Except ε β} {e : ε} :
    x >>= f = .error e ↔ x = .error e ∨ ∃ a, x = .ok a ∧ f a = .error e := by
  cases x with
  | error e' =>
      constructor
      · intro h
        exact Or.inl (congrArg Except.error (Except.error.inj h))
      · rintro (h | ⟨a, ha, -⟩)
        · exact congrArg Except.error (Except.error.inj h)
        · exact nomatch ha
  | ok a =>
      constructor
      · intro h
        exact Or.inr ⟨a, rfl, h⟩
      · rintro (h | ⟨a', ha, h⟩)
        · exact nomatch h
        · rw [Except.ok.inj ha]
          exact h

/-- A change of the error does not touch a success. -/
theorem except_mapError_ok {x : Except ε α} {cause : ε → ε'} {a : α} :
    x.mapError cause = .ok a ↔ x = .ok a := by
  cases x with
  | error e =>
      constructor
      · intro h
        exact nomatch h
      · intro h
        exact nomatch h
  | ok b =>
      constructor
      · intro h
        exact congrArg Except.ok (Except.ok.inj h)
      · intro h
        exact congrArg Except.ok (Except.ok.inj h)

/-- A sequence with a state, which goes from the first part to the second. -/
theorem state_bind_ok {x : EStateM ε σ α} {f : α → EStateM ε σ β} {s t : σ} {b : β} :
    (x >>= f).run s = .ok b t ↔ ∃ a u, x.run s = .ok a u ∧ (f a).run u = .ok b t := by
  have hbind : (x >>= f).run s
      = match x.run s with
        | .ok a u => (f a).run u
        | .error e u => .error e u := rfl
  rw [hbind]
  cases hx : x.run s with
  | error e u =>
      constructor
      · intro h
        exact nomatch h
      · rintro ⟨a, u', ha, -⟩
        exact nomatch ha
  | ok a u =>
      constructor
      · intro h
        exact ⟨a, u, rfl, h⟩
      · rintro ⟨a', u', ha, h⟩
        injection ha with h1 h2
        rw [h1, h2]
        exact h

/-- After a first part that succeeds, the second goes on in its state. -/
theorem state_bind_of_ok {x : EStateM ε σ α} {f : α → EStateM ε σ β} {s t : σ} {a : α}
    (h : x.run s = .ok a t) : (x >>= f).run s = (f a).run t := by
  show (match x.run s with
    | .ok a u => (f a).run u
    | .error e u => .error e u) = _
  rw [h]

/-- A first part that fails is all that is done. -/
theorem state_bind_of_error {x : EStateM ε σ α} {f : α → EStateM ε σ β} {s t : σ} {e : ε}
    (h : x.run s = .error e t) : (x >>= f).run s = .error e t := by
  show (match x.run s with
    | .ok a u => (f a).run u
    | .error e u => .error e u) = _
  rw [h]

/-- A sequence with a state fails when a part of it does, and the second part
    only gets to fail after the first succeeds. -/
theorem state_bind_error {x : EStateM ε σ α} {f : α → EStateM ε σ β} {s t : σ} {e : ε} :
    (x >>= f).run s = .error e t ↔
      x.run s = .error e t ∨ ∃ a u, x.run s = .ok a u ∧ (f a).run u = .error e t := by
  cases hx : x.run s with
  | error e' u =>
      rw [state_bind_of_error hx]
      constructor
      · intro h
        injection h with h1 h2
        exact Or.inl (h1 ▸ h2 ▸ rfl)
      · rintro (h | ⟨a, u', ha, -⟩)
        · injection h with h1 h2
          rw [h1, h2]
        · exact nomatch ha
  | ok a u =>
      rw [state_bind_of_ok hx]
      constructor
      · intro h
        exact Or.inr ⟨a, u, rfl, h⟩
      · rintro (h | ⟨a', u', ha, h⟩)
        · exact nomatch h
        · injection ha with h1 h2
          rw [h1, h2]
          exact h

theorem state_pure_ok {s t : σ} {a b : α} :
    (pure a : EStateM ε σ α).run s = .ok b t ↔ a = b ∧ s = t := by
  constructor
  · intro h
    injection h with h1 h2
    exact ⟨h1, h2⟩
  · rintro ⟨rfl, rfl⟩
    rfl

theorem state_get_ok {s t u : σ} :
    (get : EStateM ε σ σ).run s = .ok u t ↔ s = u ∧ s = t := by
  constructor
  · intro h
    injection h with h1 h2
    exact ⟨h1, h2⟩
  · rintro ⟨rfl, rfl⟩
    rfl

/-- Dropping a result is no failure. -/
theorem state_discard_ok {x : EStateM ε σ α} {s t : σ} {u : Unit} :
    (discard x).run s = .ok u t ↔ ∃ a, x.run s = .ok a t := by
  have hdiscard : (discard x).run s = (x >>= fun _ => pure ()).run s := rfl
  rw [hdiscard, state_bind_ok]
  constructor
  · rintro ⟨a, w, hx, h⟩
    exact ⟨a, (state_pure_ok.mp h).2 ▸ hx⟩
  · rintro ⟨a, hx⟩
    exact ⟨a, t, hx, state_pure_ok.mpr ⟨rfl, rfl⟩⟩

/-- What fails before its result is dropped fails in the same way. -/
theorem state_discard_error {x : EStateM ε σ α} {s t : σ} {e : ε} :
    (discard x).run s = .error e t ↔ x.run s = .error e t := by
  have hdiscard : (discard x).run s = (x >>= fun _ => pure ()).run s := rfl
  rw [hdiscard, state_bind_error]
  constructor
  · rintro (h | ⟨a, u, -, h⟩)
    · exact h
    · exact nomatch h
  · exact Or.inl

/-- Wording a failure anew does not matter to what succeeds. -/
theorem state_adapt_ok {x : EStateM ε σ α} {cause : ε → ε'} {s t : σ} {a : α} :
    (x.adaptExcept cause).run s = .ok a t ↔ x.run s = .ok a t := by
  unfold EStateM.run EStateM.adaptExcept
  cases x s with
  | error e u =>
      constructor
      · intro h
        exact nomatch h
      · intro h
        exact nomatch h
  | ok b u =>
      constructor
      · intro h
        injection h with h1 h2
        rw [h1, h2]
      · intro h
        injection h with h1 h2
        rw [h1, h2]

/-- A failure that is worded anew leaves the same state. -/
theorem state_adapt_error {x : EStateM ε σ α} {cause : ε → ε'} {s t : σ} {e : ε'} :
    (x.adaptExcept cause).run s = .error e t ↔ ∃ e', x.run s = .error e' t ∧ cause e' = e := by
  unfold EStateM.run EStateM.adaptExcept
  cases x s with
  | error e' u =>
      constructor
      · intro h
        injection h with h1 h2
        exact ⟨e', congrArg _ h2, h1⟩
      · rintro ⟨e'', h, hcause⟩
        injection h with h1 h2
        rw [h1, h2]
        exact congrArg (EStateM.Result.error · t) hcause
  | ok b u =>
      constructor
      · intro h
        exact nomatch h
      · rintro ⟨e'', h, -⟩
        exact nomatch h

/-- Errors can be changed in a sequence or in its parts. -/
theorem state_adapt_bind (x : EStateM ε σ α) (f : α → EStateM ε σ β) (cause : ε → ε') :
    (x >>= f).adaptExcept cause = x.adaptExcept cause >>= fun a => (f a).adaptExcept cause := by
  funext s
  show (match (match x s with
      | .ok a u => f a u
      | .error e u => .error e u : EStateM.Result ε σ β) with
    | .error e u => .error (cause e) u
    | .ok b u => .ok b u) = match (match x s with
      | .error e u => .error (cause e) u
      | .ok a u => .ok a u : EStateM.Result ε' σ α) with
    | .ok a u => (f a).adaptExcept cause u
    | .error e u => .error e u
  cases x s <;> rfl

/-- Errors can be changed twice or once. -/
theorem state_adapt_adapt {ε'' : Type} (x : EStateM ε σ α) (cause : ε → ε') (cause' : ε' → ε'') :
    (x.adaptExcept cause).adaptExcept cause' = x.adaptExcept (cause' ∘ cause) := by
  funext s
  unfold EStateM.adaptExcept
  cases x s <;> rfl

end GuardedCnf
