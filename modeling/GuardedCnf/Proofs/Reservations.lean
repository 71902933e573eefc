import GuardedCnf.Proofs.Selectors
/-! # Reservations — an encoding depends on where its variables begin

    Encoding a conjunction first allocates all variables that it needs, and then
    writes clauses without looking at the map again.  Its selectors and its root
    are consecutive variables, so what is written depends on the conjuncts and on
    the first of these variables alone. -/

namespace GuardedCnf.Encoding

variable {fs : List Formula} {vars vars' : VariableMap} {u : Unit}

/-- Allocates the variables for encoding a conjunction. -/
def reserve (fs : List Formula) : Allocation Unit := do
  VariableMap.cover (.and fs)
  discard (allocateSelectors 1 fs)
  discard (VariableMap.fresh rootName)

/-- The encoding of conjuncts with selectors from the variable `b` on, and the
    root after them. -/
def above (b : Nat) (fs : List Formula) : Except EncodingError Encoding := do
  return ⟨← guardAll 1 fs (List.range' b fs.length), b + fs.length⟩

theorem exists_reserve (hroom : inputCount vars fs + fs.length + 1 ≤ vars.limit) :
    ∃ vars', (reserve fs).run vars = .ok () vars' := by
  obtain ⟨covered, as, selected, root, vars', hcover, has, hroot⟩ := exists_allocations vars hroom
  exact ⟨vars', state_bind_ok.mpr ⟨(), covered, hcover, state_bind_ok.mpr
    ⟨(), selected, state_discard_ok.mpr ⟨as, has⟩, state_discard_ok.mpr ⟨root, hroot⟩⟩⟩⟩

/-- A reservation leaves the variables of the formula, then those of the
    encoding. -/
theorem reserve_ok (h : (reserve fs).run vars = .ok u vars') :
    ∃ middle selected, (VariableMap.cover (.and fs)).run vars = .ok () middle ∧
      (allocateSelectors 1 fs).run middle =
        .ok (List.range' (inputCount vars fs) fs.length) selected ∧
      (VariableMap.fresh rootName).run selected =
        .ok (inputCount vars fs + fs.length) vars' := by
  obtain ⟨_, middle, hcover, h⟩ := state_bind_ok.mp h
  obtain ⟨_, selected, hselectors, h⟩ := state_bind_ok.mp h
  obtain ⟨as, hselectors⟩ := state_discard_ok.mp hselectors
  obtain ⟨root, hroot⟩ := state_discard_ok.mp h
  have hsize : middle.size = inputCount vars fs := (VariableMap.cover_ok hcover).1
  obtain ⟨rfl, es, hlen, -, hgrows⟩ := allocateSelectors_ok hselectors
  obtain ⟨rfl, -⟩ := VariableMap.fresh_ok hroot
  refine ⟨middle, selected, hcover, ?_, ?_⟩
  · rw [← hsize]
    exact hselectors
  · rw [← hsize, ← hlen, ← hgrows.size]
    exact hroot

/-- After a reservation there are as many variables as the encoding needs. -/
theorem reserve_size (h : (reserve fs).run vars = .ok u vars') :
    vars'.size = inputCount vars fs + fs.length + 1 := by
  obtain ⟨middle, selected, -, -, hroot⟩ := reserve_ok h
  obtain ⟨hlast, hgrows⟩ := VariableMap.fresh_ok hroot
  rw [hgrows.size, ← hlast]
  rfl

/-- **ENCODING RESERVES FIRST**.  Only a reservation changes the map, and what
    follows it depends on the map through the number of the input variables. -/
theorem ofFormula_run (fs : List Formula) (vars : VariableMap) :
    (ofFormula (.and fs)).run vars = match (reserve fs).run vars with
      | .ok _ vars' => match above (inputCount vars fs) fs with
        | .ok e => .ok e vars'
        | .error err => .error err vars'
      | .error err vars' => .error err vars' := by
  cases hreserve : (reserve fs).run vars with
  | ok u vars' =>
      obtain ⟨middle, selected, hcover, hselectors, hroot⟩ := reserve_ok hreserve
      unfold ofFormula above
      rw [state_bind_of_ok hcover, state_bind_of_ok hselectors, state_bind_of_ok hroot]
      cases guardAll 1 fs (List.range' (inputCount vars fs) fs.length) with
      | ok gs => rfl
      | error err => rfl
  | error err vars' =>
      -- the encoding stops where the reservation does
      unfold ofFormula
      rcases state_bind_error.mp hreserve with hcover | ⟨_, middle, hcover, hrest⟩
      · exact state_bind_of_error hcover
      rw [state_bind_of_ok hcover]
      rcases state_bind_error.mp hrest with hselectors | ⟨_, selected, hselectors, hroot⟩
      · exact state_bind_of_error (state_discard_error.mp hselectors)
      obtain ⟨as, hselectors⟩ := state_discard_ok.mp hselectors
      rw [state_bind_of_ok hselectors]
      exact state_bind_of_error (state_discard_error.mp hroot)

/-- An encoding that succeeds reserves its variables, and is the one above
    those of the formula. -/
theorem ofFormula_parts {e : Encoding} (h : (ofFormula (.and fs)).run vars = .ok e vars') :
    (reserve fs).run vars = .ok () vars' ∧ above (inputCount vars fs) fs = .ok e := by
  rw [ofFormula_run] at h
  split at h
  · next hreserve =>
      split at h
      · next habove =>
          injection h with he hvars
          exact ⟨hvars ▸ hreserve, he ▸ habove⟩
      · exact nomatch h
  · exact nomatch h

end GuardedCnf.Encoding
