import GuardedCnf.VariableMap
import GuardedCnf.Proofs.Outcomes
import GuardedCnf.Proofs.Trees
/-! # Allocation — maps only grow

    Every allocation adds entries at the end of a map and changes nothing else,
    so one relation says what a successful computation does to the map: `Grows`,
    with the list of the entries it added. -/

namespace GuardedCnf.VariableMap

variable {vars vars' vars'' : VariableMap}

/-! ## Growth. -/

theorem size_entries (vars : VariableMap) : vars.entries.size = vars.size := Array.size_mapIdx

/-- The second map has the entries of the first, then the given ones, and the
    same limit. -/
structure Grows (vars vars' : VariableMap) (es : List Entry) : Prop where
  entries : vars'.entries.toList = vars.entries.toList ++ es
  limit : vars'.limit = vars.limit

namespace Grows

variable {es es' : List Entry}

theorem refl (vars : VariableMap) : Grows vars vars [] :=
  ⟨(List.append_nil _).symm, rfl⟩

theorem trans (h : Grows vars vars' es) (h' : Grows vars' vars'' es') :
    Grows vars vars'' (es ++ es') := by
  refine ⟨?_, h'.limit.trans h.limit⟩
  rw [h'.entries, h.entries, List.append_assoc]

/-- A new name adds its entry. -/
theorem push (vars : VariableMap) (e : Entry) (hnew : vars.get? e.name = none) :
    Grows vars (vars.push e hnew) [e] :=
  ⟨by rw [entries_push, Array.toList_push], rfl⟩

theorem size (h : Grows vars vars' es) : vars'.size = vars.size + es.length := by
  have hlen := congrArg List.length h.entries
  rwa [List.length_append, Array.length_toList, Array.length_toList, size_entries,
    size_entries] at hlen

end Grows

/-! ## Single variables. -/

/-- The outcome of an allocation, with or without room. -/
theorem allocate_eq (vars : VariableMap) (name : String) (auxiliary : Bool)
    (hnew : vars.get? name = none) :
    vars.allocate name auxiliary hnew =
      if vars.size < vars.limit then .ok vars.size (vars.push ⟨name, auxiliary⟩ hnew)
      else .error (.exhausted name vars.limit) vars := rfl

/-- **WHAT AN ALLOCATION DOES**: there is room, and the next variable gets the
    name. -/
theorem allocate_ok {name : String} {auxiliary : Bool} {hnew : vars.get? name = none} {v : Var}
    (h : vars.allocate name auxiliary hnew = .ok v vars') :
    vars.size < vars.limit ∧ v = vars.size ∧ vars' = vars.push ⟨name, auxiliary⟩ hnew := by
  rw [allocate_eq] at h
  split at h
  · next hroom =>
      injection h with h1 h2
      exact ⟨hroom, h1.symm, h2.symm⟩
  · cases h

/-- The outcome of a declaration: the variable of a name that is known, or an
    allocation. -/
theorem declare_run (name : String) (vars : VariableMap) :
    (declare name).run vars =
      match hplace : vars.get? name with
      | some v => .ok v vars
      | none => vars.allocate name false hplace := rfl

/-- A fresh variable is the next one, and auxiliary. -/
theorem fresh_ok {hint : String} {v : Var} (h : (fresh hint).run vars = .ok v vars') :
    v = vars.size ∧ Grows vars vars' [⟨vars.uniqueName hint, true⟩] := by
  obtain ⟨-, rfl, rfl⟩ := allocate_ok h
  exact ⟨rfl, Grows.push ..⟩

/-- A fresh variable is below the limit. -/
theorem lt_limit_of_fresh {hint : String} {v : Var} (h : (fresh hint).run vars = .ok v vars') :
    v < vars.limit := by
  obtain ⟨hroom, rfl, -⟩ := allocate_ok h
  exact hroom

/-- Where there is room a fresh variable can be had. -/
theorem exists_fresh (vars : VariableMap) (hint : String) (h : vars.size < vars.limit) :
    ∃ v vars', (fresh hint).run vars = .ok v vars' :=
  ⟨_, _, if_pos h⟩

/-! ## Covering a formula. -/

/-- An extension adds so many entries, none of them auxiliary. -/
theorem extend_ok {n : Nat} {u : Unit} (h : (extend n).run vars = .ok u vars') :
    ∃ es, es.length = n ∧ (∀ e ∈ es, e.auxiliary = false) ∧ Grows vars vars' es := by
  induction n generalizing vars with
  | zero =>
      obtain ⟨-, rfl⟩ := state_pure_ok.mp h
      exact ⟨[], rfl, (fun e he => nomatch he), Grows.refl _⟩
  | succ n ih =>
      obtain ⟨_, t, hone, h⟩ := state_bind_ok.mp h
      obtain ⟨v, hone⟩ := state_discard_ok.mp hone
      obtain ⟨-, -, rfl⟩ := allocate_ok hone
      obtain ⟨es, hlen, haux, hgrows⟩ := ih h
      refine ⟨_ :: es, congrArg (· + 1) hlen, ?_, (Grows.push ..).trans hgrows⟩
      intro e he
      rcases List.mem_cons.mp he with rfl | he
      · rfl
      · exact haux e he

/-- Where there is room variables can be added by number. -/
theorem exists_extend (vars : VariableMap) {n : Nat} (h : vars.size + n ≤ vars.limit) :
    ∃ vars', (extend n).run vars = .ok () vars' := by
  induction n generalizing vars with
  | zero => exact ⟨vars, rfl⟩
  | succ n ih =>
      let larger := vars.push ⟨vars.nextName, false⟩ vars.get?_nextName
      have hsize : larger.size = vars.size + 1 := size_push ..
      obtain ⟨vars', hrest⟩ := ih larger (by rw [hsize]; show _ ≤ vars.limit; omega)
      refine ⟨vars', state_bind_ok.mpr ⟨(), larger, ?_, hrest⟩⟩
      exact state_discard_ok.mpr ⟨vars.size, if_pos (by omega)⟩

/-- Covering a formula leaves a map that has all of its variables, and no more
    than it needs. -/
theorem cover_ok {f : Formula} {u : Unit} (h : (cover f).run vars = .ok u vars') :
    vars'.size = max vars.size f.varCount ∧
      ∃ es, (∀ e ∈ es, e.auxiliary = false) ∧ Grows vars vars' es := by
  obtain ⟨s, t, hget, h⟩ := state_bind_ok.mp h
  obtain ⟨rfl, rfl⟩ := state_get_ok.mp hget
  obtain ⟨es, hlen, haux, hgrows⟩ := extend_ok h
  refine ⟨?_, es, haux, hgrows⟩
  rw [hgrows.size, hlen]
  omega

/-- Where the limit is not below them, the variables of a formula can be covered. -/
theorem exists_cover (vars : VariableMap) (f : Formula)
    (h : max vars.size f.varCount ≤ vars.limit) :
    ∃ vars', (cover f).run vars = .ok () vars' := by
  obtain ⟨vars', hext⟩ := exists_extend vars (n := f.varCount - vars.size) (by omega)
  exact ⟨vars', state_bind_ok.mpr ⟨vars, vars, rfl, hext⟩⟩

end GuardedCnf.VariableMap
