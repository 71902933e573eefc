import GuardedCnf.Proofs.Expressions
import GuardedCnf.Proofs.Repetitions
/-! # Declarations — identifiers get variables

    A map reads as the list of its names, and a name is at its first place.
    Declaring identifiers adds those that the map does not have, each once and
    in order; an identifier that is in a map keeps its variable when the map
    grows, so the formulas of several expressions can be read with the map that
    the last of them leaves. -/

namespace GuardedCnf

namespace VariableMap

variable {vars vars' : VariableMap} {es : List Entry} {name : String} {ns : List String}

/-! ## Names and places. -/

/-- The variable of a name, or 0 for a name that the map does not have. -/
def indexOf (vars : VariableMap) (name : String) : Var := (vars.get? name).getD 0

/-- A variable with a name is its place in the list of names. -/
theorem get?_eq_idxOf? (vars : VariableMap) (name : String) :
    vars.get? name = vars.names.idxOf? name := by
  cases hplace : vars.names.idxOf? name with
  | none => exact get?_eq_none_iff.mpr (List.idxOf?_eq_none_iff.mp hplace)
  | some v =>
      obtain ⟨hv, hname, -⟩ := List.idxOf?_eq_some_iff.mp hplace
      rw [get?_eq_some_iff, name?, ← Array.getElem?_toList]
      exact List.getElem?_eq_some_iff.mpr ⟨hv, hname⟩

/-- The variable of a name is the place at which the name was declared. -/
theorem indexOf_eq_idxOf (h : name ∈ vars.names) : vars.indexOf name = vars.names.idxOf name := by
  rw [indexOf, get?_eq_idxOf?, List.idxOf, List.findIdx_eq_getD_findIdx?]
  show (vars.names.idxOf? name).getD 0 = (vars.names.idxOf? name).getD _
  cases hplace : vars.names.idxOf? name with
  | none => exact absurd h (List.idxOf?_eq_none_iff.mp hplace)
  | some i => rfl

theorem length_names (vars : VariableMap) : vars.names.length = vars.size := by
  rw [names, Array.length_toList]
  rfl

/-- A name that is declared leads to its variable. -/
theorem get?_eq_indexOf (h : name ∈ vars.names) : vars.get? name = some (vars.indexOf name) := by
  cases hplace : vars.get? name with
  | none => exact absurd h (get?_eq_none_iff.mp hplace)
  | some v => rw [indexOf, hplace, Option.getD_some]

theorem lt_size_of_name? {v : Var} (h : vars.name? v = some name) : v < vars.size := by
  exact (Array.getElem?_eq_some_iff.mp h).1

/-- The variable of a declared name has this name. -/
theorem name?_indexOf (h : name ∈ vars.names) : vars.name? (vars.indexOf name) = some name :=
  get?_eq_some_iff.mp (get?_eq_indexOf h)

/-- The variable of a name is one of the map. -/
theorem indexOf_lt (h : name ∈ vars.names) : vars.indexOf name < vars.size :=
  lt_size_of_name? (name?_indexOf h)

/-- The names of a map are those of its entries, in order. -/
theorem names_eq_map_entries (vars : VariableMap) :
    vars.names = vars.entries.toList.map (·.name) := by
  refine List.ext_getElem? fun v => ?_
  rw [names, entries, List.getElem?_map, Array.getElem?_toList, Array.getElem?_toList,
    Array.getElem?_mapIdx, Option.map_map]
  exact Option.map_id'.symm

/-- A map that grows adds the names of the new entries at the end. -/
theorem Grows.names (h : Grows vars vars' es) :
    vars'.names = vars.names ++ es.map (·.name) := by
  rw [names_eq_map_entries, h.entries, List.map_append, ← names_eq_map_entries]

/-- A name keeps its variable when the map grows. -/
theorem Grows.indexOf_eq (h : Grows vars vars' es) (hname : name ∈ vars.names) :
    vars'.indexOf name = vars.indexOf name := by
  have hname' : name ∈ vars'.names := by
    rw [h.names]
    exact List.mem_append_left _ hname
  rw [indexOf_eq_idxOf hname, indexOf_eq_idxOf hname', h.names, List.idxOf_append_of_mem hname]

/-! ## New names. -/

/-- The entries that declarations make. -/
def inputEntries (names : List String) : List Entry := names.map fun name => ⟨name, false⟩

theorem map_name_inputEntries (names : List String) :
    (inputEntries names).map (·.name) = names := by
  rw [inputEntries, List.map_map]
  exact List.map_id names

/-- The names that a map does not have, each once and in order. -/
def newNames (vars : VariableMap) (names : List String) : List String :=
  (names.filter fun name => (vars.get? name).isNone).eraseDups

/-- New are the names that the map does not have. -/
theorem mem_newNames : name ∈ vars.newNames ns ↔ name ∈ ns ∧ name ∉ vars.names := by
  rw [newNames, List.mem_eraseDups, List.mem_filter, Option.isNone_iff_eq_none, get?_eq_none_iff]

/-- What is new can be told from the names alone. -/
theorem newNames_eq_filter (vars : VariableMap) (names : List String) :
    vars.newNames names = (names.filter fun name => !vars.names.contains name).eraseDups := by
  refine congrArg List.eraseDups (List.filter_congr fun name _ => ?_)
  rw [Bool.eq_iff_iff, Option.isNone_iff_eq_none, get?_eq_none_iff, Bool.not_eq_true',
    ← Bool.not_eq_true, List.contains_iff_mem]

/-- To an empty map all names are new, once each. -/
theorem newNames_empty (limit : Nat) (names : List String) :
    (empty limit).newNames names = names.eraseDups := by
  refine congrArg List.eraseDups (List.filter_eq_self.mpr fun name _ => ?_)
  rw [Option.isNone_iff_eq_none, get?_eq_none_iff]
  exact List.not_mem_nil

/-- What is new after some names were added is what else is new. -/
theorem newNames_append {first second : List String}
    (h : vars'.names = vars.names ++ vars.newNames first) :
    vars.newNames (first ++ second) = vars.newNames first ++ vars'.newNames second := by
  rw [newNames, List.filter_append, List.eraseDups_append]
  refine congrArg (vars.newNames first ++ ·) (congrArg List.eraseDups ?_)
  -- the larger map misses what the smaller one misses, apart from the names added
  rw [List.removeAll, List.filter_filter]
  refine List.filter_congr fun name hname => ?_
  rw [Bool.eq_iff_iff, Bool.and_eq_true, Bool.not_eq_true', ← Bool.not_eq_true,
    List.elem_eq_mem, decide_eq_true_iff, List.mem_filter, Option.isNone_iff_eq_none,
    Option.isNone_iff_eq_none, get?_eq_none_iff, get?_eq_none_iff, h, List.mem_append,
    mem_newNames]
  tauto

/-- More names are no fewer new ones. -/
theorem length_newNames_le (vars : VariableMap) (first second : List String) :
    (vars.newNames first).length ≤ (vars.newNames (first ++ second)).length := by
  rw [newNames, newNames, List.filter_append, List.eraseDups_append, List.length_append]
  exact Nat.le_add_right ..

/-- After some names were declared, a map has them. -/
theorem mem_names_of_grows (h : vars.Grows vars' (inputEntries (vars.newNames ns)))
    (hname : name ∈ ns) : name ∈ vars'.names := by
  rw [h.names, map_name_inputEntries, List.mem_append]
  by_cases hknown : name ∈ vars.names
  · exact Or.inl hknown
  · exact Or.inr (mem_newNames.mpr ⟨hname, hknown⟩)

/-- Declarations one after the other are declarations of all names. -/
theorem Grows.append_newNames {vars'' : VariableMap} {first second : List String}
    (h : vars.Grows vars' (inputEntries (vars.newNames first)))
    (h' : vars'.Grows vars'' (inputEntries (vars'.newNames second))) :
    vars.Grows vars'' (inputEntries (vars.newNames (first ++ second))) := by
  have hnames : vars'.names = vars.names ++ vars.newNames first := by
    rw [h.names, map_name_inputEntries]
  rw [newNames_append hnames, inputEntries, List.map_append]
  exact h.trans h'

/-- What is left of the room for names once some of them were declared. -/
theorem room_of_grows {first second : List String}
    (h : vars.Grows vars' (inputEntries (vars.newNames first)))
    (hroom : vars.size + (vars.newNames (first ++ second)).length ≤ vars.limit) :
    vars'.size + (vars'.newNames second).length ≤ vars'.limit := by
  have hnames : vars'.names = vars.names ++ vars.newNames first := by
    rw [h.names, map_name_inputEntries]
  rw [newNames_append hnames, List.length_append] at hroom
  rw [h.limit, h.size, inputEntries, List.length_map, Nat.add_assoc]
  exact hroom

theorem newNames_singleton_of_none (h : vars.get? name = none) :
    vars.newNames [name] = [name] := by
  rw [newNames, List.filter_cons_of_pos (by rw [h]; rfl)]
  rfl

theorem newNames_singleton_of_some {i : Var} (h : vars.get? name = some i) :
    vars.newNames [name] = [] := by
  rw [newNames, List.filter_cons_of_neg (by rw [h]; exact Bool.false_ne_true)]
  rfl

/-- **WHAT A DECLARATION DOES**: a name that the map has keeps its variable, and
    any other gets the next one. -/
theorem declare_cases {v : Var} (h : (declare name).run vars = .ok v vars') :
    (vars.get? name = some v ∧ vars' = vars) ∨
    (vars.size < vars.limit ∧ v = vars.size ∧
      ∃ hnew, vars' = vars.push ⟨name, false⟩ hnew) := by
  rw [declare_run] at h
  split at h
  · next hplace =>
      injection h with hv hvars
      exact Or.inl ⟨hv ▸ hplace, hvars.symm⟩
  · next hnew =>
      obtain ⟨hroom, hv, hvars⟩ := allocate_ok h
      exact Or.inr ⟨hroom, hv, hnew, hvars⟩

/-- A name is declared as an input if it is new, and else changes nothing. -/
theorem declare_ok {v : Var} (h : (declare name).run vars = .ok v vars') :
    vars.Grows vars' (inputEntries (vars.newNames [name])) := by
  rcases declare_cases h with ⟨hplace, rfl⟩ | ⟨-, -, hnew, rfl⟩
  · rw [newNames_singleton_of_some hplace]
    exact Grows.refl vars'
  · rw [newNames_singleton_of_none hnew]
    exact Grows.push vars ⟨name, false⟩ hnew

/-- A declaration gives the variable that the map has for the name afterwards. -/
theorem eq_indexOf_of_declare {v : Var} (h : (declare name).run vars = .ok v vars') :
    v = vars'.indexOf name := by
  rcases declare_cases h with ⟨hplace, rfl⟩ | ⟨-, rfl, hnew, rfl⟩
  · rw [indexOf, hplace, Option.getD_some]
  · rw [indexOf, get?_push, if_pos rfl, Option.getD_some]

/-- A known name is declared as the variable it leads to. -/
theorem declare_of_get? {v : Var} (h : vars.get? name = some v) :
    (declare name).run vars = .ok v vars := by
  rw [declare_run]
  split
  · next hplace => rw [Option.some.inj (h.symm.trans hplace)]
  · next hplace => cases h.symm.trans hplace

/-- A name that a map has is not declared again. -/
theorem declare_known (h : name ∈ vars.names) :
    (declare name).run vars = .ok (vars.indexOf name) vars :=
  declare_of_get? (get?_eq_indexOf h)

/-- A name that a map does not have gets the next variable. -/
theorem declare_new (hnew : vars.get? name = none) (hroom : vars.size < vars.limit) :
    (declare name).run vars = .ok vars.size (vars.push ⟨name, false⟩ hnew) := by
  rw [declare_run]
  split
  · next hplace => cases hnew.symm.trans hplace
  · exact if_pos hroom

/-- The variable of a name is the only one that has it. -/
theorem indexOf_of_name? {v : Var} (h : vars.name? v = some name) :
    name ∈ vars.names ∧ vars.indexOf name = v := by
  refine ⟨mem_names_iff.mpr ⟨v, h⟩, ?_⟩
  rw [indexOf, get?_eq_some_iff.mpr h, Option.getD_some]

/-- Names are distinct, since each of them leads to one variable. -/
theorem nodup_names (vars : VariableMap) : vars.names.Nodup := by
  refine List.nodup_iff_injective_get.mpr fun i j hij => Fin.ext ?_
  have hname (i : Fin vars.names.length) : vars.get? (vars.names.get i) = some i.val := by
    rw [get?_eq_some_iff, name?, ← Array.getElem?_toList]
    exact List.getElem?_eq_getElem i.isLt
  exact Option.some.inj ((hname i).symm.trans ((congrArg vars.get? hij).trans (hname j)))

/-- Where there is room for a name that is new, it can be declared. -/
theorem exists_declare (vars : VariableMap) (name : String)
    (hroom : vars.size + (vars.newNames [name]).length ≤ vars.limit) :
    ∃ v vars', (declare name).run vars = .ok v vars' := by
  cases hplace : vars.get? name with
  | some i => exact ⟨i, vars, declare_of_get? hplace⟩
  | none =>
      rw [newNames_singleton_of_none hplace, List.length_singleton] at hroom
      exact ⟨vars.size, vars.push ⟨name, false⟩ hplace, declare_new hplace hroom⟩

end VariableMap

namespace Expr

open VariableMap (Grows inputEntries)

variable {vars vars' : VariableMap}

/-- **DECLARATIONS ADD WHAT IS NEW**: each name that a map does not have, once
    and in order. -/
theorem declareAll_ok {names : List String} {u : Unit}
    (h : (declareAll names).run vars = .ok u vars') :
    vars.Grows vars' (inputEntries (vars.newNames names)) := by
  induction names generalizing vars with
  | nil =>
      obtain ⟨-, rfl⟩ := state_pure_ok.mp h
      exact Grows.refl vars
  | cons name names ih =>
      obtain ⟨_, t, hone, h⟩ := state_bind_ok.mp h
      obtain ⟨v, hone⟩ := state_discard_ok.mp hone
      exact (VariableMap.declare_ok hone).append_newNames (ih h)

/-- Known names are declared without a change. -/
theorem declareAll_known {names : List String} (h : ∀ name ∈ names, name ∈ vars.names) :
    (declareAll names).run vars = .ok () vars := by
  induction names with
  | nil => rfl
  | cons name names ih =>
      obtain ⟨hname, hnames⟩ := List.forall_mem_cons.mp h
      exact state_bind_ok.mpr ⟨(), vars, state_discard_ok.mpr ⟨_, VariableMap.declare_known hname⟩,
        ih hnames⟩

/-- An expression over names that a map has leaves the map as it is. -/
theorem lower_known {e : Expr} (h : ∀ name ∈ e.names, name ∈ vars.names) :
    e.lower.run vars = .ok (e.toFormula vars.indexOf) vars :=
  state_bind_ok.mpr ⟨(), vars, declareAll_known h, rfl⟩

/-- Where there is room for all new names, they can be declared. -/
theorem exists_declareAll (vars : VariableMap) (names : List String)
    (hroom : vars.size + (vars.newNames names).length ≤ vars.limit) :
    ∃ vars', (declareAll names).run vars = .ok () vars' := by
  induction names generalizing vars with
  | nil => exact ⟨vars, rfl⟩
  | cons name names ih =>
      have hone : vars.size + (vars.newNames [name]).length ≤ vars.limit :=
        Nat.le_trans (Nat.add_le_add_left (vars.length_newNames_le [name] names) _) hroom
      obtain ⟨v, t, hdeclare⟩ := VariableMap.exists_declare vars name hone
      have hgrows := VariableMap.declare_ok hdeclare
      obtain ⟨vars', hrest⟩ := ih t (VariableMap.room_of_grows hgrows hroom)
      exact ⟨vars', state_bind_ok.mpr ⟨(), t, state_discard_ok.mpr ⟨v, hdeclare⟩, hrest⟩⟩

/-- Where there is room for the new names of an expression, it has a formula. -/
theorem exists_lower (vars : VariableMap) (e : Expr)
    (hroom : vars.size + (vars.newNames e.names).length ≤ vars.limit) :
    ∃ f vars', e.lower.run vars = .ok f vars' := by
  obtain ⟨vars', h⟩ := exists_declareAll vars e.names hroom
  exact ⟨_, vars', state_bind_ok.mpr ⟨(), vars', h, rfl⟩⟩

/-- The formula of an expression is read with the map that has its
    identifiers. -/
theorem lower_ok {e : Expr} {f : Formula} (h : e.lower.run vars = .ok f vars') :
    f = e.toFormula vars'.indexOf ∧
      vars.Grows vars' (inputEntries (vars.newNames e.names)) := by
  obtain ⟨_, t, hdeclare, h⟩ := state_bind_ok.mp h
  obtain ⟨s, u, hget, h⟩ := state_bind_ok.mp h
  obtain ⟨rfl, rfl⟩ := state_get_ok.mp hget
  obtain ⟨rfl, rfl⟩ := state_pure_ok.mp h
  exact ⟨rfl, declareAll_ok hdeclare⟩

end Expr

end GuardedCnf
