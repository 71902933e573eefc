import GuardedCnf.EncodingError
import GuardedCnf.Text.Decimal
import Std.Data.HashMap
/-! # Variable maps — names for variables, allocated one after the other

    The variable `v` has the name at place `v` of a table, so variables are dense
    from 0 and never change their names.  A second table leads from names back to
    variables, and a set has the auxiliary variables: those that are made by `fresh`
    and do not come from an input formula.  A map refuses to grow beyond its limit.

    A name is added only if it is not taken, so the two tables are inverse to each
    other.  Allocation is a state computation that keeps the map of a failure. -/

namespace GuardedCnf

/-! ## Sets of variables. -/

/-- A set of variables as flags; there are none beyond the greatest member. -/
abbrev VarSet := Array Bool

namespace VarSet

/-- Whether a variable is in the set. -/
def contains (s : VarSet) (v : Var) : Bool := s.getD v false

/-- Makes room for the variables below `n`. -/
def grow (s : VarSet) (n : Nat) : VarSet := s ++ Array.replicate (n - s.size) false

/-- Puts a variable for which there is room into the set. -/
def insert (s : VarSet) (v : Var) (h : v < s.size) : VarSet := s.set v true h

theorem size_grow (s : VarSet) (n : Nat) : (s.grow n).size = max s.size n := by
  rw [grow, Array.size_append, Array.size_replicate]
  omega

theorem lt_size_grow (s : VarSet) (v : Var) : v < (s.grow (v + 1)).size := by
  rw [size_grow]
  exact Nat.le_max_right ..

theorem contains_of_size_le {s : VarSet} {v : Var} (h : s.size ≤ v) : s.contains v = false := by
  rw [contains, Array.getD_eq_getD_getElem?, Array.getElem?_eq_none h]
  rfl

@[simp] theorem contains_grow (s : VarSet) (n : Nat) (v : Var) :
    (s.grow n).contains v = s.contains v := by
  rw [contains, contains, Array.getD_eq_getD_getElem?, Array.getD_eq_getD_getElem?, grow,
    Array.getElem?_append]
  split
  · rfl
  · next h =>
      rw [Array.getElem?_replicate, Array.getElem?_eq_none (Nat.le_of_not_lt h)]
      split <;> rfl

@[simp] theorem contains_insert (s : VarSet) (v : Var) (h : v < s.size) (x : Var) :
    (s.insert v h).contains x = (x == v || s.contains x) := by
  rw [contains, contains, Array.getD_eq_getD_getElem?, Array.getD_eq_getD_getElem?, insert,
    Array.getElem?_set]
  by_cases hx : v = x
  · simp [hx]
  · simp [hx, Ne.symm hx]

end VarSet

/-! ## Maps. -/

/-- What is known of one variable. -/
structure Entry where
  name : String
  auxiliary : Bool

/-- The allocated variables with their names, and how many there may be. -/
structure VariableMap where
  /-- The name of each variable. -/
  table : Array String
  /-- The variable of each name. -/
  byName : Std.HashMap String Var
  auxiliary : VarSet
  limit : Nat
  /-- A name leads to the variable that has it. -/
  byName_iff (name : String) (v : Var) : byName[name]? = some v ↔ table[v]? = some name
  auxiliary_size : auxiliary.size ≤ table.size

/-- A computation that allocates variables. -/
abbrev Allocation := EStateM EncodingError VariableMap

namespace VariableMap

/-- The number of variables a map allocates unless told otherwise. -/
def defaultLimit : Nat := Nat.pow 2 27

/-- The map without variables that allocates at most `limit` of them. -/
def empty (limit : Nat) : VariableMap := ⟨#[], ∅, #[], limit, by simp, Nat.le_refl 0⟩

/-- The number of allocated variables. -/
def size (vars : VariableMap) : Nat := vars.table.size

/-- The variable with a name. -/
def get? (vars : VariableMap) (name : String) : Option Var := vars.byName[name]?

/-- The name of a variable. -/
def name? (vars : VariableMap) (v : Var) : Option String := vars.table[v]?

/-- Whether a variable was allocated as auxiliary. -/
def isAuxiliary (vars : VariableMap) (v : Var) : Bool := vars.auxiliary.contains v

/-- What is known of each variable. -/
def entries (vars : VariableMap) : Array Entry :=
  vars.table.mapIdx fun v name => ⟨name, vars.isAuxiliary v⟩

/-- The names in the order of their variables. -/
def names (vars : VariableMap) : List String := vars.table.toList

/-- A name is the name of its variable, and leads to it. -/
theorem get?_eq_some_iff {vars : VariableMap} {name : String} {v : Var} :
    vars.get? name = some v ↔ vars.name? v = some name := vars.byName_iff name v

theorem mem_names_iff {vars : VariableMap} {name : String} :
    name ∈ vars.names ↔ ∃ v, vars.name? v = some name := by
  rw [names, List.mem_iff_getElem?]
  exact exists_congr fun v => by rw [Array.getElem?_toList, name?]

theorem get?_eq_none_iff {vars : VariableMap} {name : String} :
    vars.get? name = none ↔ name ∉ vars.names := by
  rw [mem_names_iff, Option.eq_none_iff_forall_ne_some, not_exists]
  exact forall_congr' fun v => not_congr get?_eq_some_iff

theorem get?_ne_none_iff {vars : VariableMap} {name : String} :
    vars.get? name ≠ none ↔ name ∈ vars.names := by
  rw [ne_eq, get?_eq_none_iff, Classical.not_not]

theorem isAuxiliary_of_size_le {vars : VariableMap} {v : Var} (h : vars.size ≤ v) :
    vars.isAuxiliary v = false :=
  VarSet.contains_of_size_le (Nat.le_trans vars.auxiliary_size h)

/-- Adds the next variable, with a name that is not taken. -/
def push : (vars : VariableMap) → (e : Entry) → vars.get? e.name = none → VariableMap
  | ⟨table, byName, auxiliary, limit, byName_iff, auxiliary_size⟩, e, new =>
    let v := table.size
    let auxiliary' :=
      if e.auxiliary then (auxiliary.grow (v + 1)).insert v (auxiliary.lt_size_grow v)
      else auxiliary
    ⟨table.push e.name, byName.insert e.name v, auxiliary', limit, by
      intro name x
      have new : byName[e.name]? = none := new
      rw [Std.HashMap.getElem?_insert, Array.getElem?_push]
      by_cases same : e.name = name
      · subst same
        by_cases last : x = table.size
        · simp [last, v]
        · simp [last, ← byName_iff, new, v, Ne.symm last]
      · by_cases last : x = table.size
        · simp [last, same, byName_iff]
        · simp [last, same, byName_iff], by
      rw [Array.size_push]
      simp only [auxiliary']
      split
      · rw [VarSet.insert, Array.size_set, VarSet.size_grow]
        omega
      · exact Nat.le_succ_of_le auxiliary_size⟩

section

variable (vars : VariableMap) (e : Entry) (new : vars.get? e.name = none)

@[simp] theorem size_push : (vars.push e new).size = vars.size + 1 := Array.size_push e.name

/-- A new name leads to the new variable, and all others to where they led. -/
@[simp] theorem get?_push (name : String) :
    (vars.push e new).get? name = if e.name = name then some vars.size else vars.get? name := by
  show (vars.byName.insert e.name vars.size)[name]? = _
  rw [Std.HashMap.getElem?_insert]
  simp only [beq_iff_eq]
  rfl

theorem name?_push (v : Var) :
    (vars.push e new).name? v = if v = vars.size then some e.name else vars.name? v :=
  Array.getElem?_push

/-- The new variable is auxiliary if it is said to be, and the flags of all others
    stay. -/
theorem isAuxiliary_push (v : Var) :
    (vars.push e new).isAuxiliary v =
      if v = vars.size then e.auxiliary else vars.isAuxiliary v := by
  have hlast := vars.isAuxiliary_of_size_le (Nat.le_refl _)
  show VarSet.contains (if e.auxiliary then _ else vars.auxiliary) v = _
  cases e.auxiliary with
  | true =>
      rw [if_pos rfl, VarSet.contains_insert, VarSet.contains_grow]
      by_cases hv : v = vars.size
      · rw [if_pos hv, hv]
        exact congrArg (· || _) (beq_self_eq_true vars.size)
      · rw [if_neg hv]
        exact congrArg (· || _) (beq_eq_false_iff_ne.mpr hv)
  | false =>
      by_cases hv : v = vars.size
      · rw [if_pos hv, hv]
        exact hlast
      · rw [if_neg hv]
        rfl

/-- The new variable comes last. -/
theorem entries_push : (vars.push e new).entries = vars.entries.push e := by
  show (vars.table.push e.name).mapIdx _ = _
  have others : (vars.table.mapIdx fun v name =>
      (⟨name, (vars.push e new).isAuxiliary v⟩ : Entry)) = vars.entries := by
    refine Array.ext (by simp [entries]) fun v hv _ => ?_
    rw [Array.size_mapIdx] at hv
    have older : v ≠ vars.size := Nat.ne_of_lt hv
    simp only [entries, Array.getElem_mapIdx, isAuxiliary_push, if_neg older]
  rw [Array.mapIdx_push, others]
  exact congrArg (fun auxiliary => vars.entries.push ⟨e.name, auxiliary⟩)
    ((isAuxiliary_push ..).trans (if_pos rfl))

end

/-- Without variables no name is taken. -/
@[simp] theorem get?_empty (limit : Nat) (name : String) : (empty limit).get? name = none :=
  Std.HashMap.getElem?_empty

/-- The name of a variable, or its number when it has none. -/
def label (vars : VariableMap) (v : Var) : String := (vars.name? v).getD (toString v.number)

/-- The written form of a formula with the names of the map. -/
def render (vars : VariableMap) (f : Formula) : String := f.render vars.label

/-! ## Free names. -/

/-- The `k`-th variant of a name. -/
def variant (hint : String) (k : Nat) : String := hint ++ "_" ++ toString k

theorem toList_variant (hint : String) (k : Nat) :
    (variant hint k).toList = hint.toList ++ ('_' :: (toString k).toList) := by
  unfold variant
  rw [String.toList_append, String.toList_append, List.append_assoc]
  rfl

theorem variant_injective (hint : String) : Function.Injective (variant hint) := by
  intro j k h
  have hlist := congrArg String.toList h
  rw [toList_variant, toList_variant] at hlist
  have hdigits : '_' :: (toString j).toList = '_' :: (toString k).toList :=
    List.append_cancel_left hlist
  exact Text.eq_of_toString_eq (String.toList_inj.mp (List.cons.inj hdigits).2)

open Classical in
/-- The names that are variants of a hint from the `k`-th on. -/
noncomputable def variantsFrom (vars : VariableMap) (hint : String) (k : Nat) : List String :=
  vars.names.filter fun name => ∃ j, k ≤ j ∧ name = variant hint j

/-- A variant that is taken is not a later one, so fewer are left after it. -/
theorem length_variantsFrom_lt {vars : VariableMap} {hint : String} {k : Nat}
    (h : variant hint k ∈ vars.names) :
    (vars.variantsFrom hint (k + 1)).length < (vars.variantsFrom hint k).length := by
  classical
  have hlater : vars.variantsFrom hint (k + 1) =
      (vars.variantsFrom hint k).filter fun name => ∃ j, k + 1 ≤ j ∧ name = variant hint j := by
    unfold variantsFrom
    rw [List.filter_filter]
    refine List.filter_congr fun name _ => ?_
    rw [Bool.eq_iff_iff, Bool.and_eq_true, decide_eq_true_iff, decide_eq_true_iff]
    refine ⟨fun hname => ⟨hname, ?_⟩, And.left⟩
    obtain ⟨j, hj, hname⟩ := hname
    exact ⟨j, Nat.le_of_succ_le hj, hname⟩
  rw [hlater, List.length_filter_lt_length_iff_exists]
  refine ⟨variant hint k, List.mem_filter.mpr ⟨h, decide_eq_true ⟨k, Nat.le_refl k, rfl⟩⟩, ?_⟩
  rw [decide_eq_true_iff]
  rintro ⟨j, hj, hname⟩
  rw [variant_injective hint hname] at hj
  exact Nat.not_succ_le_self j hj

/-- The number of the first free variant of a name, counting on from `k`.  No
    bound is set to the search; it ends because each variant that it passes is
    one of the names. -/
def firstFree (vars : VariableMap) (hint : String) (k : Nat) : Nat :=
  if h : vars.get? (variant hint k) = none then k else vars.firstFree hint (k + 1)
termination_by (vars.variantsFrom hint k).length
decreasing_by exact length_variantsFrom_lt (get?_ne_none_iff.mp h)

/-- A name that is not taken: `hint`, or its first free variant counting from
    2. -/
def uniqueName (vars : VariableMap) (hint : String) : String :=
  if (vars.get? hint).isNone then hint else variant hint (vars.firstFree hint 2)

/-- A variant at which the search ends is not taken. -/
theorem get?_firstFree (vars : VariableMap) (hint : String) (k : Nat) :
    vars.get? (variant hint (vars.firstFree hint k)) = none := by
  fun_induction firstFree vars hint k with
  | case1 k free => exact free
  | case2 k taken ih => exact ih

/-- **UNIQUE NAMES ARE NOT TAKEN**. -/
theorem get?_uniqueName (vars : VariableMap) (hint : String) :
    vars.get? (vars.uniqueName hint) = none := by
  unfold uniqueName
  split
  · next free => exact Option.isNone_iff_eq_none.mp free
  · exact vars.get?_firstFree hint 2

/-! ## Allocation. -/

/-- Allocates the next variable, with a name that is not taken. -/
def allocate (vars : VariableMap) (name : String) (auxiliary : Bool)
    (new : vars.get? name = none) : EStateM.Result EncodingError VariableMap Var :=
  let v := vars.size
  if v < vars.limit then .ok v (vars.push ⟨name, auxiliary⟩ new)
  else .error (.exhausted name vars.limit) vars

/-- The variable with a name, allocated if needed. -/
def declare (name : String) : Allocation Var := fun vars =>
  match known : vars.get? name with
  | some v => .ok v vars
  | none => vars.allocate name false known

/-- A new auxiliary variable, named after the hint. -/
def fresh (hint : String) : Allocation Var := fun vars =>
  vars.allocate (vars.uniqueName hint) true (vars.get?_uniqueName hint)

/-- The name of the next variable of a formula, after its number. -/
def nextName (vars : VariableMap) : String := vars.uniqueName ("x" ++ toString (vars.size + 1))

theorem get?_nextName (vars : VariableMap) : vars.get? vars.nextName = none :=
  vars.get?_uniqueName _

/-- The next variable of a formula. -/
def next : Allocation Var := fun vars => vars.allocate vars.nextName false vars.get?_nextName

/-- Allocates `n` more variables, named after their numbers. -/
def extend : Nat → Allocation Unit
  | 0 => return ()
  | n + 1 => do
      discard next
      extend n

/-- Allocates every variable of a formula, so that later ones differ from
    them. -/
def cover (f : Formula) : Allocation Unit := do
  extend (f.varCount - (← get).size)

end VariableMap

end GuardedCnf
