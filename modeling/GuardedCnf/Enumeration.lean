import GuardedCnf.Search
import GuardedCnf.Proofs.CountingOn
/-! # Enumeration — one assignment tested after the other

    The variables that no assumption fixes get all values in the order of
    counting.  A counter has one variable for each of them, the lowest variable
    first, and is copied to their places in a model of the assumptions.  If the
    model satisfies the clauses it is visited, and the visitor may end the
    enumeration; otherwise the counter goes on, as long as there are further
    values.

    Solving ends at the first model, and counting visits them all.  The search by
    splitting does the same with fewer tests. -/

namespace GuardedCnf

namespace Model

variable {m : Model} {v : Var}

/-- Changes the value of a variable that the model has. -/
def set (m : Model) (v : Var) (b : Bool) (h : v < m.size) : Model :=
  (m.set? v b).get (by rw [set?, if_pos h]; rfl)

theorem values_set (b : Bool) (h : v < m.size) : (m.set v b h).values = m.values.set v b := by
  simp only [set, set?, if_pos h, Option.get_some]

@[simp] theorem size_set (b : Bool) (h : v < m.size) : (m.set v b h).size = m.size := by
  rw [size, values_set, List.length_set, size]

@[simp] theorem size_allFalse (n : Nat) : (allFalse n).size = n := List.length_replicate

/-- Copies the values of a counter, from its variable `bit` on, to variables of a
    model. -/
def fill (counter : Model) (m : Model) (bit : Nat) :
    (vs : List Var) → (∀ v ∈ vs, v < m.size) → Model
  | [], _ => m
  | v :: vs, h =>
      fill counter (m.set v (counter.value bit) (h v List.mem_cons_self)) (bit + 1) vs
        fun x hx => (size_set ..).symm ▸ h x (List.mem_cons_of_mem v hx)

/-- Fewer numbers are left when counting goes on. -/
theorem left_of_next (h : m.next.2 = true) :
    2 ^ m.next.1.size - m.next.1.number < 2 ^ m.size - m.number := by
  obtain ⟨hsize, hnumber, hmore⟩ := m.number_next
  have hnot : m.number + 1 ≠ 2 ^ m.size := fun hfull => nomatch h.symm.trans (hmore.mpr hfull)
  have hlt := m.number_lt
  rw [hsize, hnumber, Nat.mod_eq_of_lt (Nat.lt_of_le_of_ne hlt hnot)]
  omega

end Model

namespace Enumeration

variable {n : Nat}

/-! ## Assumptions. -/

/-- Assumptions on formulas of `n` variables: a model in which they hold and all
    other variables are false, and a model in which just the assumed variables are
    true. -/
structure Assumed (n : Nat) where
  base : Model
  marks : Model
  size_base : base.size = n
  size_marks : marks.size = n

/-- No assumptions. -/
def Assumed.nothing (n : Nat) : Assumed n :=
  ⟨.allFalse n, .allFalse n, Model.size_allFalse n, Model.size_allFalse n⟩

/-- Whether a literal is on an assumed variable and does not hold. -/
def Assumed.contradicts (a : Assumed n) (l : Literal) : Bool :=
  a.marks.value l.var && a.base.value l.var != l.positive

/-- Assumes a literal. -/
def Assumed.add (a : Assumed n) (l : Literal) (h : l.var < n) : Assumed n where
  base := a.base.set l.var l.positive (a.size_base.symm ▸ h)
  marks := a.marks.set l.var true (a.size_marks.symm ▸ h)
  size_base := (Model.size_set ..).trans a.size_base
  size_marks := (Model.size_set ..).trans a.size_marks

/-- The variables that are not assumed, in increasing order. -/
def Assumed.free (a : Assumed n) : List Var := (List.range n).filter fun v => !a.marks.value v

theorem Assumed.lt_of_mem_free {a : Assumed n} {v : Var} (h : v ∈ a.free) : v < a.base.size :=
  a.size_base.symm ▸ List.mem_range.mp (List.mem_filter.mp h).1

/-- Takes assumptions over from left to right, up to the first that is out of
    range or contradicts one before it; there is no result at a contradiction. -/
def assume : Assumed n → List Literal → Except SearchError (Option (Assumed n))
  | a, [] => .ok (some a)
  | a, l :: ls =>
      if h : l.var < n then
        if a.contradicts l then .ok none else assume (a.add l h) ls
      else .error (.outOfRange l n)

/-! ## The loop. -/

section

variable {σ : Type}

/-- The model that a counter stands for: the assumptions, and its values for the
    other variables. -/
def Assumed.model (a : Assumed n) (counter : Model) : Model :=
  Model.fill counter a.base 0 a.free fun _ hv => Assumed.lt_of_mem_free hv

/-- Visits the models from that of the counter on, until the visitor says that it
    wants no more of them. -/
def loop (f : Cnf) (a : Assumed n) (visit : σ → Model → σ × Bool) (counter : Model) (s : σ) : σ :=
  let m := a.model counter
  let (s, wanted) := if f.eval m.value then visit s m else (s, true)
  if wanted then
    if counter.next.2 then loop f a visit counter.next.1 s else s
  else s
termination_by 2 ^ counter.size - counter.number
decreasing_by
  rename_i hmore
  exact Model.left_of_next hmore

/-- Visits the models of the clauses under assumptions, over at least `varCount`
    variables, in the order of counting over the unassumed ones. -/
def models (f : Cnf) (varCount : Nat) (assumptions : List Literal)
    (visit : σ → Model → σ × Bool) (s : σ) : Except SearchError σ := do
  match ← assume (.nothing (max varCount f.varCount)) assumptions with
  | none => return s
  | some a =>
      if searchLimit < a.free.length then throw (.tooManyFree a.free.length)
      else return loop f a visit (.allFalse a.free.length) s

end

/-- The first model of the clauses under assumptions, over at least `varCount`
    variables. -/
def solve (f : Cnf) (varCount : Nat) (assumptions : List Literal) :
    Except SearchError (Option Model) :=
  models f varCount assumptions (fun _ m => (some m, false)) none

/-- The number of models of the clauses under assumptions, over at least
    `varCount` variables. -/
def count (f : Cnf) (varCount : Nat) (assumptions : List Literal) : Except SearchError Nat :=
  models f varCount assumptions (fun c _ => (c + 1, true)) 0

end Enumeration

end GuardedCnf
