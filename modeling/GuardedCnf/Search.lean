import GuardedCnf.Model
/-! # Exhaustive search under assumptions

    Models are looked for over the variables that no assumption fixes, as if all
    assignments were tested one after the other in the order of counting, with the
    lowest variable as the lowest bit: `Enumeration` is that loop, and
    `Enumeration.search_solve_eq` and `Enumeration.search_count_eq` say that a search
    finds the same model, the same number and the same errors.

    It needs fewer tests.  Deciding the highest variable first, and false before
    true, meets the models in the order of counting; a literal that is decided
    removes the clauses that hold it and shortens those that hold its complement; a
    variable without occurrence needs no decision. -/

namespace GuardedCnf

/-- Why a search is refused. -/
inductive SearchError where
  /-- An assumption is on a variable that the formula does not have. -/
  | outOfRange (assumption : Literal) (varCount : Nat)
  /-- Too many variables are not assumed. -/
  | tooManyFree (count : Nat)

/-- How many variables may be left without assumption. -/
def searchLimit : Nat := 24

/-- The wording of a refusal. -/
def SearchError.message : SearchError → String
  | .outOfRange l n => s!"assumption {l.number} on a formula of {n} variables"
  | .tooManyFree n => s!"{n} unassumed variables, brute force is limited to {searchLimit}"

namespace Cnf

/-- Whether a variable occurs in the clauses. -/
def mentions (f : Cnf) (v : Var) : Bool := f.any fun c => c.any fun l => l.var == v

/-- What is left to satisfy when a literal holds. -/
def given (f : Cnf) (l : Literal) : Cnf :=
  f.filterMap fun c => if c.contains l then none else some (c.filter (· != l.complement))

/-- The first model over a list of variables in decreasing order, as the
    literals that hold. -/
def firstModel (f : Cnf) : List Var → Option (List Literal)
  | [] => if f.isEmpty then some [] else none
  | v :: vs =>
      if f.any List.isEmpty then none
      else if f.mentions v then
        match (f.given ⟨v, false⟩).firstModel vs with
        | some ls => some (⟨v, false⟩ :: ls)
        | none => ((f.given ⟨v, true⟩).firstModel vs).map (⟨v, true⟩ :: ·)
      else (f.firstModel vs).map (⟨v, false⟩ :: ·)

/-- The number of models over a list of variables. -/
def countModels (f : Cnf) : List Var → Nat
  | [] => if f.isEmpty then 1 else 0
  | v :: vs =>
      if f.any List.isEmpty then 0
      else if f.isEmpty then Nat.pow 2 (vs.length + 1)
      else if f.mentions v then
        (f.given ⟨v, false⟩).countModels vs + (f.given ⟨v, true⟩).countModels vs
      else 2 * f.countModels vs

end Cnf

namespace Search

/-- Checks assumptions from left to right on a formula of `n` variables, after
    those of `fixed`.  The result is every assumption once, or `none` at a
    contradiction, which ends the check. -/
def assume (n : Nat) (fixed : List Literal) :
    List Literal → Except SearchError (Option (List Literal))
  | [] => .ok (some fixed)
  | l :: ls =>
      if n ≤ l.var then .error (.outOfRange l n)
      else if fixed.contains l.complement then .ok none
      else assume n (if fixed.contains l then fixed else l :: fixed) ls

/-- The variables below `n` that no literal fixes, in decreasing order. -/
def freeVars (n : Nat) (fixed : List Literal) : List Var :=
  (List.range n).reverse.filter fun v => !(fixed.any (·.var == v))

/-- Runs a search over the unassumed variables, given the assumptions, those
    variables and what is left of the clauses; `none` when the assumptions
    contradict each other. -/
def run {α : Type} (f : Cnf) (varCount : Nat) (assumptions : List Literal)
    (search : List Literal → List Var → Cnf → α) : Except SearchError (Option α) := do
  let n := max varCount f.varCount
  match ← assume n [] assumptions with
  | none => return none
  | some fixed =>
      let free := n - fixed.length
      if searchLimit < free then throw (.tooManyFree free)
      else return some (search fixed (freeVars n fixed) (fixed.foldl Cnf.given f))

/-- The first model of the clauses under assumptions, over at least `varCount`
    variables. -/
def solve (f : Cnf) (varCount : Nat) (assumptions : List Literal) :
    Except SearchError (Option Model) := do
  let found ← run f varCount assumptions fun fixed free rest =>
    (rest.firstModel free).map fun ls =>
      Model.ofLiterals (max varCount f.varCount) (fixed ++ ls)
  return found.join

/-- The number of models of the clauses under assumptions, over at least
    `varCount` variables. -/
def count (f : Cnf) (varCount : Nat) (assumptions : List Literal) :
    Except SearchError Nat := do
  let found ← run f varCount assumptions fun _ free rest => rest.countModels free
  return found.getD 0

end Search

end GuardedCnf
