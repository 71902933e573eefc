import GuardedCnf.Distribution
import GuardedCnf.VariableMap
import GuardedCnf.Json
/-! # Encodings with one selector for each conjunct

    Every conjunct gets a fresh selector variable.  Its clauses are guarded by
    the negative selector and the clauses of its negation by the positive one,
    which makes the selector equivalent to the conjunct.  An assumption on the
    selector then enables the conjunct, negates it or, when there is none, drops
    it.  Assuming the root variable enables all conjuncts.

    Conjuncts are numbered from 1. -/

namespace GuardedCnf

/-- The clauses of one conjunct and of its negation. -/
structure GuardedConjunct where
  /-- The variable that is equivalent to the conjunct. -/
  selector : Var
  /-- The clauses of the conjunct, guarded by the negative selector. -/
  holds : Cnf
  /-- The clauses of the negation, guarded by the positive selector. -/
  fails : Cnf

namespace GuardedConjunct

/-- All clauses of the conjunct. -/
def clauses (g : GuardedConjunct) : Cnf := g.holds ++ g.fails

/-- The positive literal of the selector. -/
def selected (g : GuardedConjunct) : Literal := ⟨g.selector, true⟩

/-- Encodes a conjunct in negation normal form. -/
def ofFormula (f : Formula) (selector : Var) : Except EncodingError GuardedConjunct := do
  let holds ← f.distribute
  let fails ← f.negatedNnf.distribute
  return ⟨selector, holds.guarded ⟨selector, false⟩, fails.guarded ⟨selector, true⟩⟩

end GuardedConjunct

/-- The encoding of a conjunction. -/
structure Encoding where
  conjuncts : List GuardedConjunct
  root : Var

namespace Encoding

/-- The clauses, conjunct by conjunct, and then for each conjunct the clause by
    which the root implies its selector. -/
def cnf (e : Encoding) : Cnf :=
  e.conjuncts.flatMap GuardedConjunct.clauses
    ++ e.conjuncts.map fun g => [⟨e.root, false⟩, g.selected]

/-- The selectors in the order of their conjuncts. -/
def selectors (e : Encoding) : List Var := e.conjuncts.map (·.selector)

/-- The positive literal of the selector of a conjunct. -/
def selectorLiteral? (e : Encoding) (i : Nat) : Option Literal :=
  if i = 0 then none else e.conjuncts[i - 1]?.map (·.selected)

/-! ## Construction. -/

/-- The name of the selector of a conjunct. -/
def selectorName (i : Nat) : String := "__selector_" ++ toString i

/-- The name of the root variable. -/
def rootName : String := "__root"

/-- Allocates a selector for every formula, numbering them from `i`. -/
def allocateSelectors (i : Nat) : List Formula → Allocation (List Var)
  | [] => return []
  | _ :: fs => do
      let selector ← VariableMap.fresh (selectorName i)
      return selector :: (← allocateSelectors (i + 1) fs)

/-- Encodes every formula with its selector, numbering them from `i`. -/
def guardAll (i : Nat) : List Formula → List Var → Except EncodingError (List GuardedConjunct)
  | f :: fs, selector :: selectors => do
      let g ← (GuardedConjunct.ofFormula f selector).mapError (·.inConjunct i)
      return g :: (← guardAll (i + 1) fs selectors)
  | _, _ => return []

/-- Encodes a conjunction of formulas in negation normal form.  Allocates the
    variables of the formula that are missing, one selector for each conjunct,
    and the root; they stay allocated when a conjunct cannot be encoded. -/
def ofFormula : Formula → Allocation Encoding
  | .and fs => do
      VariableMap.cover (.and fs)
      let selectors ← allocateSelectors 1 fs
      let root ← VariableMap.fresh rootName
      match guardAll 1 fs selectors with
      | .ok conjuncts => return ⟨conjuncts, root⟩
      | .error e => throw e
  | f => throw (.notConjunction f)

/-! ## Assumptions. -/

/-- Why a choice of conjuncts is refused. -/
inductive SelectionError where
  /-- There is no conjunct with this number. -/
  | unknown (i : Nat) (count : Nat)
  /-- A conjunct is both negated and left free. -/
  | conflict (i : Nat)

/-- The wording of a refusal. -/
def SelectionError.message : SelectionError → String
  | .unknown i n => s!"no conjunct {i}: conjuncts are numbered from 1 to {n}"
  | .conflict i => s!"conjunct {i} cannot be both negated and free"

/-- The assumptions on the selectors of conjuncts numbered from `i`: none for a
    free conjunct, the negative selector for a negated one. -/
def select (negated free : List Nat) (i : Nat) : List GuardedConjunct → List Literal
  | [] => []
  | g :: gs =>
      let others := select negated free (i + 1) gs
      if free.contains i then others
      else ⟨g.selector, !negated.contains i⟩ :: others

/-- The assumptions under which the conjuncts of `negated` are false, those of
    `free` are unconstrained and all others are true. -/
def assumptions (e : Encoding) (negated free : List Nat) :
    Except SelectionError (List Literal) :=
  match (negated ++ free).find? fun i => i = 0 || e.conjuncts.length < i with
  | some i => .error (.unknown i e.conjuncts.length)
  | none =>
      match negated.find? free.contains with
      | some i => .error (.conflict i)
      | none => .ok (select negated free 1 e.conjuncts)

/-- The assumptions under which every assignment of the input variables that is
    allowed extends in exactly one way: the selectors follow their conjuncts,
    and the root is false. -/
def countingAssumptions (e : Encoding) (negated free : List Nat) :
    Except SelectionError (List Literal) := do
  return (← e.assumptions negated free) ++ [⟨e.root, false⟩]

/-! ## Summary. -/

/-- The sizes and the variables of an encoding, variables by their numbers. -/
structure Summary where
  conjuncts : Nat
  clauses : Nat
  literals : Nat
  varCount : Nat
  selectors : List Nat
  root : Nat

/-- The summary of an encoding made with a variable map. -/
def summary (e : Encoding) (vars : VariableMap) : Summary where
  conjuncts := e.conjuncts.length
  clauses := e.cnf.length
  literals := e.cnf.literalCount
  varCount := vars.size
  selectors := e.selectors.map Var.number
  root := e.root.number

namespace Summary

/-- The selectors as a JSON object, by the numbers of their conjuncts, from
    `i`. -/
def selectorFields (i : Nat) : List Nat → List (String × Json)
  | [] => []
  | n :: ns => (toString i, .int n) :: selectorFields (i + 1) ns

/-- The summary as a JSON object. -/
def toJson (s : Summary) : Json :=
  .obj [("conjuncts", .int s.conjuncts), ("clauses", .int s.clauses),
    ("literals", .int s.literals), ("variables", .int s.varCount),
    ("selectors", .obj (selectorFields 1 s.selectors)), ("root", .int s.root)]

/-- The summary on one line. -/
def toText (s : Summary) : String :=
  s!"Conjuncts: {s.conjuncts}, Clauses: {s.clauses}, Literals: {s.literals}, "
    ++ s!"Variables: {s.varCount}, Root: {s.root}"

end Summary

end Encoding

end GuardedCnf
