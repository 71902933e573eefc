import GuardedCnf.Cnf
import GuardedCnf.Packed
import GuardedCnf.VariableMap
/-! # Models — assignments of finitely many variables

    A model is the list of the values of its variables, variable 0 first.  A
    variable outside the list reads as false.  Read as a binary number with
    variable 0 as the lowest bit, `next` adds one, and wraps to all false. -/

namespace GuardedCnf

/-- The values of the variables 0, 1, 2, and so on. -/
structure Model where
  values : List Bool

namespace Model

/-- The number of variables. -/
def size (m : Model) : Nat := m.values.length

/-- The valuation that a model describes. -/
def value (m : Model) : Valuation := fun v => m.values.getD v false

/-- The model of `n` variables, all false. -/
def allFalse (n : Nat) : Model := ⟨List.replicate n false⟩

/-- The model of `n` variables where exactly the positive literals hold.
    Literals outside of the model are ignored. -/
def ofLiterals (n : Nat) (ls : List Literal) : Model :=
  let mark (bs : Array Bool) (l : Literal) : Array Bool :=
    if l.positive then bs.setIfInBounds l.var true else bs
  ⟨(ls.foldl mark (Array.replicate n false)).toList⟩

/-- Changes the value of one variable, which has to be in the model. -/
def set? (m : Model) (v : Var) (b : Bool) : Option Model :=
  if v < m.size then some ⟨m.values.set v b⟩ else none

/-- The true variables, in increasing order. -/
def trueVars (m : Model) : List Var :=
  m.values.zipIdx.filterMap fun (b, v) => if b then some v else none

/-! ## Counting. -/

/-- The next model, and whether there is one: after the last model comes the
    first. -/
def next (m : Model) : Model × Bool :=
  let (p, more) := (Packed.ofValues m.values).next?.get (Packed.isSome_next? _)
  (⟨p.values⟩, more)

/-! ## Written forms. -/

/-- The numbers of the true variables between braces. -/
def toText (m : Model) : String :=
  "\x7b" ++ ", ".intercalate (m.trueVars.map fun v => toString v.number) ++ "\x7d"

/-- The values that a model shows: those of the variables of a map that are in
    the model and not auxiliary, with the names of the variables. -/
def shown (m : Model) (vars : VariableMap) : List (String × Bool) :=
  (m.values.zip vars.entries.toList).filterMap fun (b, e) =>
    if e.auxiliary then none else some (e.name, b)

/-- The values of the shown variables: a name, after a minus sign when the
    variable is false. -/
def displayNamed (m : Model) (vars : VariableMap) : String :=
  " ".intercalate ((m.shown vars).map fun (name, b) => if b then name else "-" ++ name)

/-- The values of the shown variables by name, in the order of names. -/
def namedValues (m : Model) (vars : VariableMap) : List (String × Bool) :=
  (m.shown vars).mergeSort fun a b => a.1 ≤ b.1

end Model

end GuardedCnf
