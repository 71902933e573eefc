import GuardedCnf.VariableMap
/-! # Expressions — formulas as they are written on a line

    An expression names its variables and has implications and equivalences.
    It becomes a formula in two steps: its identifiers are declared from left to
    right, and then its operators are replaced by those of formulas. -/

namespace GuardedCnf

/-- An expression over identifiers. -/
inductive Expr where
  | const (b : Bool)
  | var (name : String)
  | not (e : Expr)
  | and (es : List Expr)
  | or (es : List Expr)
  | implies (premise conclusion : Expr)
  | iff (left right : Expr)

namespace Expr

mutual

/-- The truth value of an expression when identifiers have values. -/
def eval (value : String → Bool) : Expr → Bool
  | .const b => b
  | .var name => value name
  | .not e => !e.eval value
  | .and es => evalAll value es
  | .or es => evalAny value es
  | .implies a b => !a.eval value || b.eval value
  | .iff a b => a.eval value == b.eval value

/-- Whether all expressions of a list are true. -/
def evalAll (value : String → Bool) : List Expr → Bool
  | [] => true
  | e :: es => e.eval value && evalAll value es

/-- Whether some expression of a list is true. -/
def evalAny (value : String → Bool) : List Expr → Bool
  | [] => false
  | e :: es => e.eval value || evalAny value es

end

mutual

/-- The identifiers of an expression from left to right, with repetitions. -/
def names : Expr → List String
  | .const _ => []
  | .var name => [name]
  | .not e => e.names
  | .and es => namesAll es
  | .or es => namesAll es
  | .implies a b => a.names ++ b.names
  | .iff a b => a.names ++ b.names

/-- The identifiers of the expressions of a list. -/
def namesAll : List Expr → List String
  | [] => []
  | e :: es => e.names ++ namesAll es

end

mutual

/-- The formula of an expression, given the variables of its identifiers.  An
    equivalence becomes two implications. -/
def toFormula (index : String → Var) : Expr → Formula
  | .const b => if b then .top else .bottom
  | .var name => .lit ⟨index name, true⟩
  | .not e => .not (e.toFormula index)
  | .and es => .and (toFormulas index es)
  | .or es => .or (toFormulas index es)
  | .implies a b => .or [.not (a.toFormula index), b.toFormula index]
  | .iff a b =>
      let left := a.toFormula index
      let right := b.toFormula index
      .and [.or [.not left, right], .or [left, .not right]]

/-- The formulas of the expressions of a list. -/
def toFormulas (index : String → Var) : List Expr → List Formula
  | [] => []
  | e :: es => e.toFormula index :: toFormulas index es

end

/-- Declares names from left to right. -/
def declareAll : List String → Allocation Unit
  | [] => return ()
  | name :: names => do
      discard <| VariableMap.declare name
      declareAll names

/-- Declares the identifiers of an expression and gives its formula. -/
def lower (e : Expr) : Allocation Formula := do
  declareAll e.names
  let vars ← get
  return e.toFormula fun name => (vars.get? name).getD 0

end Expr

end GuardedCnf
