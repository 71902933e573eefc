import GuardedCnf.Literal
/-! # Formulas — trees of literals, negations, conjunctions and disjunctions

    Conjunctions and disjunctions have any number of children: the empty
    conjunction is true and the empty disjunction is false.  A formula is in
    negation normal form when it has no negation node, so that negations only
    appear in the polarity of its literals.

    Every recursion runs over a formula and, beside it, over a list of
    formulas, so that the list functions have equations of their own. -/

namespace GuardedCnf

/-- A propositional formula. -/
inductive Formula where
  | lit (l : Literal)
  | not (f : Formula)
  | and (fs : List Formula)
  | or (fs : List Formula)

namespace Formula

/-- The formula that is always true. -/
def top : Formula := .and []

/-- The formula that is always false. -/
def bottom : Formula := .or []

instance : Inhabited Formula := ⟨bottom⟩

/-- The word for the connective at the root. -/
def kind : Formula → String
  | .lit _ => "literal"
  | .not _ => "negation"
  | .and _ => "conjunction"
  | .or _ => "disjunction"

/-! ## Truth under a valuation. -/

mutual

/-- The truth value of a formula. -/
def eval (v : Valuation) : Formula → Bool
  | .lit l => l.eval v
  | .not f => !f.eval v
  | .and fs => evalAll v fs
  | .or fs => evalAny v fs

/-- Whether all formulas of a list are true. -/
def evalAll (v : Valuation) : List Formula → Bool
  | [] => true
  | f :: fs => f.eval v && evalAll v fs

/-- Whether some formula of a list is true. -/
def evalAny (v : Valuation) : List Formula → Bool
  | [] => false
  | f :: fs => f.eval v || evalAny v fs

end

/-! ## Negation normal form, for both polarities at once. -/

mutual

/-- The normal form of a formula, or of its negation when `positive` is
    false. -/
def normal (positive : Bool) : Formula → Formula
  | .lit l => .lit (if positive then l else l.complement)
  | .not f => f.normal (!positive)
  | .and fs => if positive then .and (normalAll positive fs) else .or (normalAll positive fs)
  | .or fs => if positive then .or (normalAll positive fs) else .and (normalAll positive fs)

/-- The normal forms of the formulas of a list, in order. -/
def normalAll (positive : Bool) : List Formula → List Formula
  | [] => []
  | f :: fs => f.normal positive :: normalAll positive fs

end

/-- An equivalent formula in negation normal form. -/
def nnf (f : Formula) : Formula := f.normal true

/-- A formula in negation normal form equivalent to the negation. -/
def negatedNnf (f : Formula) : Formula := f.normal false

mutual

/-- Whether a formula has no negation node. -/
def isNnf : Formula → Bool
  | .lit _ => true
  | .not _ => false
  | .and fs => isNnfAll fs
  | .or fs => isNnfAll fs

/-- Whether no formula of a list has a negation node. -/
def isNnfAll : List Formula → Bool
  | [] => true
  | f :: fs => f.isNnf && isNnfAll fs

end

/-! ## The literals of a formula. -/

mutual

/-- The literals of a formula, from left to right. -/
def lits : Formula → List Literal
  | .lit l => [l]
  | .not f => f.lits
  | .and fs => litsAll fs
  | .or fs => litsAll fs

/-- The literals of the formulas of a list, from left to right. -/
def litsAll : List Formula → List Literal
  | [] => []
  | f :: fs => f.lits ++ litsAll fs

end

/-- One more than the largest variable of a list of literals. -/
def bound (ls : List Literal) : Nat := ls.foldr (fun l n => max (l.var + 1) n) 0

/-- One more than the largest variable of a formula. -/
def varCount (f : Formula) : Nat := bound f.lits

/-! ## Written form: `!` for a negation, `&` and `|` between parentheses. -/

mutual

/-- The written form of a formula, with variables written by `name`. -/
def render (name : Var → String) : Formula → String
  | .lit l => (if l.positive then "" else "!") ++ name l.var
  | .not f => "!" ++ f.render name
  | .and [] => "true"
  | .and (f :: fs) => "(" ++ f.render name ++ renderRest name " & " fs
  | .or [] => "false"
  | .or (f :: fs) => "(" ++ f.render name ++ renderRest name " | " fs

/-- The remaining children of a node, each after the operator, and the closing
    parenthesis. -/
def renderRest (name : Var → String) (operator : String) : List Formula → String
  | [] => ")"
  | f :: fs => operator ++ f.render name ++ renderRest name operator fs

end

/-- The written form of a formula with variables as numbers. -/
def toText (f : Formula) : String := f.render fun v => toString v.number

end Formula

end GuardedCnf
