/-! # Variables and literals

    Variables are counted from 0 inside the library.  Files, reports and
    messages count them from 1: variable `v` has the number `v + 1`, and a
    literal is written as that number, negated when the literal is negative. -/

namespace GuardedCnf

/-- A propositional variable, counted from 0. -/
abbrev Var := Nat

/-- The number that files and messages use for a variable. -/
def Var.number (v : Var) : Nat := v + 1

/-- An assignment of a truth value to every variable. -/
abbrev Valuation := Var → Bool

/-- A variable or its negation. -/
structure Literal where
  var : Var
  positive : Bool
deriving DecidableEq

namespace Literal

/-- The literal on the same variable with the other polarity. -/
def complement (l : Literal) : Literal := ⟨l.var, !l.positive⟩

/-- The signed number of a literal, never 0. -/
def number (l : Literal) : Int :=
  if l.positive then (l.var.number : Int) else -(l.var.number : Int)

/-- The literal with a signed number; 0 names none. -/
def ofNumber? (n : Int) : Option Literal :=
  if n = 0 then none else some ⟨n.natAbs - 1, decide (0 < n)⟩

/-- The place of a literal in the order of literals: by variable, the
    positive literal first. -/
def rank (l : Literal) : Nat := 2 * l.var + if l.positive then 0 else 1

/-- Whether a literal is true under a valuation. -/
def eval (v : Valuation) (l : Literal) : Bool := v l.var == l.positive

@[simp] theorem complement_complement (l : Literal) : l.complement.complement = l := by
  cases l; simp [complement]

@[simp] theorem eval_complement (v : Valuation) (l : Literal) :
    l.complement.eval v = !l.eval v := by
  cases l with
  | mk x p => cases h : v x <;> cases p <;> simp [complement, eval, h]

/-- Numbers name literals without ambiguity. -/
theorem ofNumber?_number (l : Literal) : ofNumber? l.number = some l := by
  obtain ⟨x, p⟩ := l
  cases p
  · have h : (⟨x, false⟩ : Literal).number = Int.negSucc x := rfl
    rw [h, ofNumber?, if_neg (by omega)]
    rfl
  · have h : (⟨x, true⟩ : Literal).number = ((x + 1 : Nat) : Int) := rfl
    have pos : (0 : Int) < ((x + 1 : Nat) : Int) := Int.natCast_pos.2 (Nat.succ_pos x)
    rw [h, ofNumber?, if_neg (Int.ne_of_gt pos), decide_eq_true pos]
    rfl

end Literal

end GuardedCnf
