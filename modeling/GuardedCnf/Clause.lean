import GuardedCnf.Literal
/-! # Clauses — disjunctions of literals, in order

    A clause is the list of its literals.  The empty clause is false.  Merging
    two clauses keeps the first occurrence of every literal and gives up when
    the result would be a tautology. -/

namespace GuardedCnf

/-- A disjunction of literals. -/
abbrev Clause := List Literal

namespace Clause

/-- Whether some literal of the clause is true. -/
def eval (v : Valuation) (c : Clause) : Bool := c.any (·.eval v)

/-- Whether the clause holds a literal and its complement. -/
def isTautology (c : Clause) : Bool := c.any fun l => c.contains l.complement

/-- The clause with one more literal, unless the complement is present. -/
def insert (c : Clause) (l : Literal) : Option Clause :=
  if c.contains l.complement then none
  else if c.contains l then some c
  else some (c ++ [l])

/-- The disjunction of two clauses without repeated literals; `none` when it
    is a tautology.  The first clause is free of repetitions and of
    complementary literals. -/
def merge (c : Clause) : Clause → Option Clause
  | [] => some c
  | l :: ls => (c.insert l).bind fun d => d.merge ls

/-- The order of clauses, literal by literal, a proper beginning first. -/
def order : Clause → Clause → Ordering
  | [], [] => .eq
  | [], _ :: _ => .lt
  | _ :: _, [] => .gt
  | l :: c, k :: d => (compare l.rank k.rank).then (order c d)

end Clause

end GuardedCnf
