import GuardedCnf.Clause
import GuardedCnf.Formula
/-! # Formulas in conjunctive normal form

    A formula in conjunctive normal form is the list of its clauses, in order.
    The empty list is true. -/

namespace GuardedCnf

/-- A conjunction of clauses. -/
abbrev Cnf := List Clause

namespace Cnf

/-- Whether every clause is true. -/
def eval (v : Valuation) (f : Cnf) : Bool := f.all (Clause.eval v)

/-- Adds a literal at the end of every clause.  The result is equivalent to the
    clauses when the literal is false and holds when it is true. -/
def guarded (f : Cnf) (l : Literal) : Cnf := f.map (· ++ [l])

/-- One more than the largest variable of the clauses. -/
def varCount (f : Cnf) : Nat := Formula.bound f.flatten

/-- The number of literal occurrences. -/
def literalCount (f : Cnf) : Nat := f.flatten.length

/-- The conjunction of the disjunctions of the literals. -/
def toTree (f : Cnf) : Formula := .and (f.map fun c => .or (c.map .lit))

/-- All mergers of a clause of `f` with a clause of `g`, the clause of `f`
    varying slowest, without the tautologies. -/
def product (f g : Cnf) : Cnf := f.flatMap fun c => g.filterMap c.merge

/-- The clauses followed by one unit clause for every literal. -/
def withUnits (f : Cnf) (ls : List Literal) : Cnf := f ++ ls.map ([·])

end Cnf

end GuardedCnf
