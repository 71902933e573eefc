import GuardedCnf.Cnf
import GuardedCnf.EncodingError
/-! # Distribution of disjunctions over conjunctions

    A formula in negation normal form becomes an equivalent conjunction of
    clauses.  The clauses of a conjunction are those of its children, one child
    after the other; those of a disjunction are all ways to merge one clause of
    each child, the leftmost child varying slowest.  Repeated literals of a
    clause and clauses that are tautologies are dropped.

    The size is exponential in the disjunctions nested above conjunctions: this
    is meant for one conjunct at a time. -/

namespace GuardedCnf.Formula

mutual

/-- The clauses of a formula; the first negation node from left to right is an
    error. -/
def distribute : Formula → Except EncodingError Cnf
  | .lit l => .ok [[l]]
  | .not f => .error (.notNormal none (.not f))
  | .and fs => distributeAll fs
  | .or fs => distributeAny [[]] fs

/-- The clauses of the formulas of a list, one after the other. -/
def distributeAll : List Formula → Except EncodingError Cnf
  | [] => .ok []
  | f :: fs => do
      let clauses ← f.distribute
      let others ← distributeAll fs
      return clauses ++ others

/-- The clauses of the disjunction of `sofar` with the formulas of a list. -/
def distributeAny (sofar : Cnf) : List Formula → Except EncodingError Cnf
  | [] => .ok sofar
  | f :: fs => do
      let clauses ← f.distribute
      distributeAny (sofar.product clauses) fs

end

end GuardedCnf.Formula
