import GuardedCnf.Format.Basic
/-! # The DIMACS format — every clause is a conjunct

    The variable with number `k` is the one called `k`. -/

namespace GuardedCnf.Format.Clauses

/-- Declares `n` variables that are called by the numbers from `k` on. -/
def declareNumbers (k : Nat) : Nat → Allocation (List Var)
  | 0 => return []
  | n + 1 => do
      let v ← VariableMap.declare (toString k)
      return v :: (← declareNumbers (k + 1) n)

/-- A clause as a disjunction, where each variable is replaced by the one at
    its place in the list. -/
def disjunction (index : Array Var) (c : Clause) : Formula :=
  .or (c.map fun l => .lit ⟨index.getD l.var 0, l.positive⟩)

/-- Reads a file. -/
def parse : Source → Parsing Formula
  | .error e => throw (.bytes e)
  | .ok bytes =>
      match Dimacs.ofBytes bytes with
      | .error e => throw (.dimacs e)
      | .ok d => do
          let index ← (declareNumbers 1 d.varCount).adaptExcept .unnumbered
          return .and (d.clauses.map (disjunction index.toArray))

end GuardedCnf.Format.Clauses

namespace GuardedCnf.Format

/-- The DIMACS format. -/
def dimacs : Format := ⟨"dimacs", ["cnf", "dimacs"], Clauses.parse⟩

end GuardedCnf.Format
