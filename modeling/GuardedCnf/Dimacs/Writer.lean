import GuardedCnf.Dimacs.Reader
import GuardedCnf.VariableMap
/-! # Writing DIMACS files

    A header line comes first, then a line for each clause.  A file for a
    variable map begins with a comment line for each variable. -/

namespace GuardedCnf.Dimacs

/-- The file of clauses over at least `varCount` variables. -/
def ofCnf (varCount : Nat) (f : Cnf) : Dimacs := ⟨max varCount f.varCount, f⟩

/-- The line of a clause. -/
def clauseLine (c : Clause) : String :=
  String.join (c.map fun l => toString l.number ++ " ") ++ "0\n"

/-- The text of a file. -/
def toText (d : Dimacs) : String :=
  s!"p cnf {d.varCount} {d.clauses.length}\n" ++ String.join (d.clauses.map clauseLine)

/-- The comment line for a variable. -/
def nameLine (v : Var) (name : String) : String := s!"c {v.number} {name}\n"

/-- The comment lines for the variables of a map. -/
def names (vars : VariableMap) : String := String.join (vars.names.mapIdx nameLine)

/-- The text of the file of clauses with the names of their variables. -/
def named (f : Cnf) (vars : VariableMap) : String := names vars ++ (ofCnf vars.size f).toText

end GuardedCnf.Dimacs
