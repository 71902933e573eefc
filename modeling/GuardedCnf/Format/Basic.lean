import GuardedCnf.Dimacs.Reader
import GuardedCnf.Expression.Reader
import GuardedCnf.FileError
/-! # Formats — ways to read a conjunction

    A format reads a conjunction of formulas in negation normal form from a
    file and declares its variables.  A format applies to the files with one of
    its extensions, unless another is asked for. -/

namespace GuardedCnf

/-- Why the content of a file is no conjunction. -/
inductive ReadError where
  /-- The lines of a text cannot be read. -/
  | lines (e : FileError)
  /-- A line of a text, counted from 1, is no expression. -/
  | line (i : Nat) (e : LineError)
  /-- The identifiers of a line, counted from 1, cannot be declared. -/
  | undeclared (i : Nat) (e : EncodingError)
  /-- The bytes of a DIMACS file cannot be read. -/
  | bytes (e : FileError)
  /-- The bytes are no DIMACS file. -/
  | dimacs (e : DimacsError)
  /-- The variables of a DIMACS file cannot be declared. -/
  | unnumbered (e : EncodingError)

/-- The wording of a failure, the outermost part first. -/
def ReadError.messages : ReadError → List String
  | .lines e => ["reading formula", e.message]
  | .line i e => [s!"line {i}", e.message]
  | .undeclared i e => [s!"line {i}", e.message]
  | .bytes e => ["parsing dimacs", e.message]
  | .dimacs e => ["parsing dimacs", e.message]
  | .unnumbered e => [e.message]

/-- A reading of a formula, which declares variables.  The variables declared
    before a failure stay declared. -/
abbrev Parsing := EStateM ReadError VariableMap

/-- A way to read a formula. -/
structure Format where
  name : String
  extensions : List String
  parse : Source → Parsing Formula

end GuardedCnf
