import GuardedCnf.Cnf
import GuardedCnf.Text.Blank
import GuardedCnf.Text.Decimal
import GuardedCnf.Text.Utf8
/-! # Reading DIMACS files

    A file is a sequence of numbers: literals, and a 0 after each clause.  A
    line may instead be a comment, beginning with `c`, or once the header,
    beginning with `p`, which declares how many variables and clauses there
    are.  The reader goes through the file byte by byte and stops at the first
    fault. -/

namespace GuardedCnf

/-- The content of a DIMACS file. -/
structure Dimacs where
  varCount : Nat
  clauses : Cnf

/-- Why bytes are no DIMACS file.  Lines are counted from 1. -/
inductive DimacsError where
  /-- A byte that cannot stand there. -/
  | unexpected (line : Nat) (byte : UInt8)
  /-- A number beyond the largest variable, up to the digit that exceeds it. -/
  | tooLarge (line beginning digit : Nat)
  /-- A header line that is none. -/
  | invalidHeader (line : Nat) (text : String)
  /-- The last clause has no end. -/
  | unterminated (line : Nat)
  /-- More variables than declared. -/
  | varCount (actual declared : Nat)
  /-- Not as many clauses as declared. -/
  | clauseCount (actual declared : Nat)

/-- The wording of a fault. -/
def DimacsError.message : DimacsError → String
  | .unexpected line b =>
      s!"line {line}: Unexpected character in DIMACS CNF input: '"
        ++ String.singleton (Char.ofNat b.toNat) ++ "'"
  | .tooLarge line n d => s!"line {line}: Literal index is too large: {n}{d}..."
  | .invalidHeader line text => s!"line {line}: Invalid header syntax: {text}"
  | .unterminated line => s!"line {line}: Unterminated clause"
  | .varCount a d =>
      s!"Formula has {a} variables while the header specifies {d} variables"
  | .clauseCount a d =>
      s!"Formula has {a} clauses while the header specifies {d} clauses"

namespace Dimacs

/-- The largest number of a variable. -/
def maxNumber : Nat := Nat.pow 2 28

/-- What has been read of a number. -/
inductive Numeral where
  | none
  | sign
  | digits (negative : Bool) (value : Nat)

/-- What kind of line is being read. -/
inductive Mode where
  | clauses
  | comment
  /-- The header, with its bytes so far, the last one first. -/
  | header (bytes : List UInt8)

/-- The state of the reader after some bytes. -/
structure State where
  /-- The number of the line. -/
  line : Nat
  /-- Whether nothing was read on the line. -/
  lineStart : Bool
  mode : Mode
  /-- The declared numbers of variables and of clauses. -/
  header : Option (Nat × Nat)
  numeral : Numeral
  /-- The literals of the clause being read, the last one first. -/
  clause : Clause
  /-- The clauses read, the last one first. -/
  clauses : Cnf

namespace State

/-- The state before the first byte. -/
def start : State := ⟨1, true, .clauses, none, .none, [], []⟩

/-- Ends a number: a variable is a literal of the clause, 0 is its end. -/
def endNumeral (s : State) : State :=
  match s.numeral with
  | .digits negative (n + 1) =>
      { s with numeral := .none, clause := ⟨n, !negative⟩ :: s.clause }
  | .digits _ 0 =>
      { s with numeral := .none, clause := [], clauses := s.clause.reverse :: s.clauses }
  | _ => { s with numeral := .none }

/-- Adds a digit to a number. -/
def digit (s : State) (d : Nat) : Except DimacsError State :=
  let (negative, n) := match s.numeral with
    | .none => (false, 0)
    | .sign => (true, 0)
    | .digits negative n => (negative, n)
  if maxNumber < 10 * n + d then .error (.tooLarge s.line n d)
  else .ok { s with numeral := .digits negative (10 * n + d), lineStart := false }

/-- The declared numbers in the text of a header. -/
def readHeader (line : Nat) (text : String) : Except DimacsError (Nat × Nat) :=
  let invalid := .error (.invalidHeader line text)
  match text.toList with
  | 'p' :: ' ' :: cs =>
      match (Text.words cs).map String.ofList with
      | "cnf" :: number :: rest =>
          match Text.readNat64 number with
          | .error _ => invalid
          | .ok n =>
              if maxNumber < n then .error (.tooLarge line (n / 10) (n % 10))
              else match rest with
                | [count] =>
                    match Text.readNat64 count with
                    | .error _ => invalid
                    | .ok m => .ok (n, m)
                | _ => invalid
      | _ => invalid
  | _ => invalid

/-- Ends the header line. -/
def endHeader (s : State) (bytes : List UInt8) : Except DimacsError State := do
  let declared ← readHeader s.line (Text.decodeReplacing bytes.reverse)
  return { s with mode := .clauses, lineStart := true, header := some declared }

/-- Whether a byte ends a line. -/
def isLineEnd (b : UInt8) : Bool := b == 10 || b == 13

/-- Reads a byte of a line with clauses. -/
def clauseByte (s : State) (b : UInt8) : Except DimacsError State :=
  if '0'.toUInt8 ≤ b ∧ b ≤ '9'.toUInt8 then s.digit (b.toNat - 48)
  else if isLineEnd b || b == ' '.toUInt8 then
    match s.numeral with
    | .sign => .error (.unexpected s.line b)
    | _ => .ok { s.endNumeral with lineStart := isLineEnd b }
  else if b == '-'.toUInt8 then
    match s.numeral with
    | .none => .ok { s with numeral := .sign, lineStart := false }
    | _ => .error (.unexpected s.line b)
  else if b == 'c'.toUInt8 && s.lineStart then .ok { s with mode := .comment }
  else if b == 'p'.toUInt8 && s.lineStart && s.header.isNone then
    .ok { s with mode := .header [b] }
  else .error (.unexpected s.line b)

/-- Reads a byte. -/
def read (s : State) (b : UInt8) : Except DimacsError State :=
  let s := if b == 10 then { s with line := s.line + 1 } else s
  match s.mode with
  | .clauses => s.clauseByte b
  | .comment => .ok (if isLineEnd b then { s with mode := .clauses, lineStart := true } else s)
  | .header bytes =>
      if isLineEnd b then s.endHeader bytes else .ok { s with mode := .header (b :: bytes) }

/-- Reads bytes. -/
def readAll (s : State) : List UInt8 → Except DimacsError State
  | [] => .ok s
  | b :: bs => do (← s.read b).readAll bs

/-- Ends the file, checking what the header declared. -/
def finish (s : State) : Except DimacsError Dimacs := do
  let s ← match s.mode with
    | .header bytes => s.endHeader bytes
    | _ => .ok s
  let s := s.endNumeral
  if !s.clause.isEmpty then throw (.unterminated s.line)
  let clauses := s.clauses.reverse
  match s.header with
  | none => return ⟨Cnf.varCount clauses, clauses⟩
  | some (declared, count) =>
      let actual := max declared (Cnf.varCount clauses)
      if actual ≠ declared then throw (.varCount actual declared)
      if clauses.length ≠ count then throw (.clauseCount clauses.length count)
      return ⟨actual, clauses⟩

end State

/-- Reads a whole file. -/
def ofBytes (bytes : List UInt8) : Except DimacsError Dimacs := do
  (← State.start.readAll bytes).finish

end Dimacs

end GuardedCnf
