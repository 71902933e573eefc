import GuardedCnf.FileError
import GuardedCnf.Text.Blank
import GuardedCnf.Text.Decimal
import GuardedCnf.Text.Lines
import GuardedCnf.Text.Quoted
/-! # What a model counter reports

    A count stands after `s mc`, after `s` alone, in a line of the form
    `c s exact arb int`, or alone on a line after the line `# solutions`.  All
    counts of a report are equal.  A counter that only says `s UNSATISFIABLE`
    counted none. -/

namespace GuardedCnf

/-- Why a report is not accepted.  Lines are counted from 1. -/
inductive CountError where
  /-- A line is no UTF-8. -/
  | notText
  /-- A count is no number. -/
  | count (i : Nat) (word : String) (e : Text.NumberError)
  /-- Two counts differ. -/
  | differ (first second : Nat)
  /-- There are models of an unsatisfiable formula. -/
  | contradiction (count : Nat)
  /-- There is no count. -/
  | noCount

/-- The wording of a failure, the outermost part first. -/
def CountError.messages : CountError → List String
  | .notText => ["reading counter output", FileError.notText.message]
  | .count i word e =>
      [s!"line {i} of counter output: bad count " ++ Text.quoted word, e.message]
  | .differ a b => [s!"counter reported two counts: {a} and {b}"]
  | .contradiction n => [s!"counter answered UNSATISFIABLE and {n} models"]
  | .noCount => ["counter gave no model count"]

namespace Count

/-- What the lines so far say. -/
structure Progress where
  count : Option Nat
  /-- Whether the formula was called unsatisfiable. -/
  unsatisfiable : Bool
  /-- Whether a word alone on a line is a count. -/
  announced : Bool

/-- What a line says. -/
inductive Line where
  | unsatisfiable
  | announcement
  | count (word : String)
  /-- A word alone, a count if one was announced. -/
  | single (word : String)
  | other

/-- What the words of a line say. -/
def Line.ofWords : List String → Line
  | ["s", "UNSATISFIABLE"] => .unsatisfiable
  | ["s", "SATISFIABLE"] => .other
  | ["#", "solutions"] => .announcement
  | ["s", "mc", n] => .count n
  | ["s", n] => .count n
  | ["c", "s", "exact", _, "int", n] => .count n
  | [n] => .single n
  | _ => .other

/-- Takes the count on line `i`. -/
def take (i : Nat) (p : Progress) (word : String) : Except CountError Progress :=
  match Text.readNatural word with
  | .error e => .error (.count i word e)
  | .ok n =>
      match p.count with
      | none => .ok { p with count := some n }
      | some m => if m = n then .ok p else .error (.differ m n)

/-- Reads line `i`. -/
def readLine (i : Nat) (p : Progress) (line : String) : Except CountError Progress :=
  match Line.ofWords (Text.wordsOf line) with
  | .unsatisfiable => .ok { p with unsatisfiable := true }
  | .announcement => .ok { p with announced := true }
  | .count word => take i p word
  | .single word => if p.announced then take i { p with announced := false } word else .ok p
  | .other => .ok p

/-- Reads lines, counting them from `i`. -/
def readLines (i : Nat) (p : Progress) : List (Option String) → Except CountError Progress
  | [] => .ok p
  | none :: _ => .error .notText
  | some line :: rest => do readLines (i + 1) (← readLine i p line) rest

/-- The count in the lines of a report. -/
def ofLines (lines : List (Option String)) : Except CountError Nat := do
  let p ← readLines 1 ⟨none, false, false⟩ lines
  match p.count with
  | some n => if p.unsatisfiable && n != 0 then throw (.contradiction n) else return n
  | none => if p.unsatisfiable then return 0 else throw .noCount

/-- The count in the bytes of a report. -/
def ofBytes (bytes : List UInt8) : Except CountError Nat := ofLines (Text.textLines bytes)

end Count

end GuardedCnf
