import GuardedCnf.FileError
import GuardedCnf.Model
import GuardedCnf.Text.Blank
import GuardedCnf.Text.Decimal
import GuardedCnf.Text.Lines
import GuardedCnf.Text.Quoted
/-! # What a solver reports

    A solver prints a status line, `s SATISFIABLE` or `s UNSATISFIABLE`, and for
    a satisfiable formula lines that begin with `v` and list literals up to a 0.
    Without a status line the exit code decides: 10 for satisfiable, 20 for
    unsatisfiable.  Other lines have no meaning. -/

namespace GuardedCnf

/-- The answer to a satisfiability check. -/
inductive Verdict where
  | satisfiable (m : Model)
  | unsatisfiable

/-- The model of an answer. -/
def Verdict.model? : Verdict → Option Model
  | .satisfiable m => some m
  | .unsatisfiable => none

/-- The exit code for a satisfiable formula. -/
def exitSatisfiable : Int := 10

/-- The exit code for an unsatisfiable formula. -/
def exitUnsatisfiable : Int := 20

/-- The written form of a value that may be missing. -/
def optionText : Option Int → String
  | none => "None"
  | some n => s!"Some({n})"

/-- Why a report is not accepted.  Lines are counted from 1. -/
inductive ReportError where
  /-- A line is no UTF-8. -/
  | notText
  /-- A status line has another status. -/
  | status (line : String)
  /-- A word of the model is no number. -/
  | literal (i : Nat) (word : String) (e : Text.NumberError)
  /-- A literal comes after the end of the model. -/
  | afterEnd (i : Nat) (n : Int)
  /-- A literal is on a variable that the formula does not have. -/
  | outOfRange (i : Nat) (n : Int) (varCount : Nat)
  /-- The status line and the exit code disagree. -/
  | contradiction (code : Option Int)
  /-- There is neither a status line nor an exit code that decides. -/
  | noAnswer (code : Option Int)
  /-- The model has no end. -/
  | incomplete

/-- The wording of a failure, the outermost part first. -/
def ReportError.messages : ReportError → List String
  | .notText => ["reading solver output", FileError.notText.message]
  | .status line => ["solver answered " ++ Text.quoted line]
  | .literal i word e =>
      [s!"line {i} of solver output: bad literal " ++ Text.quoted word, e.message]
  | .afterEnd i n => [s!"line {i} of solver output: literal {n} after end of model"]
  | .outOfRange i n count =>
      [s!"line {i} of solver output: literal {n} but the formula has {count} variables"]
  | .contradiction code =>
      ["solver status line contradicts its exit code " ++ optionText code]
  | .noAnswer code => ["solver gave no answer and exit code " ++ optionText code]
  | .incomplete => ["solver answered SATISFIABLE without a complete model"]

namespace Verdict

/-- What the lines so far say. -/
structure Progress where
  /-- The last status. -/
  status : Option Bool
  /-- The literals of the model. -/
  literals : List Literal
  /-- Whether the model has ended. -/
  ended : Bool

/-- Reads words of line `i` as literals over `n` variables. -/
def readLiterals (n i : Nat) (p : Progress) : List String → Except ReportError Progress
  | [] => .ok p
  | word :: rest =>
      match Text.readInt64 word with
      | .error e => .error (.literal i word e)
      | .ok k =>
          match Literal.ofNumber? k with
          | none => readLiterals n i { p with ended := true } rest
          | some l =>
              if p.ended then .error (.afterEnd i k)
              else if n ≤ l.var then .error (.outOfRange i k n)
              else readLiterals n i { p with literals := p.literals ++ [l] } rest

/-- Reads line `i`. -/
def readLine (n i : Nat) (p : Progress) (line : String) : Except ReportError Progress :=
  match Text.wordsOf line with
  | "s" :: answer =>
      match answer with
      | ["SATISFIABLE"] => .ok { p with status := some true }
      | ["UNSATISFIABLE"] => .ok { p with status := some false }
      | _ => .error (.status line)
  | "v" :: words => readLiterals n i p words
  | _ => .ok p

/-- Reads lines, counting them from `i`. -/
def readLines (n i : Nat) (p : Progress) : List (Option String) → Except ReportError Progress
  | [] => .ok p
  | none :: _ => .error .notText
  | some line :: rest => do readLines n (i + 1) (← readLine n i p line) rest

/-- Whether a status and an exit code mean that the formula is satisfiable. -/
def decide (status : Option Bool) (code : Option Int) : Except ReportError Bool :=
  let byCode : Option Bool :=
    if code = some exitSatisfiable then some true
    else if code = some exitUnsatisfiable then some false
    else none
  match status, byCode with
  | some a, some b => if a = b then .ok a else .error (.contradiction code)
  | some a, none => .ok a
  | none, some b => .ok b
  | none, none => .error (.noAnswer code)

/-- The answer in the lines of a report on a formula of `n` variables.  Variables
    that the report does not mention are false. -/
def ofLines (lines : List (Option String)) (code : Option Int) (n : Nat) :
    Except ReportError Verdict := do
  let p ← readLines n 1 ⟨none, [], false⟩ lines
  if ← decide p.status code then
    if p.ended then return .satisfiable (Model.ofLiterals n p.literals)
    else throw .incomplete
  else return .unsatisfiable

/-- The answer in the bytes of a report. -/
def ofBytes (bytes : List UInt8) (code : Option Int) (n : Nat) : Except ReportError Verdict :=
  ofLines (Text.textLines bytes) code n

end Verdict

end GuardedCnf
