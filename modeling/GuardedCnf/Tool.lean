import GuardedCnf.Dimacs.Writer
import GuardedCnf.FileError
import GuardedCnf.Report.Count
import GuardedCnf.Report.Verdict
import GuardedCnf.Tail
/-! # External solvers and counters

    A tool is a command that gets the name of a DIMACS file as its last
    argument.  The file holds the clauses and one unit clause for each
    assumption.  Of what the tool prints only the lines that can matter are
    kept.  A model is accepted only if it satisfies all clauses of the file. -/

namespace GuardedCnf

/-- A tool to run. -/
structure Tool where
  command : String
  /-- The arguments before the file name. -/
  args : List String

/-- How a tool ran. -/
structure ToolRun where
  output : List UInt8
  errors : List UInt8
  /-- The exit code, unless a signal ended the tool. -/
  code : Option Int
  /-- The signal that ended the tool. -/
  signal : Option Int

/-- Why a tool gives no answer, except for the wording of its report. -/
inductive ToolError where
  /-- It cannot be started. -/
  | notStarted (command : String) (e : FileError)
  /-- Its output is no UTF-8. -/
  | notText (command : String)
  /-- Its verdict is not accepted. -/
  | verdict (ending : String) (e : ReportError)
  /-- Its model does not satisfy the clauses. -/
  | wrongModel (command : String) (m : Model)
  /-- It ended with an exit code that counters do not have. -/
  | badExit (ending : String)
  /-- Its count is not accepted. -/
  | count (ending : String) (e : CountError)

/-- The wording of a failure, the outermost part first. -/
def ToolError.messages : ToolError → List String
  | .notStarted command e => [s!"failed to run {command}", e.message]
  | .notText command => [s!"reading output of {command}", FileError.notText.message]
  | .verdict ending e => ending :: e.messages
  | .wrongModel command m =>
      [s!"{command} returned a model which is not a model: " ++ m.toText]
  | .badExit ending => [ending]
  | .count ending e => ending :: e.messages

namespace Tool

/-- The DIMACS file for clauses over at least `varCount` variables under
    assumptions. -/
def input (f : Cnf) (varCount : Nat) (assumptions : List Literal) : Dimacs :=
  Dimacs.ofCnf (max varCount f.varCount) (f.withUnits assumptions)

/-- How a tool ended, for messages, with the end of its error output. -/
def ending (tool : Tool) (r : ToolRun) : String :=
  s!"{tool.command} failed with code " ++ optionText r.code ++ " signal " ++ optionText r.signal
    ++ ": " ++ (Tail.ofChunks [.data r.errors, .ended]).text

/-- The lines of output that are kept, `none` if a line is no UTF-8. -/
def keptLines (keep : String → Bool) (output : List UInt8) : Option (List String) :=
  ((Text.textLines output).mapM id).map (·.filter keep)

/-- Lines that are joined and cut again: a carriage return before the end of a
    line is lost, and so is the end of an empty last line. -/
def rejoin (lines : List String) : List (Option String) :=
  Text.textLines (Text.encode ("\n".intercalate lines))

/-- Whether a line matters for a verdict. -/
def keepForVerdict (line : String) : Bool :=
  line.startsWith "s " || line.startsWith "v " || line == "v"

/-- Whether a line matters for a count. -/
def keepForCount (line : String) : Bool :=
  !line.startsWith "c" || line.startsWith "c s "

/-- The answer of a solver that ran on clauses under assumptions. -/
def verdict (tool : Tool) (f : Cnf) (varCount : Nat) (assumptions : List Literal)
    (r : ToolRun) : Except ToolError Verdict :=
  match keptLines keepForVerdict r.output with
  | none => .error (.notText tool.command)
  | some lines =>
      match Verdict.ofLines (rejoin lines) r.code (max varCount f.varCount) with
      | .error e => .error (.verdict (tool.ending r) e)
      | .ok .unsatisfiable => .ok .unsatisfiable
      | .ok (.satisfiable m) =>
          if (f.withUnits assumptions).eval m.value then .ok (.satisfiable m)
          else .error (.wrongModel tool.command m)

/-- Whether a counter may end with an exit code. -/
def isCounterExit (code : Option Int) : Bool :=
  code == some 0 || code == some exitSatisfiable || code == some exitUnsatisfiable

/-- The answer of a counter. -/
def count (tool : Tool) (r : ToolRun) : Except ToolError Nat :=
  match keptLines keepForCount r.output with
  | none => .error (.notText tool.command)
  | some lines =>
      if isCounterExit r.code then
        (Count.ofLines (rejoin lines)).mapError (.count (tool.ending r))
      else .error (.badExit (tool.ending r))

end Tool

end GuardedCnf
