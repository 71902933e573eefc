import GuardedCnf.Calendar
import GuardedCnf.Run
/-! # The program — from the arguments of a process to its exit code

    Around a run the program reads the command line, limits the time, writes the
    statistics file, which is created first and written last, and shows an
    error with its causes. -/

namespace GuardedCnf.Program

/-- The exit code when no time is left. -/
def exitTimeout : UInt32 := 42

/-- The exit code when the time limit is no duration, or ends outside of the
    calendar. -/
def exitUnlimited : UInt32 := 101

/-- Indents the lines of a text after the first. -/
def indentRest (blanks : String) (text : String) : String :=
  String.join (text.toList.map fun c => if c = '\n' then "\n" ++ blanks else String.singleton c)

/-- The numbered causes of an error, from `i`. -/
def numberedCauses (i : Nat) : List String → String
  | [] => ""
  | cause :: rest =>
      let number := toString i
      String.ofList (List.replicate (5 - number.length) ' ') ++ number ++ ": "
        ++ indentRest "       " cause ++ "\n" ++ numberedCauses (i + 1) rest

/-- How an error is shown: its outermost part, and its causes below. -/
def errorText : List String → String
  | [] => ""
  | [message] => s!"Error: {message}\n"
  | [message, cause] =>
      s!"Error: {message}\n\nCaused by:\n    " ++ indentRest "    " cause ++ "\n"
  | message :: causes => s!"Error: {message}\n\nCaused by:\n" ++ numberedCauses 0 causes

/-- How the program is used. -/
def usage : String :=
  "usage: guarded-cnf INPUT [-F FORMAT] [-g encode|check|solve|count] [-o FILE] [-j FILE]\n"
    ++ "  [-n CONJUNCT...] [-f CONJUNCT...] [--solver COMMAND] [--solver-arg ARG]\n"
    ++ "  [--counter COMMAND] [--counter-arg ARG] [-T MILLISECONDS] [-d] [--stats FILE]\n"

/-- The events at the end of a run. -/
def endEvents (elapsed : Nat) (timedOut : Bool) : List Event :=
  [.single "wall_time_ms" (.integer elapsed), .single "timeout" (.flag timedOut)]

/-- Whether a run ended because no time was left. -/
def isTimeout {α : Type} : Except Stop α → Bool
  | .error .outOfTime => true
  | _ => false

/-- Runs, and gives the exit code, the text of the statistics and the error to
    show. -/
def runCollecting (o : Options) : Session (UInt32 × Option String × Option String) := do
  let start ← Session.request .clock
  let (result, collector) ← (ExceptT.run (Run.ofOptions .standard o)).collect .empty
  let stop ← Session.request .clock
  let ending := endEvents (stop - start) (isTimeout result)
  let (_, text) := (ending.foldl Collector.observe collector).dump
  return match result with
  | .ok _ => (0, text, none)
  | .error .outOfTime => (exitTimeout, text, none)
  | .error (.failed e) => (1, text, some (errorText e.messages))

/-- Creates the statistics file, if one is named. -/
def createStatistics (o : Options) : Session (Except FileError (Option OpenFile)) := do
  match o.stats with
  | none => return .ok none
  | some path => return (← Session.request (.create path)).map some

/-- Writes the statistics file, if there is one. -/
def writeStatistics (file : Option OpenFile) (text : Option String) : Session Unit := do
  match file, text with
  | some file, some text => discard <| Session.request (.write file text)
  | _, _ => pure ()

/-- Limits the time, if a limit is named; `false` if the calendar does not reach
    so far. -/
def limitTime (o : Options) : Session Bool := do
  match o.timeout with
  | none => return true
  | some ms =>
      let reached := Calendar.reaches (← Session.request .date) ms
      if reached then Session.request (.limit ms)
      return reached

/-- Tells that the time cannot be limited. -/
def refuseLimit : Session UInt32 := do
  Session.request (.report "the time limit is out of range\n")
  return exitUnlimited

/-- Runs with options. -/
def runOptions (o : Options) : Session UInt32 := do
  match ← createStatistics o with
  | .error e => do
      let context := "cannot open " ++ o.stats.getD "" ++ " for writing stats"
      Session.request (.report (errorText [context, e.message]))
      return 1
  | .ok file => do
      if !(← limitTime o) then return ← refuseLimit
      let (code, statistics, error) ← runCollecting o
      writeStatistics file statistics
      match error with
      | some text => Session.request (.report text)
      | none => pure ()
      return code

/-- Runs the program on the arguments of a process. -/
def ofArguments (args : List String) : Session UInt32 := do
  match Options.ofArguments args with
  | .ok o => runOptions o
  | .error .helpWanted => do
      Session.request (.print usage)
      return 0
  | .error .versionWanted => do
      Session.request (.print "guarded-cnf\n")
      return 0
  | .error .noDuration => refuseLimit
  | .error _ => do
      Session.request (.report usage)
      return 1

end GuardedCnf.Program
