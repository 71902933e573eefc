import GuardedCnf.Script.Reader
import GuardedCnf.Script.Shell
/-! # Running texts — lines, signals and subshells

    A text is read and run line by line.  A shell that ends, or gets a signal,
    runs the action that is set for that. -/

namespace GuardedCnf.Script

/-- Tells why a script cannot be read, where `text` is what was left of it at a line,
    and fails. -/
def tellMisreading (text : List Char) (line : Nat) (e : ScriptError) : Step Unit := do
  let s ← get
  if s.extended then
    let isOpen := match e.sequel with
      | .finish => text.getLast? != some '\n'
      | _ => false
    let number := if isOpen then e.line + 1 else e.line
    let lead := s.source.getD s.title ++ (s.part.map (": " ++ ·)).getD "" ++ ": line " ++ toString number ++ ": "
    let shown : List String := match e.sequel with
      | .line => ["\x60" ++ (((String.ofList text).splitOn "\n")[e.line - line]?).getD "" ++ "'"]
      | _ => []
    report (String.join ((e.messages ++ shown).map fun message => lead ++ message ++ "\n"))
    setStatus 2
    throw .failure
  else
    modify fun s => { s with line := e.line }
    abort (", ".intercalate e.messages)

/-- Runs the lines of a text, which may be `shown` before they run. -/
def runLines (run : Run) (shown : Bool) : Nat → Reader → Step Unit
  | 0, _ => throw .late
  | fuel + 1, r => do
      let result := Reader.readLine.run { r with texts := (← get).texts }
      if shown && (← get).has 'v' then
        let left := match result with
          | .error _ after | .ok _ after => after.rest.length
        report (String.ofList (r.rest.take (r.rest.length - left)))
      match result with
      | .error e _ => tellMisreading r.rest r.line e
      | .ok none _ => return ()
      | .ok (some command) r => do
          modify fun s => { s with texts := r.texts, readTo := if s.extended then r.lastLine else r.line }
          match command with
          | some c =>
              tryCatch (run ⟨false, false⟩ c) fun
                | .discard => return ()
                | jump => throw jump
          | none => pure ()
          runLines run shown fuel r

/-- Runs a text that begins at a line. -/
def runTextAt (run : Run) (line : Nat) (text : String) : Step Unit := do
  let s ← get
  runLines run false manySteps (.start s.extended text line s.texts)
  modify fun t => { t with readTo := s.readTo }

/-- Runs a text. -/
def runText (run : Run) (text : String) : Step Unit := runTextAt run 1 text

/-- Runs the text of a script. -/
def runScript (run : Run) (text : String) : Step Unit := do
  runLines run true manySteps (.start (← get).extended text 1 (← get).texts)

/-! ## Signals. -/

/-- The names of signals, from 1 on. -/
def signalNames : List String :=
  ["HUP", "INT", "QUIT", "ILL", "TRAP", "ABRT", "BUS", "FPE", "KILL", "USR1", "SEGV", "USR2", "PIPE",
    "ALRM", "TERM", "16", "CHLD", "CONT", "STOP", "TSTP", "TTIN", "TTOU", "URG", "XCPU", "XFSZ",
    "VTALRM", "PROF", "WINCH", "IO", "PWR", "SYS", "32", "33", "RTMIN"]
  ++ (List.range' 1 15).map (fun n => "RTMIN+" ++ toString n)
  ++ (List.range' 1 14).reverse.map (fun n => "RTMAX-" ++ toString n)
  ++ ["RTMAX"]

/-- The largest signal. -/
def lastSignal : Nat := 64

/-- The number of a signal, from its number or name. -/
def signalNumber? (text : String) : Option Nat :=
  if text = "EXIT" then some 0
  else match text.toNat? with
    | some n => if n ≤ lastSignal && text.all Char.isDigit then some n else none
    | none => (signalNames.idxOf? text.toUpper).map (· + 1)

/-- The number of what happens when a command fails, which actions can be set for. -/
def failureSignal : Nat := 65

/-- The number of a signal in the extended dialect, where there are longer names. -/
def signalIn? (text : String) : Option Nat :=
  let name := text.toUpper
  if name = "ERR" then some failureSignal
  else if name = "DEBUG" || name = "RETURN" then some (failureSignal + 1)
  else signalNumber? (if name.startsWith "SIG" then String.ofList (name.toList.drop 3) else name)

/-- The number of a signal in the dialect of a shell. -/
def Shell.signalNumber? (s : Shell) (text : String) : Option Nat :=
  if s.extended then signalIn? text else Script.signalNumber? text

/-- The signals that do nothing unless an action is set. -/
def harmlessSignals : List Nat := [17, 18, 23, 28]

/-- The signals for which no action can be set. -/
def finalSignals : List Nat := [9, 19]

/-- Runs the action for a signal. -/
def actOn (run : Run) (signal : Nat) : Step Unit := do
  let action := (← get).traps.lookup signal
  match if finalSignals.contains signal then none else action with
  | none => if !harmlessSignals.contains signal then throw (.killed signal)
  | some "" => return ()
  | some action => do
      let before ← get
      runText run action
      modify fun s => { s with status := before.status, line := before.line }

/-- Notices the signals that were sent to this process. -/
def notice (run : Run) : Step Unit := do
  let s ← get
  let mine := s.machine.signals.filter (·.1 = s.pid)
  if !mine.isEmpty then
    modify fun s =>
      { s with machine.signals := s.machine.signals.filter (·.1 != s.pid) }
    for (_, signal) in mine do actOn run signal

/-! ## Processes that end. -/

/-- The words for signals. -/
def signalWords : List (Nat × String) :=
  [(1, "Hangup"), (3, "Quit"), (4, "Illegal instruction"), (5, "Trace/breakpoint trap"),
    (6, "Aborted"), (7, "Bus error"), (8, "Floating point exception"), (9, "Killed"),
    (10, "User defined signal 1"), (11, "Segmentation fault"), (12, "User defined signal 2"),
    (14, "Alarm clock"), (15, "Terminated"), (16, "Stack fault"), (17, "Child exited"),
    (18, "Continued"), (19, "Stopped (signal)"), (20, "Stopped"), (21, "Stopped (tty input)"),
    (22, "Stopped (tty output)"), (23, "Urgent I/O condition"), (24, "CPU time limit exceeded"),
    (25, "File size limit exceeded"), (26, "Virtual timer expired"),
    (27, "Profiling timer expired"), (28, "Window changed"), (29, "I/O possible"),
    (30, "Power failure"), (31, "Bad system call")]

/-- The words for a signal. -/
def signalWord (signal : Nat) : String :=
  match signalWords.lookup signal with
  | some word => word
  | none => if 34 ≤ signal then "Real-time signal " ++ toString (signal - 34)
      else "Unknown signal " ++ toString signal

/-- Tells that a signal ended a process, unless that is usual. -/
def tellEnding (ending : Ending) : Step Unit := do
  match ending with
  | .killed signal => do
      let isSilent := signal = 2 || signal = signalPipe || (signal = 15 && (← get).extended)
      if !isSilent then report (signalWord signal ++ "\n")
  | .exited _ => return ()

/-! ## Ends of shells. -/

/-- Runs a shell to its end, with the action that is set for it. -/
def toEnd (run : Run) (x : Step Unit) : Step Unit := do
  let passOn : Jump → Step Unit
    | .killed signal => throw (.killed signal)
    | .late => throw .late
    | _ => return ()
  tryCatch x passOn
  let s ← get
  match s.traps.lookup 0 with
  | some action => do
      modify fun s => { s with traps := s.traps.filter (·.1 != 0), command := none }
      let ended ← tryCatch (do runText run action; return false) fun jump => do
        passOn jump
        return true
      if !ended then setStatus s.status
  | none => return ()

/-- Runs steps in a subshell, and tells how it ended.  Only the signals that are
    ignored stay so. -/
def subshell (run : Run) (x : Step Unit) : Step Ending :=
  fork <| toEnd run do
    modify fun s => { s with
      traps := s.traps.filter (·.2 = "")
      jobs := []
      loops := 0 }
    x

/-- The output of commands, and how they ended. -/
def capture (run : Run) (x : Step Unit) : Step (String × Ending) := do
  let (reader, writer) ← onHost fun h =>
    let (reader, writer, h) := h.openPipe
    ((reader, writer), h)
  let ending ← subshell run do
    setStream 1 (some writer)
    x
  return ((← readOpening reader none).toOption.getD "", ending)

end GuardedCnf.Script
