import GuardedCnf.Script.Builtin
import GuardedCnf.Utility.Basic
/-! # Programs that write their arguments, test them or send signals

    Shells have these as builtins too; the programs of their own differ in their
    options and messages. -/

namespace GuardedCnf.Utility

open Script

/-- Whether an argument is made of options of `echo`. -/
def isEchoOption (arg : String) : Bool :=
  match arg.toList with
  | '-' :: c :: cs => (c :: cs).all ['n', 'e', 'E'].contains
  | _ => false

/-- Writes arguments. -/
def echo : Utility := fun args => do
  let options := args.takeWhile isEchoOption
  let letters := options.flatMap String.toList
  let line := " ".intercalate (args.drop options.length)
  let escaped := (letters.filter fun c => c = 'e' || c = 'E').getLast? = some 'e'
  let (text, stops) := if escaped then Printing.unescapedMore false line else (line, false)
  output "echo" (if letters.contains 'n' || stops then text else text ++ "\n") 0

/-- Writes arguments in a format. -/
def printf : Utility := fun args => do
  match (if args.head? = some "--" then args.drop 1 else args) with
  | [] => missingOperand "printf" 1
  | format :: args => do
      let f := Printing.filled true format args
      for e in f.failures do
        match e with
        | .noNumber text => warn "printf" (inQuotes text ++ ": expected a numeric value")
        | .halfNumber text => warn "printf" (inQuotes text ++ ": value not completely converted")
        | .outOfRange text => warn "printf" (inQuotes text ++ ": Numerical result out of range")
        | _ => pure ()
      let status ← output "printf" f.text (if f.failures.isEmpty then 0 else 1)
      match f.failures.find? Printing.Failure.isFatal with
      | some (.directive text) => warn "printf" (text ++ ": invalid conversion specification")
      | some _ => warn "printf" "%: invalid conversion specification"
      | none =>
          match f.args with
          | arg :: _ =>
              if !f.stopped then
                warn "printf" ("warning: ignoring excess arguments, starting with " ++ inQuotes arg)
          | [] => pure ()
      return status

/-! ## Conditions. -/

/-- The words of a program for what is wrong with a condition. -/
def conditionMessage (args : List String) (e : Condition.Failure) : String :=
  match e with
  | .noNumber text => "invalid integer " ++ inQuotes text
  | .noOperand _ => "missing argument after " ++ inQuotes (args.getLast?.getD "")
  | .unclosed => "')' expected"
  | _ =>
      match args with
      | [_, last] => "missing argument after " ++ inQuotes last
      | [_, operator, _] => inQuotes operator ++ ": binary operator expected"
      | ["!", _, operator, _] => inQuotes operator ++ ": binary operator expected"
      | _ :: extra :: _ => "extra argument " ++ inQuotes extra
      | _ => e.message

/-- Tests a condition. -/
def testAs (name : String) : Utility := fun args => do
  let s ← get
  match Condition.holds (Condition.fileFact s) (Condition.filesFact s) 10 args with
  | .ok b => return if b then 0 else 1
  | .error e => do
      warn name (conditionMessage args e)
      return 2

/-- Tests a condition in brackets. -/
def bracket : Utility := fun args => do
  if args.getLast? = some "]" then testAs "[" args.dropLast
  else
    warn "[" "missing ']'"
    return 2

/-! ## Signals. -/

/-- What is wrong with the arguments of `kill`. -/
def killUsage : String :=
  "\nUsage:\n kill [options] <pid> [...]\n\nOptions:\n"
    ++ " <pid> [...]            send signal to every <pid> listed\n"
    ++ " -<signal>, -s, --signal <signal>\n"
    ++ "                        specify the <signal> to be sent\n"
    ++ " -q, --queue <value>    integer value to be sent with the signal\n"
    ++ " -l, --list=[<signal>]  list all signal names, or convert one to a name\n"
    ++ " -L, --table            list all signal names in a nice table\n\n"
    ++ " -h, --help     display this help and exit\n"
    ++ " -V, --version  output version information and exit\n\n"
    ++ "For more details see kill(1).\n"

/-- Sends a signal to processes. -/
def kill : Utility := fun args => do
  let (signal, pids) : Option Nat × List String := match args with
    | "-s" :: name :: pids => (signalNumber? name, pids)
    | "-l" :: pids => (none, pids)
    | first :: pids =>
        if first.startsWith "-" && 1 < first.length then
          let name := String.ofList (first.toList.drop 1)
          (signalNumber? (if name.startsWith "SIG" then String.ofList (name.toList.drop 3) else name), pids)
        else (some 15, args)
    | [] => (some 15, [])
  match signal, pids with
  | none, _ | _, [] => do
      report killUsage
      return 1
  | some signal, pids => do
      let mut status := 0
      for pid in pids do
        match natural? pid with
        | none => do
            warn "kill" ("failed to parse argument: " ++ inQuotes pid)
            status := 1
        | some n =>
            if !(← Builtin.send signal n) then
              warn "kill" ("(" ++ pid ++ "): No such process")
              status := 1
      return status

/-- The programs that write their arguments or test them. -/
def sayings : List (String × Utility) :=
  [("echo", echo), ("printf", printf), ("true", fun _ => return 0), ("false", fun _ => return 1),
    ("test", testAs "test"), ("[", bracket), ("kill", kill)]

end GuardedCnf.Utility
