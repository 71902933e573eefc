import GuardedCnf.Script.Lookup
import GuardedCnf.Script.Printing
import GuardedCnf.Utility.Basic
/-! # Programs that wait or start other programs -/

namespace GuardedCnf.Utility

open Script

/-! ## Time. -/

/-- The microseconds that a text asks for: a number, with a unit at its end. -/
def duration? (text : String) : Option (Option Nat) :=
  if ["inf", "infinity"].contains text then some none
  else match Printing.leadingFloat text.toList with
    | (some x, rest) =>
        let unit : Option Float := match rest with
          | [] | ['s'] => some 1.0
          | ['m'] => some 60.0
          | ['h'] => some 3600.0
          | ['d'] => some 86400.0
          | _ => none
        match unit with
        | some u => if x < 0.0 || text.startsWith "-" then none else some (some (x * u * 1000000.0).toUInt64.toNat)
        | none => none
    | (none, _) => none

/-- Lets time pass that arguments ask for. -/
def sleep : Utility := fun args => do
  let operands := if args.head? = some "--" then args.drop 1 else args
  match operands.find? fun o => 1 < o.length && o.startsWith "-" with
  | some o => refuseArgs "sleep" 1 (.unknown (o.toList.getD 1 '-'))
  | none =>
      if operands.isEmpty then missingOperand "sleep" 1
      else
        let wrong := operands.filter fun o => (duration? o).isNone
        for o in wrong do warn "sleep" ("invalid time interval " ++ inQuotes o)
        if !wrong.isEmpty then
          suggestHelp "sleep"
          return 1
        else
          for o in operands do
            match duration? o with
            | some (some t) => spend t
            | _ => throw .late
          return 0

/-! ## Starting programs. -/

/-- The exit code of a program that was started, or a message why it was not. -/
def statusOfStart (name command : String) : Except FileError Ending → Step Nat
  | .ok ending => return ending.code
  | .error e => do
      warn name ("failed to run command " ++ inQuotes command ++ ": " ++ cause e)
      return runningStatus e

/-- Runs a program for a limited time. -/
def timeout (spawn : Spawn) : Utility := fun args => do
  let accepted : Accepted := .of "vf" "ks" [("kill-after", 'k'), ("signal", 's'),
    ("preserve-status", 'p'), ("foreground", 'f'), ("verbose", 'v')]
  match accepted.read false (args.length + 1) args with
  | .error e => refuseArgs "timeout" 125 e
  | .ok a =>
      match a.operands with
      | limit :: command :: rest =>
          match duration? limit with
          | none => do
              warn "timeout" ("invalid time interval " ++ inQuotes limit)
              suggestHelp "timeout"
              return 125
          | some limit => do
              let before ← get
              let start := before.machine.time
              match limit with
              | some limit =>
                  if limit = 0 then statusOfStart "timeout" command ((← spawn (command :: rest)).map (·.getD (.exited 0)))
                  else
                    let ending ← spawn (command :: rest)
                    let deadline := start + limit
                    let ended : Option Ending := match ending with
                      | .ok ending => ending
                      | .error _ => some (.exited 0)
                    if ended.isNone || deadline < (← get).machine.time then
                      modify fun s => { s with
                        machine.time := deadline
                        machine.budget := max s.machine.budget (before.machine.budget / 2)
                        machine.holders := before.machine.holders
                        machine.records := s.machine.records.filter fun r => r.time ≤ deadline }
                      spend 0
                      let killed := a.value? 's' = some "KILL" || a.value? 's' = some "9"
                      if killed then
                        if a.has 'f' then return 137 else throw (.killed 9)
                      else return 124
                    else statusOfStart "timeout" command (ending.map (·.getD (.exited 0)))
              | none => statusOfStart "timeout" command ((← spawn (command :: rest)).map (·.getD (.exited 0)))
      | _ => do
          suggestHelp "timeout"
          return 125

/-- Runs a program that operands name, given what comes before the name in a
    message that it does not run. -/
def passOn (name wording : String) (a : Accepted) (spawn : Spawn) : Utility := fun args => do
  match a.read false (args.length + 1) args with
  | .error e => refuseArgs name 125 e
  | .ok a =>
      match a.operands with
      | [] => if name = "nice" then output name "0\n" 0 else missingOperand name 125
      | command :: rest =>
          match ← spawn (command :: rest) with
          | .ok none => throw .late
          | .ok (some ending) => return ending.code
          | .error e => do
              warn name (wording ++ (if name = "setsid" then command else inQuotes command) ++ ": " ++ cause e)
              return runningStatus e

/-- Runs a program with other variables, or shows the variables. -/
def env (spawn : Spawn) : Utility := fun args => do
  match ((.of "i0v" "uC" [("ignore-environment", 'i'), ("null", '0'), ("unset", 'u'), ("chdir", 'C')])
      : Accepted).read false (args.length + 1) (if args.head? = some "-" then "-i" :: args.drop 1 else args) with
  | .error e => refuseArgs "env" 125 e
  | .ok a => do
      let isSetting (arg : String) : Bool := arg.toList.contains '=' && !arg.startsWith "="
      let settings := a.operands.takeWhile isSetting
      if a.has 'i' then modify fun s => { s with vars := [] }
      for name in a.values 'u' do
        modify fun s => { s with vars := s.vars.filter (·.name != name) }
      for arg in settings do
        let name := String.ofList (arg.toList.takeWhile (· != '='))
        let value := String.ofList (arg.toList.drop (name.length + 1))
        modify fun s => s.change name fun v => { v with value := some value, exported := true }
      match a.operands.drop settings.length with
      | [] =>
          let lines := (← get).vars.filterMap fun v =>
            if v.exported then v.value.map fun value => v.name ++ "=" ++ value ++ "\n" else none
          output "env" (String.join lines.reverse) 0
      | command :: rest =>
          match ← spawn (command :: rest) with
          | .ok none => throw .late
          | .ok (some ending) => return ending.code
          | .error e => do
              warn "env" (inQuotes command ++ ": " ++ cause e)
              return runningStatus e

/-- Shows the values of variables. -/
def printenv : Utility := fun args => do
  let vars := (← get).vars.filter (·.exported)
  if args.isEmpty then
    output "printenv" (String.join (vars.reverse.filterMap fun v =>
      v.value.map fun value => v.name ++ "=" ++ value ++ "\n")) 0
  else
    let values := args.map fun name => (vars.find? (·.name = name)).bind (·.value)
    output "printenv" (unlines (values.filterMap id)) (if values.all Option.isSome then 0 else 1)

/-! ## Looking up. -/

/-- Shows the paths of programs. -/
def which : Utility := fun args => do
  let mut status := 0
  for name in args.filter (!·.startsWith "-") do
    match ← search name with
    | .ok path =>
        match ← locate path with
        | .ok _ => discard <| output "which" (path ++ "\n") 0
        | .error _ => status := 1
    | .error _ => status := 1
  return if args.isEmpty then 1 else status

end GuardedCnf.Utility
