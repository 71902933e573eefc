import GuardedCnf.Script.Running
import GuardedCnf.Utility.Arguments
import GuardedCnf.Utility.Awk.Run
import GuardedCnf.Utility.Columns
import GuardedCnf.Utility.Comparison
import GuardedCnf.Utility.Copying
import GuardedCnf.Utility.Counting
import GuardedCnf.Utility.Difference.Run
import GuardedCnf.Utility.Dump
import GuardedCnf.Utility.Expr
import GuardedCnf.Utility.Files
import GuardedCnf.Utility.Find
import GuardedCnf.Utility.Grep.Run
import GuardedCnf.Utility.Portion
import GuardedCnf.Utility.Numbering
import GuardedCnf.Utility.Pairing
import GuardedCnf.Utility.Repeats
import GuardedCnf.Utility.Reversal
import GuardedCnf.Utility.Saying
import GuardedCnf.Utility.Sed.Run
import GuardedCnf.Utility.Sequence
import GuardedCnf.Utility.Sorting
import GuardedCnf.Utility.Starting
import GuardedCnf.Utility.System
import GuardedCnf.Utility.Tabs
import GuardedCnf.Utility.Translation
/-! # Processes that become programs

    A process runs a program of the system, a script, or a shell. -/

namespace GuardedCnf.Script

open Utility

/-! ## Shells. -/

/-- The variables of a shell at its beginning, whatever its surroundings are. -/
def Shell.ownVars (s : Shell) (extended : Bool) : List (String × String) :=
  [("IFS", " \t\n"), ("OPTIND", "1"), ("PPID", toString (s.pid - 1)), ("PS4", "+ ")]
  ++ if extended then
    [("BASH", "/usr/bin/bash"), ("BASH_VERSION", "5.2.15(1)-release"), ("BASH_SUBSHELL", "0"),
      ("EUID", "0"), ("UID", "0"), ("HOSTTYPE", "x86_64"), ("MACHTYPE", "x86_64-pc-linux-gnu"),
      ("OSTYPE", "linux-gnu"), ("OPTERR", "1")]
  else [("PS1", "# "), ("PS2", "> ")]

/-- A shell at its beginning, which gets the variables of its surroundings. -/
def Shell.fresh (s : Shell) (name : String) : Shell :=
  let extended := name.endsWith "bash"
  let own : List Variable := (s.ownVars extended).map fun (name, value) => .plain name (some value)
  let level := ((s.value? "SHLVL").bind String.toNat?).getD 0
  let levels : List Variable :=
    if extended then [{ Variable.plain "SHLVL" (some (toString (level + 1))) with exported := true }] else []
  let version : Variable := (Variable.plain "BASH_VERSINFO" none).withItems .listed
    [("0", "5"), ("1", "2"), ("2", "15"), ("3", "1"), ("4", "release"), ("5", "x86_64-pc-linux-gnu")]
  let own := own ++ levels ++ if extended then [version] else []
  let given := s.vars.filter fun v => v.exported && !own.any (·.name = v.name)
  let path : List Variable := if given.any (·.name = "PATH") then []
    else [.plain "PATH" (some standardPath)]
  { s with
    scriptPid := s.pid
    vars := given ++ path ++ own
    title := name
    params := []
    functions := []
    texts := #[]
    options := []
    extended := extended
    choices := []
    isText := false
    source := none
    part := none
    readTo := 1
    running := []
    pipeCodes := [0]
    lastWord := name
    traps := s.traps.filter (·.2 = "")
    status := 0
    outputStatus := 0
    line := 0
    command := none
    jobs := []
    lastJob := none
    loops := 0
    calls := 0
    locals := []
    optionIndex := 1
    optionOffset := 0 }

/-- What a shell is asked to run. -/
structure Invocation where
  /-- Whether the first operand is a script. -/
  isText : Bool
  /-- Whether the script comes from the standard input. -/
  isInput : Bool
  operands : List String

/-- Reads the arguments of a shell, and sets its options. -/
def readInvocation : Nat → List String → Step Invocation
  | 0, args => return ⟨false, false, args⟩
  | _, [] => return ⟨false, false, []⟩
  | fuel + 1, arg :: args => do
      let letters (on : Bool) (cs : List Char) : Step Invocation := do
        for c in cs do
          if c != 'c' && c != 'l' && c != 'o' then Builtin.setOption on c
        let args ← match cs.contains 'o', args with
          | true, name :: args => do
              Builtin.setNamed on name
              pure args
          | _, args => pure args
        let rest ← readInvocation fuel args
        return ⟨rest.isText || cs.contains 'c', rest.isInput || cs.contains 's', rest.operands⟩
      match arg.toList with
      | ['-'] | ['-', '-'] => return ⟨false, false, args⟩
      | '-' :: '-' :: _ =>
          if (← get).extended then readInvocation fuel args else abort ("Illegal option --")
      | '-' :: cs => letters true cs
      | '+' :: cs => letters false cs
      | _ => return ⟨false, false, arg :: args⟩

/-- The text of a script in a file; a folder is an empty script. -/
def scriptText (path : String) : Step String := do
  match ← readPath path with
  | .ok text => return text
  | .error .isDirectory => return ""
  | .error e =>
      if (← get).extended then
        report ((← get).title ++ ": " ++ path ++ ": " ++ cause e ++ "\n")
        setStatus 127
        throw .failure
      else
        abort ("cannot open " ++ path ++ ": "
          ++ match e with
            | .notFound | .notDirectory => "No such file"
            | e => cause e)

/-- Runs a shell in this process. -/
def runShell (run : Run) (name : String) : Utility := fun args => do
  modify (·.fresh name)
  let given := ((← get).value? "PWD").getD ""
  modify fun s => { s with path := given }
  let path ← if given.startsWith "/" then Builtin.currentPath else Builtin.physicalPath
  modify fun s => ({ s with path := path }).change "PWD" fun v => { v with value := some path, exported := true }
  toEnd run do
    let invocation ← readInvocation (args.length + 1) args
    let named (words : List String) : Step Unit := modify fun s =>
      { s with title := words.headD s.title, params := words.drop 1 }
    match invocation.isText, invocation.isInput, invocation.operands with
    | true, _, [] => do
        if (← get).extended then
          report ((← get).title ++ ": -c: option requires an argument\n")
          setStatus 2
          throw .failure
        abort "-c requires an argument"
    | true, _, text :: words => do
        named words
        modify fun s => { s with isText := true, part := some "-c" }
        runText run text
    | false, false, path :: params => do
        let text ← scriptText path
        named (path :: params)
        runScript run text
    | false, _, params => do
        modify fun s => { s with params := params }
        Builtin.setOption true 's'
        runScript run ((← readStream 0).toOption.getD "")
  return (← get).status

/-! ## Programs. -/

/-- The programs of the system, given how shells run commands and how programs
    are started. -/
def programs (run : Run) (spawn : Spawn) : List (String × Utility) :=
  [("sh", runShell run "sh"), ("dash", runShell run "dash"), ("bash", runShell run "bash"),
    ("cat", cat), ("tee", tee), ("yes", yes), ("head", head), ("tail", tail), ("wc", wc),
    ("sort", sort), ("uniq", uniq), ("tac", tac), ("rev", rev), ("nl", nl), ("fold", fold),
    ("comm", comm), ("join", join), ("cut", cut), ("paste", paste), ("tr", translate), ("seq", seq),
    ("touch", touch), ("mkdir", mkdir), ("rmdir", rmdir), ("rm", rm), ("mktemp", mktemp), ("cp", cp),
    ("mv", mv), ("ln", ln), ("chmod", chmod), ("ls", ls), ("basename", basename),
    ("dirname", dirname), ("cmp", cmp), ("readlink", readlink), ("realpath", realpath), ("stat", stat), ("find", findFiles spawn),
    ("diff", diff), ("od", od), ("expand", expand), ("unexpand", unexpand), ("dd", dd),
    ("grep", grep false false), ("egrep", grep true false), ("fgrep", grep false true), ("sed", sed spawn),
    ("awk", awk spawn), ("mawk", awk spawn), ("expr", expr), ("sleep", sleep), ("timeout", timeout spawn), ("env", env spawn), ("printenv", printenv),
    ("xargs", xargs spawn), ("which", which), 
    ("nohup", passOn "nohup" "failed to run command " (.of "" "" []) spawn),
    ("nice", passOn "nice" "" (.of "" "n" []) spawn),
    ("setsid", passOn "setsid" "failed to execute " (.of "w" "" []) spawn),
    ("stdbuf", passOn "stdbuf" "failed to run command " (.of "" "ioe" []) spawn)]
  ++ sayings ++ systemPrograms

/-- The names of the programs. -/
def programNames : List String :=
  (programs (fun _ _ => return ()) fun _ => throw .late).map (·.1)

/-- The interpreter that a script names, and its argument. -/
def interpreter? (text : String) : Option (List String) :=
  match text.toList with
  | '#' :: '!' :: cs =>
      let isBlank (c : Char) : Bool := c = ' ' || c = '\t'
      let trimmed (cs : List Char) : List Char :=
        ((cs.dropWhile isBlank).reverse.dropWhile isBlank).reverse
      let line := trimmed (cs.takeWhile (· != '\n'))
      let path := line.takeWhile (!isBlank ·)
      let argument := trimmed (line.drop path.length)
      some (String.ofList path :: if argument.isEmpty then [] else [String.ofList argument])
  | _ => none

/-- Runs a program in this process, by its path and its words: its name and its
    arguments. -/
def become (run : Run) : Nat → String → List String → Step (Except FileError Unit)
  | 0, _, _ => return .error .tooManyLinks
  | fuel + 1, path, words => do
      let spawn : Spawn := fun words => do
        match ← searchAnyway (words.headD "") with
        | .error e => return .error e
        | .ok path =>
            match ← locate path with
            | .error e => return .error e
            | .ok _ =>
                return .ok (← tryFork do
                  match ← become run fuel path words with
                  | .ok () => return ()
                  | .error e => setStatus (runningStatus e))
      match ← locate path with
      | .error e => return .error e
      | .ok (.utility name) =>
          match (programs run spawn).lookup name with
          | some program => do
              let program := if ["sh", "dash", "bash"].contains name then
                runShell run (words.headD name) else program
              modify fun s => { s with title := words.headD name }
              setStatus (← program (words.drop 1))
              return .ok ()
          | none => return .error .notFound
      | .ok (.script text) =>
          match interpreter? text with
          | some command => become run fuel (command.headD "") (command ++ path :: words.drop 1)
          | none => do
              setStatus (← runShell run "sh" (path :: words.drop 1))
              return .ok ()

/-- How many programs one process can become one after the other. -/
def manyPrograms : Nat := 100

end GuardedCnf.Script
