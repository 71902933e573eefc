import GuardedCnf.Script.Checking
import GuardedCnf.Script.Declaration
import GuardedCnf.Script.Process
import GuardedCnf.Script.Setting
/-! # Running commands

    The words of a simple command are expanded, then its streams are redirected,
    then its variables are set.  It is a function, a builtin or a program.  The
    commands in a compound command are run by the function that is given for
    that, so that the depth of a script is what bounds the evaluation. -/

namespace GuardedCnf.Script

/-! ## Modes. -/

namespace Mode

/-- The mode of a condition. -/
def condition : Mode := ⟨true, false⟩

/-- The mode of a command after which others come. -/
def inner (m : Mode) : Mode := { m with final := false }

/-- The mode of the last command of a process. -/
def last (m : Mode) : Mode := { m with final := true }

end Mode

/-- Whether nothing is left to do after the last command of a process. -/
def canReplace (mode : Mode) : Step Bool := return mode.final && (← get).traps.isEmpty

/-- Ends the shell at a command that fails, if that is wanted. -/
def checkStatus (mode : Mode) : Step Unit := do
  let s ← get
  if s.has 'e' && !mode.tested && s.status != 0 then throw .exit

/-! ## Processes that end. -/

/-- Takes the exit code of a process that was waited for. -/
def takeEnding (ending : Ending) : Step Unit := do
  tellEnding ending
  setStatus ending.code

/-! ## Traces. -/

/-- Shows settings and a command that is about to run, on the streams before it; in the
    extended dialect they have lines of their own. -/
def trace (streams : List (Nat × Nat)) (settings words : List String) : Step Unit := do
  let s ← get
  if s.has 'x' then
    let lines : List String :=
      if s.extended then
        settings ++ if words.isEmpty then [] else [" ".intercalate (words.map Quoting.quotedIfNeeded)]
      else [" ".intercalate (settings ++ words)]
    modify fun s => { s with streams := streams }
    for line in lines do report ((s.value? "PS4").getD "" ++ line ++ "\n")
    modify fun t => { t with streams := s.streams }

/-- Shows a part of a compound command, in the extended dialect. -/
def traceCompound (words : List String) : Step Unit := do
  let s ← get
  if s.extended && s.has 'x' then
    report ((s.value? "PS4").getD "" ++ " ".intercalate words ++ "\n")

/-! ## Builtins that run commands. -/

/-- What a name stands for as a command. -/
inductive Meaning where
  | keyword
  | function (f : Function)
  | builtin
  | program (path : String)
  | nothing (e : FileError)

/-- The names of the builtins that run commands. -/
def runningBuiltins : List String := [".", "command", "eval", "exec", "type"]

/-- The names of those that the extended dialect has besides. -/
def moreRunningBuiltins : List String := ["builtin", "source"]

/-- Whether a name is that of a builtin. -/
def Shell.hasBuiltin (s : Shell) (name : String) : Bool :=
  ((Builtin.tableFor s.extended).lookup name).isSome || runningBuiltins.contains name
    || (s.extended && moreRunningBuiltins.contains name)

/-- What a name stands for, where functions do not count if `plain`. -/
def meaning (plain : Bool) (name : String) : Step Meaning := do
  let s ← get
  match if plain then none else s.functions.find? (·.name = name) with
  | some f => return .function f
  | none =>
      if s.hasBuiltin name then return .builtin
      else match ← search name with
        | .error e => return .nothing e
        | .ok path => return .program path

/-- Whether a name is that of a program with this path. -/
def isRunnable (path : String) : Step Bool := return (← locate path).toOption.isSome

/-- The keywords of the dialect of a shell. -/
def Shell.keywords (s : Shell) : List String :=
  if s.extended then Reader.moreKeywords ++ ["]]", "time"] ++ Reader.keywords else Reader.keywords

/-- Tells what names stand for, in the extended dialect. -/
def typeExtended : Builtin := fun args => do
  let (letters, names) ← Builtin.options "afptP" args
  let short := letters.contains 't'
  let onlyPath := letters.contains 'p' || letters.contains 'P'
  let mut status := 0
  for name in names do
    let say (word sentence : String) : Step Unit := do
      if !onlyPath then discard <| Builtin.put ((if short then word else name ++ " is " ++ sentence) ++ "\n")
    if (← get).keywords.contains name then say "keyword" "a shell keyword"
    else match ← meaning false name with
      | .function _ => say "function" "a function"
      | .builtin => say "builtin" "a shell builtin"
      | .program path =>
          if ← isRunnable path then
            if onlyPath then discard <| Builtin.put (path ++ "\n") else say "file" path
          else do
            if !short then complain (name ++ ": not found")
            status := 1
      | _ => do
          if !short && !onlyPath then complain (name ++ ": not found")
          status := 1
  return status

/-- Tells what names stand for. -/
def typeOf : Builtin := fun names => do
  if (← get).extended then return (← typeExtended names)
  let mut status := 0
  for name in names do
    let isKeyword := Reader.keywords.contains name
    match ← meaning false name with
    | .function _ => if !isKeyword then discard <| Builtin.put (name ++ " is a shell function\n")
    | .builtin =>
        let kind := if Reader.specialNames.contains name then "special shell builtin" else "shell builtin"
        discard <| Builtin.put (name ++ " is a " ++ kind ++ "\n")
    | .program path =>
        if isKeyword then pure ()
        else if ← isRunnable path then discard <| Builtin.put (name ++ " is " ++ path ++ "\n")
        else do
          discard <| Builtin.put (name ++ ": not found\n")
          status := 127
    | .nothing _ => if !isKeyword then do
        discard <| Builtin.put (name ++ ": not found\n")
        status := 127
    | .keyword => pure ()
    if isKeyword then discard <| Builtin.put (name ++ " is a shell keyword\n")
  return status

/-- Tells how names are run. -/
def commandOf (long : Bool) (names : List String) : Step Nat := do
  if long then typeOf names
  else
    let s ← get
    let missing := if s.extended then 1 else 127
    let mut status := 0
    for name in names do
      if s.keywords.contains name then discard <| Builtin.put (name ++ "\n")
      else match ← meaning false name with
        | .program path =>
            if ← isRunnable path then discard <| Builtin.put (path ++ "\n") else status := missing
        | .nothing _ => status := missing
        | _ => discard <| Builtin.put (name ++ "\n")
    return status

/-- Runs the text of arguments. -/
def evalText (run : Run) : Builtin := fun args => do
  setStatus 0
  let s ← get
  if s.extended then
    modify fun s => { s with part := some "eval", command := none }
    andFinally (runTextAt run s.readTo (" ".intercalate args))
      (modify fun t => { t with part := s.part, readTo := s.readTo })
  else runText run (" ".intercalate args)
  return (← get).status

/-- The path of a file that is read as a part of a script. -/
def sourcePath (name : String) : Step String := do
  if name.toList.contains '/' then return name
  else
    let rec firstFile : List String → Step (Option String)
      | [] => return none
      | folder :: folders => do
          let path := if folder.isEmpty then name else folder ++ "/" ++ name
          if ← isFile path then return some path else firstFile folders
    match ← firstFile (← get).searchPath with
    | some path => return path
    | none =>
        if (← get).extended then return name else abort (name ++ ": not found")

/-- Runs the text of a file as a part of the script, with the shell changed for that
    and back afterwards. -/
def runPart (run : Run) (text : String) (change back : Shell → Shell) : Step Nat := do
  modify fun s => { change s with calls := s.calls + 1, loops := 0, status := 0 }
  andFinally (tryCatch (runScript run text) fun
    | .return => return ()
    | jump => throw jump) (modify back)
  return (← get).status

/-- Runs a file as a part of the script. -/
def source (run : Run) : Builtin := fun args => do
  let s ← get
  match args with
  | [] => do
      if s.extended then
        complain "filename argument required"
        Builtin.tellUsage
      return 0
  | name :: params => do
      let path ← sourcePath name
      let plainly {α : Type} (x : Step α) : Step α := do
        modify fun s => { s with command := none }
        x
      match ← readPath path with
      | .error .isDirectory => if s.extended then protest "" (name ++ ": is a directory") 1 else return 0
      | .error e =>
          if s.extended then plainly (protest "" (name ++ ": " ++ cause e) 1)
          else abort ("cannot open " ++ name ++ ": " ++ match e with
            | .notFound | .notDirectory => "No such file"
            | e => cause e)
      | .ok text =>
          if s.extended then
            runPart run text
              (fun t => { t with
                command := none
                source := some path
                part := none
                params := if params.isEmpty then t.params else params })
              (fun t => { t with
                calls := s.calls
                loops := s.loops
                source := s.source
                part := s.part
                readTo := s.readTo
                params := if params.isEmpty then t.params else s.params })
          else
            runPart run text (fun t => { t with command := some path })
              (fun t => { t with
                calls := s.calls
                loops := s.loops
                command := s.command
                readTo := s.readTo })

/-- Becomes a program, after which the shell ends. -/
def exec (run : Run) : Builtin := fun args => do
  let args := if args.head? = some "--" then args.drop 1 else args
  match args with
  | [] => return 0
  | name :: _ => do
      let failed (e : FileError) : Step Nat := do
        complain (name ++ ": " ++ runningCause e)
        setStatus (runningStatus e)
        throw .exit
      match ← search name with
      | .error e => failed e
      | .ok path =>
          let before := (← get).traps
          modify fun s => { s with traps := s.traps.filter (·.2 = "") }
          match ← become run manyPrograms path args with
          | .ok () => throw .exit
          | .error e => do
              modify fun s => { s with traps := before }
              failed e

/-- The builtin with a name. -/
def builtin? (run : Run) (name : String) : Option Builtin :=
  match name with
  | "eval" => some (evalText run)
  | "." | "source" => some (source run)
  | "exec" => some (exec run)
  | "type" => some typeOf
  | "command" => some fun args =>
      let letters := (args.head?.map String.toList).getD []
      if letters.contains 'v' then commandOf false (args.drop 1)
      else if letters.contains 'V' then commandOf true (args.drop 1)
      else return 0
  | _ => Builtin.table.lookup name

/-- The builtin with a name in the extended dialect. -/
def extendedBuiltin? (run : Run) (name : String) : Option Builtin :=
  match name with
  | "builtin" => some fun args =>
      match args with
      | [] => return 0
      | name :: args =>
          match (Builtin.moreTable.lookup name).or (builtin? run name) with
          | some b => b args
          | none => protest "" (name ++ ": not a shell builtin") 1
  | _ => (Builtin.moreTable.lookup name).or (builtin? run name)

/-- The builtin with a name in the dialect of a shell. -/
def Shell.builtin? (s : Shell) (run : Run) (name : String) : Option Builtin :=
  if s.extended then extendedBuiltin? run name else Script.builtin? run name

/-- Runs a builtin; an error in it ends the shell only if it is special. -/
def runBuiltin (special : Bool) (name : String) (x : Step Nat) : Step Unit := do
  let before := (← get).command
  modify fun s => { s with command := some name }
  let leave : Step Unit := modify fun s => { s with command := before }
  andFinally (tryCatch (settingStatus x) fun
    | .failure => if special then throw .failure else return ()
    | jump => throw jump) leave

/-! ## Functions. -/

/-- How deep functions may be called. -/
def maxCalls : Nat := 1000

/-- The signal of a process that goes too deep. -/
def signalMemory : Nat := 11

/-- Calls a function. -/
def call (run : Run) (mode : Mode) (f : Function) (args : List String) : Step Unit := do
  let s ← get
  if maxCalls ≤ s.calls then
    if s.extended then throw (.killed signalMemory)
    abort ("Maximum function recursion depth (" ++ toString maxCalls ++ ") reached")
  let leave : Step Unit := do
    (((← get).locals.headD []).reverse).forM fun v =>
      restoreVar v.name (if v.value.isNone && !v.exported then none else some v)
    modify fun t => { t with
      params := s.params
      loops := s.loops
      calls := s.calls
      locals := s.locals
      source := s.source
      running := s.running
      optionIndex := s.optionIndex
      optionOffset := s.optionOffset }
  modify fun s => { s with
    params := args
    loops := 0
    calls := s.calls + 1
    locals := [] :: s.locals
    source := some f.source
    running := f.name :: s.running
    optionIndex := 1
    optionOffset := 0 }
  andFinally (tryCatch (run mode.inner f.body) fun
    | .return => return ()
    | jump => throw jump) leave

/-! ## Simple commands. -/

/-- The time that a program takes to start, in microseconds. -/
def programDelay : Nat := 500

/-- Runs a program, in a process of its own unless nothing is left to do. -/
def runProgram (run : Run) (mode : Mode) (path : String) (words : List String) : Step Unit := do
  work 30
  spend programDelay
  let started : Step Unit := do
    match ← become run manyPrograms path words with
    | .ok () => return ()
    | .error e => do
        let name := words.headD ""
        let isFolder : Bool ← do
          match ← find true path with
          | .ok (.node id) => pure ((← host).tree.isFolder id)
          | _ => pure false
        complain (if !(← get).extended then name ++ ": " ++ runningCause e
          else extendedCause name (if isFolder then .isDirectory else e))
        setStatus (runningStatus e)
  if ← canReplace mode then
    started
    throw .exit
  else takeEnding (← fork started)

/-- Drops the words that say how a command is found. -/
def dropCommand : Nat → Bool → List String → Bool × List String
  | 0, plain, words => (plain, words)
  | fuel + 1, plain, words =>
      match words with
      | "command" :: "--" :: rest | "command" :: "-p" :: rest =>
          if rest.isEmpty then (plain, words) else dropCommand fuel true rest
      | "command" :: next :: rest =>
          if next.startsWith "-" then (plain, words) else dropCommand fuel true (next :: rest)
      | _ => (plain, words)

/-- Runs a command by its name: with its arguments, or by its words if it is a
    program. -/
def runNamed (run : Run) (mode : Mode) (plain : Bool) (name : String) (args : List String) :
    Step Unit := do
  match ← meaning plain name with
  | .function f => call run mode f args
  | .program path => runProgram run mode path (name :: args)
  | .nothing e => do
      complain (if (← get).extended then extendedCause name e else name ++ ": " ++ runningCause e)
      setStatus 127
  | _ =>
      match (← get).builtin? run name with
      | some b => runBuiltin false name (b args)
      | none => return ()

/-- Runs a simple command. -/
def runSimple (run : Run) (mode : Mode) (settings : List (Setting Word)) (words : List Word)
    (redirections : List (Redirection Word)) : Step Unit := do
  work (3 + words.length)
  modify fun s => { s with outputStatus := 0 }
  let before := (← get).streams
  let (fields, lists) ← commandFields run words
  work (fields.foldl (fun n field => n + field.utf8ByteSize) 0 / 4)
  let s ← get
  let streams := s.streams
  let (plain, command) := dropCommand fields.length false fields
  let name := command.headD ""
  let args := command.drop 1
  let isFunction := !plain && s.functions.any (·.name = name)
  let isSpecial := !plain && !isFunction && !s.extended && Reader.specialNames.contains name
  if fields.isEmpty then
    keepingStreams do
      if ← redirect run redirections then
        let shown ← setAll run settings
        if !shown.isEmpty then trace streams shown []
        modify fun s => { s with status := s.outputStatus }
  else
    let proceed : Step Unit := do
      if !(← redirect run redirections) then
        if isSpecial then throw .failure
      else if isSpecial then do
        let shown ← setAll run settings
        trace streams shown fields
        match builtin? run name with
        | some b => runBuiltin true name (b args)
        | none => return ()
      else
        withSettings run (fun shown => do
          trace streams shown fields
          runNamed run mode plain name args
          for list in lists do discard <| makeSetting run list) settings []
    if name = "exec" && args.isEmpty then proceed else keepingStreams proceed
    if s.extended then
      modify fun t => { t with lastWord := fields.getLastD "" }
      if name != "exec" then modify fun t => { t with streams := before }

/-! ## Compound commands. -/

/-- Runs steps within a loop. -/
def inLoop (x : Step Unit) : Step Unit := do
  modify fun s => { s with loops := s.loops + 1 }
  andFinally x (modify fun s => { s with loops := s.loops - 1 })

/-- Runs a part of a loop; `false` if the loop is left. -/
def round (x : Step Unit) : Step Bool :=
  tryCatch (do x; return true) fun
    | .break levels => if levels ≤ 1 then return false else throw (.break (levels - 1))
    | .continue levels => if levels ≤ 1 then return true else throw (.continue (levels - 1))
    | jump => throw jump

/-- Repeats a command as long as a condition fails, or holds; `status` is the
    exit code of the last round. -/
def repeated (run : Run) (mode : Mode) (failing : Bool) (condition body : Command) :
    Nat → Nat → Step Unit
  | 0, _ => throw .late
  | fuel + 1, status => do
      work 1
      let verdict ← tryCatch (do
          run .condition condition
          return some (decide ((← get).status = 0))) fun
        | .break levels => if levels ≤ 1 then return none else throw (.break (levels - 1))
        | .continue levels => if levels ≤ 1 then return some failing else throw (.continue (levels - 1))
        | jump => throw jump
      match verdict with
      | none => setStatus status
      | some holds =>
          if holds == failing then setStatus status
          else if ← round (run mode.inner body) then
            repeated run mode failing condition body fuel (← get).status
          else return ()

/-- Runs a command for each field. -/
def forEach (run : Run) (mode : Mode) (name : String) (body : Command) (shown : List String) :
    List String → Step Unit
  | [] => return ()
  | field :: fields => do
      work 1
      traceCompound shown
      assign name field
      if ← round (run mode.inner body) then forEach run mode name body shown fields else return ()

/-- Whether one of the patterns of a case matches a text. -/
def matchesOne (run : Run) (text : String) : List Word → Step Bool
  | [] => return false
  | word :: words => do
      if Glyph.isMatch (← patternOf run word) text.toList then return true
      else matchesOne run text words

/-- Runs the cases that match a text: the first one, and others if it says so.  The
    first case runs anyway if `through`. -/
def runCases (run : Run) (mode : Mode) (text : String) (through : Bool) :
    List (List Word × Option Command × AfterCase) → Step Unit
  | [] => if through then return () else setStatus 0
  | (patterns, command, after) :: cases => do
      if through || (← matchesOne run text patterns) then
        match command with
        | some c => run (if after = .stop then mode else mode.inner) c
        | none => setStatus 0
        match after with
        | .stop => return ()
        | .through => runCases run mode text true cases
        | .again => runAgain cases
      else runCases run mode text false cases
where
  /-- Runs the cases that match after one that did. -/
  runAgain : List (List Word × Option Command × AfterCase) → Step Unit
    | [] => return ()
    | (patterns, command, _) :: cases => do
        if ← matchesOne run text patterns then
          match command with
          | some c => run mode.inner c
          | none => setStatus 0
        else runAgain cases

/-- Repeats a command as long as a sum is not zero, with a sum after each round. -/
def runCount (run : Run) (mode : Mode) (condition next : Word) (body : Command) : Nat → Step Unit
  | 0 => throw .late
  | fuel + 1 => do
      work 1
      let goesOn : Bool ← if condition.isEmpty then pure true else do pure ((← sumValue run condition) != 0)
      if goesOn then
        if ← round (run mode.inner body) then
          if !next.isEmpty then discard <| sumValue run next
          runCount run mode condition next body fuel

/-- Runs the commands of a pipe, which begin at the same time. -/
def runPipe (run : Run) (mode : Mode) (start : Nat) : List Command → Option Nat → Step (List Ending)
  | [], _ => return []
  | c :: cs, input => do
      modify fun s => { s with machine.time := start }
      let (reader, writer) ← if cs.isEmpty then pure (none, none) else do
        let (reader, writer) ← onHost fun h =>
          let (reader, writer, h) := h.openPipe
          ((reader, writer), h)
        pure (some reader, some writer)
      let ending ← subshell run do
        match input with
        | some number => setStream 0 (some number)
        | none => pure ()
        match writer with
        | some number => setStream 1 (some number)
        | none => pure ()
        run mode.last c
      let finish := (← get).machine.time
      let endings ← runPipe run mode start cs reader
      modify fun s => { s with machine.time := max finish s.machine.time }
      return ending :: endings

/-- The time until a command in the background begins, in microseconds. -/
def backgroundDelay : Nat := 300

/-- Runs a command in the background, for which a part of the budget is left. -/
def runBackground (run : Run) (c : Command) : Step Unit := do
  let start := (← get).machine.time
  let budget := (← get).machine.budget
  let null ← openPath "/dev/null" .read
  modify fun s => { s with machine.budget := budget / 2 }
  let ending ← tryFork <| toEnd run do
    modify fun s => { s with traps := s.traps.filter (·.2 = ""), jobs := [], loops := 0 }
    spend backgroundDelay
    match null with
    | .ok number => setStream 0 (some number)
    | .error _ => pure ()
    let mode : Mode := ⟨false, true⟩
    match c with
    | .redirected line c rs => do
        modify fun s => { s with line := line }
        if ← redirect run rs then run mode c
    | c => run mode c
  let place ← takePlace
  let s ← get
  let job : Job := ⟨place, s.machine.lastPid, ending.getD (.exited 0),
    ending.map fun _ => s.machine.time, false⟩
  modify fun s => { s with
    machine.time := start
    machine.budget := s.machine.budget + (budget - budget / 2)
    machine.processes := (job.pid, job.finish) :: s.machine.processes
    jobs := s.jobs ++ [job]
    lastJob := some job.pid
    status := 0 }

/-! ## Commands. -/

/-- Takes the exit codes of the commands of a pipe. -/
def takeCodes (codes : List Nat) : Step Unit := do
  let last := codes.getLastD 0
  let failed := (codes.reverse.find? (· != 0)).getD 0
  setStatus (if (← get).choices.contains "pipefail" then failed else last)
  modify fun s => { s with pipeCodes := codes }

/-- Looks at the exit code of a command: a failure has an action, and may end the
    shell. -/
def checkFailure (run : Run) (mode : Mode) : Step Unit := do
  let s ← get
  if s.status != 0 && !mode.tested && (s.traps.lookup failureSignal).any (!·.isEmpty) then
    actOn run failureSignal
    setStatus s.status
  checkStatus mode

/-- Runs a command, given how the commands in it are run. -/
def step (run : Run) (mode : Mode) (command : Command) : Step Unit := do
  if (← get).has 'n' then return ()
  match command with
  | .simple line settings words redirections => do
      modify fun s => { s with line := line }
      runSimple run mode settings words redirections
      modify fun s => { s with pipeCodes := [s.status] }
      notice run
      checkFailure run mode
  | .pipe commands => do
      let endings ← runPipe run mode.inner (← get).machine.time commands none
      endings.forM tellEnding
      takeCodes (endings.map Ending.code)
      notice run
      checkFailure run mode
  | .negated c => do
      run .condition c
      modify fun s => { s with status := if s.status = 0 then 1 else 0 }
  | .both first second => do
      run .condition first
      if (← get).status = 0 then run mode second
  | .either first second => do
      run .condition first
      if (← get).status != 0 then run mode second
  | .sequence commands => do
      commands.dropLast.forM (run mode.inner)
      match commands.getLast? with
      | some c => run mode c
      | none => setStatus 0
  | .background c => do
      runBackground run c
      notice run
  | .redirected line c redirections => do
      modify fun s => { s with line := line }
      keepingStreams do
        if ← redirect run redirections then run mode.inner c
  | .subshell line c redirections => do
      modify fun s => { s with line := line }
      let proceed : Step Unit := do
        if ← redirect run redirections then run mode.last c
      if ← canReplace mode then
        proceed
        throw .exit
      else
        takeEnding (← subshell run proceed)
        notice run
        checkFailure run mode
  | .choice condition yes no => do
      run .condition condition
      if (← get).status = 0 then run mode yes
      else match no with
        | some c => run mode c
        | none => setStatus 0
  | .loop failing condition body => inLoop (repeated run mode failing condition body manySteps 0)
  | .each line name words body => do
      modify fun s => { s with line := line }
      let fields ← match words with
        | some words => fieldsOf run words
        | none => pure (← get).params
      setStatus 0
      let shown := fields.map Quoting.quotedIfNeeded
      inLoop (forEach run mode name body ("for" :: name :: "in" :: shown) fields)
  | .select line word cases => do
      modify fun s => { s with line := line }
      let text ← textOf run word
      traceCompound ["case", Quoting.quotedIfNeeded text, "in"]
      runCases run mode text false cases
  | .count line start condition next body => do
      modify fun s => { s with line := line }
      let proceed : Step Unit := do
        if !start.isEmpty then discard <| sumValue run start
        setStatus 0
        inLoop (runCount run mode condition next body manySteps)
      tryCatch proceed fun
        | .failure => return ()
        | jump => throw jump
  | .check line condition => do
      modify fun s => { s with line := line }
      testing "[[" (checkHolds run condition)
      checkFailure run mode
  | .sum line expression => do
      modify fun s => { s with line := line }
      testing "((" do
        let text := Glyph.plain (← glyphs run true expression)
        traceCompound ["((", String.ofList ((text.toList.dropWhile (· = ' ')).reverse.dropWhile (· = ' ')).reverse, "))"]
        return (← checkNumber text) != 0
      checkFailure run mode
  | .function name body => do
      modify fun s =>
        let source := s.source.getD (if s.isText then "environment" else s.title)
        { s with functions := ⟨name, body, source⟩ :: s.functions.filter (·.name != name) }
      setStatus 0

/-- Runs commands that are not nested deeper than the fuel. -/
def evaluate : Nat → Run
  | 0, _, _ => abort ("Maximum function recursion depth (" ++ toString maxCalls ++ ") reached")
  | fuel + 1, mode, command => step (evaluate fuel) mode command

end GuardedCnf.Script
