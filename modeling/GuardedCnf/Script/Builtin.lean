import GuardedCnf.Script.Condition
import GuardedCnf.Script.Printing
import GuardedCnf.Script.Redirection
/-! # Builtin commands — what changes or asks the shell itself

    A builtin gets its arguments and gives its exit code.  The ones that run
    other commands are elsewhere. -/

namespace GuardedCnf.Script

/-- A command with its arguments. -/
abbrev Builtin := List String → Step Nat

namespace Builtin

/-! ## Arguments. -/

/-- How builtins are used, in the words of the extended dialect. -/
def usages : List (String × String) :=
  [("cd", "[-L|[-P [-e]] [-@]] [dir]"),
    ("export", "[-fn] [name[=value] ...] or export -p"),
    ("readonly", "[-aAf] [name[=value] ...] or readonly -p"),
    ("declare", "[-aAfFgiIlnrtux] [name[=value] ...] or declare -p [-aAfFilnrtux] [name ...]"),
    ("typeset", "[-aAfFgiIlnrtux] name[=value] ... or typeset -p [-aAfFilnrtux] [name ...]"),
    ("local", "[option] name[=value] ..."),
    ("unset", "[-f] [-v] [-n] [name ...]"),
    ("set", "[-abefhkmnptuvxBCEHPT] [-o option-name] [--] [-] [arg ...]"),
    ("read", "[-ers] [-a array] [-d delim] [-i text] [-n nchars] [-N nchars] [-p prompt] [-t timeout] [-u fd] [name ...]"),
    ("printf", "[-v var] format [arguments]"),
    ("getopts", "optstring name [arg ...]"),
    ("trap", "[-lp] [[arg] signal_spec ...]"),
    ("kill", "[-s sigspec | -n signum | -sigspec] pid | jobspec ... or kill -l [sigspec]"),
    ("wait", "[-fn] [-p var] [id ...]"),
    ("pwd", "[-LP]"),
    ("shopt", "[-pqsu] [-o] [optname ...]"),
    ("type", "[-afptP] name [name ...]"),
    ("source", "filename [arguments]"),
    (".", "filename [arguments]"),
    ("exec", "[-cl] [-a name] [command [argument ...]] [redirection ...]"),
    ("command", "[-pVv] command [arg ...]"),
    ("mapfile", "[-d delim] [-n count] [-O origin] [-s count] [-t] [-u fd] [-C callback] [-c quantum] [array]"),
    ("readarray", "[-d delim] [-n count] [-O origin] [-s count] [-t] [-u fd] [-C callback] [-c quantum] [array]"),
    ("jobs", "[-lnprs] [jobspec ...] or jobs -x command [args]"),
    ("umask", "[-p] [-S] [mode]"),
    ("ulimit", "[-SHabcdefiklmnpqrstuvxPRT] [limit]"),
    ("hash", "[-lr] [-p pathname] [-dt] [name ...]")]

/-- Writes how the current builtin is used, and fails. -/
def tellUsage {α : Type} : Step α := do
  let name := ((← get).command).getD ""
  report (name ++ ": usage: " ++ name ++ " " ++ (usages.lookup name).getD "" ++ "\n")
  setStatus 2
  throw .failure

/-- Fails because of an option that a builtin does not have. -/
def refuseOption {α : Type} (letter : Char) : Step α := do
  let option := "-" ++ String.singleton letter
  if (← get).extended then
    complain (option ++ ": invalid option")
    tellUsage
  else abort ("Illegal option " ++ option)

/-- Splits options, of which only some letters are allowed, from operands. -/
def options (allowed : String) : List String → Step (List Char × List String)
  | [] => return ([], [])
  | arg :: args => do
      match arg.toList with
      | ['-', '-'] => return ([], args)
      | '-' :: c :: cs => do
          for letter in c :: cs do
            if !allowed.toList.contains letter then refuseOption letter
          let (more, operands) ← options allowed args
          return (c :: cs ++ more, operands)
      | _ => return ([], arg :: args)

/-- The natural number of an argument; in the extended dialect a wrong one gives an
    exit code. -/
def numberOr (status : Nat) (text : String) : Step Nat := do
  let illegal := "Illegal number: " ++ text
  match Sum.ofText? false text with
  | some n =>
      if 0 ≤ n && n < (Nat.pow 2 31 : Nat) then return n.toNat
      else if (← get).extended && n < 0 then return (n.emod 256).toNat
      else abort illegal
  | none => protest illegal (text ++ ": numeric argument required") status

/-- The natural number of an argument. -/
def number (text : String) : Step Nat := numberOr 1 text

/-! ## Output. -/

/-- Writes to the standard output; the exit code tells whether that succeeds. -/
def put (text : String) : Step Nat := do
  match ← write 1 text with
  | .ok () => return 0
  | .error e => do
      let s ← get
      if s.extended then complain ("write error: " ++ cause e)
      else complain ((s.command.map (· ++ ": ")).getD "" ++ "I/O error")
      return 1

/-- Whether an argument is an option of `echo` in the extended dialect. -/
def isEchoOption (arg : String) : Bool :=
  match arg.toList with
  | '-' :: c :: cs => (c :: cs).all ['n', 'e', 'E'].contains
  | _ => false

/-- Writes arguments. -/
def echo : Builtin := fun args => do
  let extended := (← get).extended
  let given := if extended then args.takeWhile isEchoOption else args.takeWhile (· = "-n") |>.take 1
  let letters := given.flatMap String.toList
  let line := " ".intercalate (args.drop given.length)
  let (text, stops) :=
    if !extended then Printing.unescaped line
    else if (letters.filter fun c => c = 'e' || c = 'E').getLast? = some 'e' then
      Printing.unescapedMore false line
    else (line, false)
  put (if letters.contains 'n' || stops then text else text ++ "\n")

/-- Tells what is wrong with the arguments of a format. -/
def tellFailures (failures : List Printing.Failure) : Step Unit := do
  let extended := (← get).extended
  let tell (text portable : String) : Step Unit :=
    complain (if extended then text ++ ": invalid number" else text ++ ": " ++ portable)
  for e in failures do
    match e with
    | .noNumber text => tell text "expected numeric value"
    | .halfNumber text => tell text "not completely converted"
    | .outOfRange text =>
        complain ((if extended then "warning: " else "") ++ text ++ ": Numerical result out of range")
    | _ => pure ()

/-- Writes arguments in a format, or sets a variable. -/
def printf : Builtin := fun args => do
  let extended := (← get).extended
  let (target, args) : Option String × List String := match extended, args with
    | true, "-v" :: name :: rest => (some name, rest)
    | _, args => (none, args)
  match (← options "" args).2 with
  | [] => if extended then tellUsage else abort "usage: printf format [arg ...]"
  | format :: args => do
      let f := Printing.filled extended format args
      tellFailures f.failures
      let status ← match target with
        | some name => do
            assign name f.text
            pure 0
        | none => put f.text
      match f.failures.find? Printing.Failure.isFatal with
      | some (.directive text) =>
          protest (text ++ ": invalid directive")
            ("\x60" ++ String.ofList (text.toList.drop (text.length - 1)) ++ "': invalid format character") 1
      | some _ => protest "missing format character" ("\x60" ++ format ++ "': missing format character") 1
      | none =>
          let counts : Printing.Failure → Bool
            | .outOfRange _ => !extended
            | _ => true
          return if f.failures.any counts then 1 else status

/-! ## Conditions. -/

/-- Tests a condition. -/
def test : Builtin := fun args => do
  let s ← get
  let result :=
    if s.extended then
      Condition.holdsExtended (Condition.fact s) (Condition.filesFact s) 10 args
    else Condition.holds (Condition.fileFact s) (Condition.filesFact s) 10 args
  match result with
  | .ok b => return if b then 0 else 1
  | .error e => protest e.message e.extendedMessage 2

/-- Tests a condition in brackets. -/
def bracket : Builtin := fun args => do
  if args.getLast? = some "]" then test args.dropLast else protest "missing ]" "missing \x60]'" 2

/-! ## Folders. -/

/-- The path of a folder from the root. -/
def pathOf (t : Tree) : Nat → NodeId → String
  | 0, _ => ""
  | fuel + 1, id =>
      match t.node id with
      | .folder parent _ =>
          if id = 0 then ""
          else
            let name := ((t.entries parent).find? (·.2 = id)).map (·.1)
            pathOf t fuel parent ++ "/" ++ name.getD ""
      | _ => ""

/-- The path of the current folder without links. -/
def physicalPath : Step String := do
  let s ← get
  let path := pathOf s.machine.host.tree 1000 s.folder
  return if path.isEmpty then "/" else path

/-- The path of the current folder, as it was reached if it still leads there. -/
def currentPath : Step String := do
  let s ← get
  match ← find true s.path with
  | .ok (.node id) => if id = s.folder then return s.path else physicalPath
  | _ => physicalPath

/-- A path from the root, where names of parents undo the names before them. -/
def joinedPath (current path : String) : String :=
  let names := (if path.startsWith "/" then path else current ++ "/" ++ path).splitOn "/"
  let kept := names.foldl (fun kept name =>
    if name.isEmpty || name = "." then kept
    else if name = ".." then kept.drop 1
    else name :: kept) []
  "/" ++ "/".intercalate kept.reverse

/-- Goes to another folder. -/
def cd : Builtin := fun args => do
  let (letters, operands) ← options "LP" args
  let s ← get
  if s.extended then
    if 1 < operands.length then protest "" "too many arguments" 1
    if operands.isEmpty && (s.value? "HOME").isNone then protest "" "HOME not set" 1
    if operands = ["-"] && (s.value? "OLDPWD").isNone then protest "" "OLDPWD not set" 1
  let (named, shown) := match operands with
    | [] => ((s.value? "HOME").getD "", false)
    | "-" :: _ => ((s.value? "OLDPWD").getD "", true)
    | path :: _ => (path, false)
  let refuse (e : FileError) : Step Nat :=
    protest ("can't cd to " ++ named) (named ++ ": " ++ cause e) 1
  let target := if named.isEmpty then "." else named
  let before ← currentPath
  let isPhysical := letters.getLast? = some 'P'
  let path := if isPhysical then target else joinedPath before target
  match ← find true path with
  | .ok (.node id) =>
      if s.machine.host.tree.isFolder id then do
        modify fun s => { s with folder := id }
        let now ← if isPhysical then physicalPath else pure path
        modify fun s => (({ s with path := now }).change "OLDPWD" fun v => { v with value := some before }).change
          "PWD" fun v => { v with value := some now }
        if shown then put (now ++ "\n") else return 0
      else refuse .notDirectory
  | .error e => refuse e
  | _ => refuse .notFound

/-- Writes the path of the current folder. -/
def pwd : Builtin := fun args => do
  let (letters, _) ← options "LP" args
  put ((← if letters.getLast? = some 'P' then physicalPath else currentPath) ++ "\n")

/-! ## Variables. -/

/-- A value in quotes that scripts can read. -/
def quoted (value : String) : String :=
  if value.isEmpty then "''"
  else "'" ++ String.join (value.toList.map fun c => if c = '\'' then "'\"'\"'" else String.singleton c)
    ++ "'"

/-- A name and its value, in arguments that set variables. -/
def nameAndValue (arg : String) : String × Option String :=
  let name := arg.toList.takeWhile (· != '=')
  (String.ofList name,
    if name.length < arg.length then some (String.ofList (arg.toList.drop (name.length + 1))) else none)

/-- The variables in the order of their names. -/
def sortedVars : Step (List Variable) := do
  return (← get).vars.mergeSort fun a b => a.name ≤ b.name

/-- Marks variables, and sets them where there is a value. -/
def mark (word : String) (f : Variable → Variable) (holds : Variable → Bool) : Builtin :=
  fun args => do
    let (letters, operands) ← options "p" args
    if operands.isEmpty || letters.contains 'p' then
      let lines := ((← sortedVars).filter holds).map fun v =>
        word ++ " " ++ v.name ++ ((v.value.map fun value => "=" ++ quoted value).getD "") ++ "\n"
      put (String.join lines)
    else
      for arg in operands do
        let (name, value) := nameAndValue arg
        if !isName name then abort (name ++ ": bad variable name")
        match value with
        | some value => assign name value
        | none => pure ()
        modify fun s => s.change name f
      return 0

/-- Removes variables or functions. -/
def unset : Builtin := fun args => do
  let (letters, names) ← options "fv" args
  for word in names do
    let cs := word.toList
    let name := if (← get).extended then String.ofList (cs.takeWhile (· != '[')) else word
    let index := cs.drop (name.length + 1)
    if letters.contains 'f' then
      modify fun s => { s with functions := s.functions.filter (·.name != name) }
    else
      match (← get).var? name with
      | some v =>
          if v.fixed then
            protest (name ++ ": is read only") (name ++ ": cannot unset: readonly variable") 1
      | none => if !isName name && !(← get).extended then abort (name ++ ": bad variable name")
      if index.isEmpty then
        modify fun s => { s with
          vars := s.vars.filter (·.name != name)
          functions :=
            if (s.var? name).isNone && letters.isEmpty then s.functions.filter (·.name != name)
            else s.functions }
      else
        let key ← keyOf name (String.ofList index.dropLast)
        modify fun s => s.change name fun v =>
          v.withItems v.shape (v.allItems.filter (·.1 != key))
  return 0

/-- Makes variables of a function. -/
def localVars : Builtin := fun args => do
  match (← get).locals with
  | [] => abort "not in a function"
  | known :: others => do
      let mut known := known
      for arg in args do
        let (name, value) := nameAndValue arg
        if !isName name then abort (name ++ ": bad variable name")
        if !known.any (·.name = name) then
          let old : Variable := ((← get).var? name).getD (.plain name none)
          known := old :: known
        match value with
        | some value => assign name value
        | none => modify fun s => s.change name fun v => v
      modify fun s => { s with locals := known :: others }
      return 0

/-- Drops the first parameters. -/
def shift : Builtin := fun args => do
  let n ← match args.head? with
    | some arg => number arg
    | none => pure 1
  let s ← get
  if s.params.length < n then
    if s.extended then
      if (args.headD "").startsWith "-" then
        protest "" (args.headD "" ++ ": shift count out of range") 1
      return 1
    abort "can't shift that many"
  modify fun s => { s with params := s.params.drop n }
  return 0

/-! ## Options. -/

/-- The letters of options that the extended dialect has besides. -/
def moreOptionLetters : List Char := ['h', 'k', 'p', 't', 'B', 'E', 'H', 'P', 'T']

/-- The names of options that the extended dialect has besides. -/
def moreOptionNames : List String :=
  ["braceexpand", "errtrace", "functrace", "hashall", "histexpand", "history", "interactive-comments",
    "keyword", "onecmd", "physical", "pipefail", "posix"]

/-- Sets or clears an option. -/
def setOption (on : Bool) (letter : Char) : Step Unit := do
  let extended := (← get).extended
  if !optionNames.any (·.2 = letter) then
    if extended && moreOptionLetters.contains letter then return ()
    refuseOption letter
  modify fun s =>
    let others := s.options.filter (· != letter)
    { s with options := if on then others ++ [letter] else others }

/-- Shows the options, as a table or as commands. -/
def showOptions (asTable : Bool) : Step Unit := do
  let s ← get
  let lines := optionNames.map fun (name, letter) =>
    if asTable then
      Form.text { Form.plain with left := true, width := 16 } name
        ++ if s.has letter then "on" else "off"
    else "set " ++ (if s.has letter then "-" else "+") ++ "o " ++ name
  discard <| put (String.join ((if asTable then ["Current option settings"] else []) ++ lines |>.map (· ++ "\n")))

/-- Sets or clears an option by its name. -/
def setNamed (on : Bool) (name : String) : Step Unit := do
  match optionNames.lookup name with
  | some letter => setOption on letter
  | none =>
      if (← get).extended && moreOptionNames.contains name then
        modify fun s =>
          let others := s.choices.filter (· != name)
          { s with choices := if on then name :: others else others }
      else
        protest ("Illegal option " ++ (if on then "-" else "+") ++ "o " ++ name)
          (name ++ ": invalid option name") 2

/-- Sets or clears options by their letters, of which `o` stands for the option with a
    name; without a name the options are shown. -/
def setLetters (on : Bool) (name : Option String) (letters : List Char) : Step Unit :=
  letters.forM fun letter =>
    if letter = 'o' then match name with
      | some name => setNamed on name
      | none => showOptions on
    else setOption on letter

/-- Sets options, and gives the operands if there are any. -/
def readOptions : List String → Step (Option (List String))
  | [] => return none
  | arg :: args => do
      let letters (on : Bool) (cs : List Char) : Step (Option (List String)) := do
        match args with
        | name :: rest =>
            if cs.contains 'o' then
              setLetters on (some name) cs
              readOptions rest
            else
              setLetters on none cs
              readOptions (name :: rest)
        | [] => do
            setLetters on none cs
            return none
      match arg.toList with
      | ['-', '-'] => return some args
      | ['-'] => do
          ['x', 'v'].forM (setOption false)
          return if args.isEmpty then none else some args
      | '-' :: c :: cs => letters true (c :: cs)
      | '+' :: c :: cs => letters false (c :: cs)
      | _ => return some (arg :: args)

/-- Sets options and parameters, or shows the variables. -/
def set : Builtin := fun args => do
  if args.isEmpty then
    let lines := (← sortedVars).filterMap fun v =>
      v.value.map fun value => v.name ++ "=" ++ quoted value ++ "\n"
    put (String.join lines)
  else
    match ← readOptions args with
    | some params => modify fun s => { s with params := params }
    | none => pure ()
    return 0

/-- Reads the next option of the parameters of a script. -/
def getopts : Builtin := fun args => do
  match args with
  | spec :: name :: operands => do
      let s ← get
      let words := if operands.isEmpty then s.params else operands
      let index := s.optionIndex
      let word := (words[index - 1]?).getD ""
      let set (index offset : Nat) (letter : String) : Step Nat := do
        assign "OPTIND" (toString index)
        modify fun s => { s with optionIndex := index, optionOffset := offset }
        assign name letter
        return 0
      if s.optionOffset = 0 && (!word.startsWith "-" || word = "-" || word = "--") then
        discard <| set (if word = "--" then index + 1 else index) 0 "?"
        return 1
      else
        let cs := word.toList.drop (max s.optionOffset 1)
        let letter := cs.headD '?'
        let after := (spec.toList.dropWhile (· != letter)).drop 1
        let silent := spec.startsWith ":"
        let known := letter != ':' && spec.toList.contains letter
        let failed (message : String) : Step Unit := do
          if silent then assign "OPTARG" (String.singleton letter)
          else
            report (message ++ "\n")
            modify fun s => { s with vars := s.vars.filter (·.name != "OPTARG") }
        let (nextIndex, nextOffset) : Nat × Nat :=
          if cs.length ≤ 1 then (index + 1, 0) else (index, max s.optionOffset 1 + 1)
        let worded (portable extended : String) : String :=
          if s.extended then s.title ++ ": " ++ extended ++ " -- " ++ String.singleton letter else portable
        if !known then
          failed (worded ("Illegal option -" ++ String.singleton letter) "illegal option")
          set nextIndex nextOffset "?"
        else if after.head? = some ':' then
          match cs.drop 1, words[index]? with
          | [], some arg =>
              assign "OPTARG" arg
              set (index + 2) 0 (String.singleton letter)
          | [], none =>
              failed (worded ("No arg for -" ++ String.singleton letter ++ " option")
                "option requires an argument")
              set (index + 1) 0 (if silent then ":" else "?")
          | rest, _ =>
              assign "OPTARG" (String.ofList rest)
              set (index + 1) 0 (String.singleton letter)
        else
          assign "OPTARG" ""
          set nextIndex nextOffset (String.singleton letter)
  | _ => if (← get).extended then tellUsage else abort "Usage: getopts optstring var [arg...]"

/-! ## Input. -/

/-- The characters of a line without its end, each with whether it is exact,
    and whether the line goes on after that end.  A backslash makes the next
    character exact. -/
def unescapeLine : List Char → List (Char × Bool) × Bool
  | '\\' :: '\n' :: _ => ([], true)
  | '\\' :: c :: cs =>
      let (rest, more) := unescapeLine cs
      ((c, true) :: rest, more)
  | ['\\'] | ['\n'] | [] => ([], false)
  | c :: cs =>
      let (rest, more) := unescapeLine cs
      ((c, false) :: rest, more)

/-- Reads a line, and tells whether it has an end. -/
def readLine (raw : Bool) : Nat → List (Char × Bool) → Step (List (Char × Bool) × Bool)
  | 0, cs => return (cs, false)
  | fuel + 1, cs => do
      let text ← match (← get).opening? 0 with
        | some number => readOpening number (some ((← host).lineSize number))
        | none => pure (.ok "")
      let line := ((text.toOption.getD "").toList).filter (· != '\x00')
      if raw then
        return (cs ++ (line.filter (· != '\n')).map fun c => (c, false), line.getLast? = some '\n')
      else
        let (more, joined) := unescapeLine line
        if joined then readLine raw fuel (cs ++ more)
        else return (cs ++ more, line.getLast? = some '\n')

/-- The fields of a line for variables: the last one gets all that is left. -/
def readFields (separators : List Char) : Nat → List (Char × Bool) → List String
  | 0, _ => []
  | n + 1, cs =>
      let isBlank (c : Char × Bool) : Bool :=
        !c.2 && separators.contains c.1 && (c.1 = ' ' || c.1 = '\t' || c.1 = '\n')
      let isSeparator (c : Char × Bool) : Bool := !c.2 && separators.contains c.1
      let textOf (cs : List (Char × Bool)) : String := String.ofList (cs.map (·.1))
      let dropEnd (p : Char × Bool → Bool) (cs : List (Char × Bool)) : List (Char × Bool) :=
        (cs.reverse.dropWhile p).reverse
      let cs := cs.dropWhile isBlank
      if n = 0 then
        let cs := dropEnd isBlank cs
        let shorter := dropEnd isBlank cs.dropLast
        let isOneField := cs.getLast?.any isSeparator && !shorter.any isSeparator
        [textOf (if isOneField then shorter else cs)]
      else
        let field := cs.takeWhile (!isSeparator ·)
        let rest := (cs.drop field.length).dropWhile isBlank
        let rest := if rest.head?.any isSeparator then rest.drop 1 else rest
        textOf field :: readFields separators n rest

/-- Reads a line into variables, in the portable dialect. -/
def readPortable : Builtin := fun args => do
  let (raw, names) := match args with
    | "-p" :: _ :: "-r" :: names | "-rp" :: _ :: names | "-r" :: "-p" :: _ :: names => (true, names)
    | "-r" :: names => (true, names)
    | "-p" :: _ :: names => (false, names)
    | names => (false, names)
  let names := if names.head? = some "--" then names.drop 1 else names
  match names.head? with
  | none => abort "arg count"
  | some first =>
      if first.startsWith "-" then refuseOption ((first.toList.drop 1).headD '-')
      else do
        let (cs, complete) ← readLine raw manySteps []
        let values := readFields (← get).separators names.length cs
        for (name, value) in names.zip values do
          if !isName name then abort (name ++ ": bad variable name")
          assign name value
        return if complete then 0 else 1

/-- How text is read in the extended dialect. -/
structure ReadForm where
  raw : Bool
  /-- The variable that gets all fields as a list. -/
  list : Option String
  /-- What ends the text. -/
  delimiter : Char
  /-- How many characters are read at most, and whether only they end the text. -/
  most : Option (Nat × Bool)
  stream : Nat

/-- Reads the options of a form; each letter is an option, and some have an argument. -/
def readForm : Nat → ReadForm → List String → Step (ReadForm × List String)
  | 0, f, args => return (f, args)
  | _, f, [] => return (f, [])
  | fuel + 1, f, arg :: args => do
      match arg.toList with
      | ['-', '-'] => return (f, args)
      | '-' :: c :: cs =>
          let again : List String := if cs.isEmpty then args else String.ofList ('-' :: cs) :: args
          if c = 'r' then readForm fuel { f with raw := true } again
          else if ['e', 's'].contains c then readForm fuel f again
          else if ['a', 'd', 'i', 'n', 'N', 'p', 't', 'u'].contains c then
            match if cs.isEmpty then args else String.ofList cs :: args with
            | [] => do
                complain ("-" ++ String.singleton c ++ ": option requires an argument")
                tellUsage
            | value :: rest =>
                let f : ReadForm := match c with
                  | 'a' => { f with list := some value }
                  | 'd' => { f with delimiter := value.toList.headD '\x00' }
                  | 'n' => { f with most := some (value.toNat?.getD 0, false) }
                  | 'N' => { f with most := some (value.toNat?.getD 0, true) }
                  | 'u' => { f with stream := value.toNat?.getD 0 }
                  | _ => f
                readForm fuel f rest
          else refuseOption c
      | _ => return (f, arg :: args)

/-- Reads characters of a form one by one, after those so far, and tells whether the
    text has an end. -/
def readText (f : ReadForm) (number : Nat) : Nat → List (Char × Bool) → Step (List (Char × Bool) × Bool)
  | 0, cs => return (cs.reverse, false)
  | fuel + 1, cs => do
      let take : Step (Option Char) := do return (← readOpening number (some 1)).toOption.bind (·.toList.head?)
      if (f.most.map (·.1)).any (· ≤ cs.length) then return (cs.reverse, true)
      match ← take with
      | none => return (cs.reverse, false)
      | some c =>
          let isExact := (f.most.map (·.2)).getD false
          if c = f.delimiter && !isExact then return (cs.reverse, true)
          else if c = '\\' && !f.raw then do
            match ← take with
            | none => return (cs.reverse, false)
            | some '\n' => readText f number fuel cs
            | some d => readText f number fuel ((d, true) :: cs)
          else if c = '\x00' then readText f number fuel cs
          else readText f number fuel ((c, false) :: cs)

/-- The fields of a text, all of them. -/
def allFields (separators : List Char) : Nat → List (Char × Bool) → List String
  | 0, _ => []
  | fuel + 1, cs =>
      let isBlank (c : Char × Bool) : Bool :=
        !c.2 && separators.contains c.1 && (c.1 = ' ' || c.1 = '\t' || c.1 = '\n')
      let isSeparator (c : Char × Bool) : Bool := !c.2 && separators.contains c.1
      let cs := cs.dropWhile isBlank
      if cs.isEmpty then []
      else
        let field := cs.takeWhile (!isSeparator ·)
        let rest := (cs.drop field.length).dropWhile isBlank
        let rest := if rest.head?.any isSeparator then rest.drop 1 else rest
        String.ofList (field.map (·.1)) :: allFields separators fuel rest

/-- Reads a text into variables, in the extended dialect. -/
def readExtended : Builtin := fun args => do
  let (f, names) ← readForm (args.length + 100) ⟨false, none, '\n', none, 0⟩ args
  match names.find? (!isName ·) with
  | some name => protest "" ("\x60" ++ name ++ "': not a valid identifier") 1
  | none => pure ()
  match (← get).opening? f.stream with
  | none => protest "" (toString f.stream ++ ": invalid file descriptor: Bad file descriptor") 1
  | some number => do
      let isLine := f.delimiter = '\n' && f.most.isNone && f.stream = 0
      let (cs, complete) ← if isLine then readLine f.raw manySteps [] else readText f number manySteps []
      let separators := (← get).separators
      let isExact := (f.most.map (·.2)).getD false
      let plain := String.ofList (cs.map (·.1))
      match f.list, names with
      | some name, _ => assignItems name (allFields separators (cs.length + 1) cs)
      | none, [] => assign "REPLY" plain
      | none, names =>
          let values := if isExact then plain :: names.map fun _ => "" else readFields separators names.length cs
          for (name, value) in names.zip values do assign name value
      return if complete then 0 else 1

/-- Reads a line into variables. -/
def read : Builtin := fun args => do
  if (← get).extended then readExtended args else readPortable args

/-! ## Signals and processes. -/

/-- The name of a signal. -/
def signalName (n : Nat) : String := if n = 0 then "EXIT" else (signalNames[n - 1]?).getD (toString n)

/-- Sets the actions for signals, or shows them. -/
def trap : Builtin := fun args => do
  let args := if args.head? = some "--" then args.drop 1 else args
  match args with
  | [] =>
      let traps := (← get).traps.mergeSort fun a b => a.1 ≤ b.1
      let extended := (← get).extended
      put (String.join (traps.map fun (n, action) =>
        let name := if !extended || n = 0 then signalName n
          else if n = failureSignal then "ERR" else "SIG" ++ signalName n
        "trap -- " ++ quoted action ++ " " ++ name ++ "\n"))
  | first :: rest => do
      let (action, names) : Option String × List String :=
        if rest.isEmpty then (none, args)
        else if first = "-" then (none, rest)
        else if first.all Char.isDigit && (signalNumber? first).isSome then (none, args)
        else (some first, rest)
      let s ← get
      for name in names do
        match s.signalNumber? name with
        | none => do
            if s.extended then complain (name ++ ": invalid signal specification")
            else report ("trap: " ++ name ++ ": bad trap\n")
            return 1
        | some n => modify fun s =>
            let others := s.traps.filter (·.1 != n)
            { s with traps := match action with
              | some action => (n, action) :: others
              | none => others }
      return 0

/-- Sends a signal to a process. -/
def send (signal pid : Nat) : Step Bool := do
  let s ← get
  if pid = s.pid || pid = s.scriptPid || pid = 0 then do
    if signal != 0 then
      let target := if pid = 0 then s.pid else pid
      modify fun s => { s with machine.signals := s.machine.signals ++ [(target, signal)] }
    return true
  else match s.machine.processes.lookup pid with
    | none => return false
    | some finish => do
        let now := s.machine.time
        let runs := finish.all (now < ·)
        if runs && signal != 0 && !harmlessSignals.contains signal then
          modify fun s => { s with
            machine.processes := (pid, some now) :: s.machine.processes.filter (·.1 != pid)
            machine.kills := (pid, signal, now) :: s.machine.kills
            machine.holders := s.machine.holders.filter (·.1 != pid)
            machine.records := s.machine.records.filter fun r => r.pid != pid || r.time ≤ now }
        return runs

/-- The jobs, as they are after signals that were sent to them. -/
def currentJobs : Step (List Job) := do
  modify fun s => { s with
    jobs := s.jobs.map fun job =>
      match s.machine.kills.lookup job.pid with
      | some (signal, time) => { job with ending := .killed signal, finish := some time }
      | none => job }
  return (← get).jobs

/-- The signal that arguments name, and the processes. -/
def readSignal (args : List String) : Step (Option Nat × List String) := do
  let s ← get
  let valid (text : String) : Option Nat :=
    if text = "EXIT" then none else (s.signalNumber? text).filter (· ≤ lastSignal)
  match args with
  | ["-s"] => abort "No arg for -s option"
  | "-s" :: name :: pids =>
      match valid name with
      | some n => return (some n, pids)
      | none => protest ("invalid signal number or name: " ++ name) (name ++ ": invalid signal specification") 1
  | "--" :: pids => return (some 15, pids)
  | first :: pids =>
      if first.startsWith "-" && 1 < first.length then
        let text := String.ofList (first.toList.drop 1)
        match valid text with
        | some n => return (some n, pids)
        | none =>
            if s.extended then protest "" (text ++ ": invalid signal specification") 1
            if text.startsWith "s" then
              let name := String.ofList (text.toList.drop 1)
              match valid name with
              | some n => return (some n, pids)
              | none => abort ("invalid signal number or name: " ++ name)
            else abort ("Illegal option -" ++ String.ofList (text.toList.take 1))
      else return (some 15, args)
  | [] => return (none, [])

/-- The signals as a table. -/
def signalTable : String :=
  let cells := (signalNames.zipIdx 1).filter fun (name, _) => !name.all Char.isDigit
  let shown := cells.map fun (name, n) => (if n < 10 then " " else "") ++ toString n ++ ") SIG" ++ name
  let rec rows : Nat → List String → String
    | 0, _ | _, [] => ""
    | fuel + 1, cells => "\t".intercalate (cells.take 5) ++ "\n" ++ rows fuel (cells.drop 5)
  rows shown.length shown

/-- The message for wrong arguments of `kill`. -/
def killUsage : String :=
  "Usage: kill [-s sigspec | -signum | -sigspec] [pid | job]... or\nkill -l [exitstatus]"

/-- The job that an argument names. -/
def jobOf (arg : String) : Step Job := do
  let recent := (← currentJobs).reverse
  let name := String.ofList (arg.toList.drop 1)
  let chosen (job : Option Job) (message : String) : Step Job :=
    match job with
    | some job => return job
    | none => abort message
  if name = "-" then chosen recent[1]? "No previous job"
  else if name.isEmpty || name = "%" || name = "+" then chosen recent[0]? "No current job"
  else chosen (name.toNat?.bind fun n => recent.find? (·.place = n)) ("No such job: " ++ arg)

/-- Sends signals to processes. -/
def kill : Builtin := fun args => do
  let extended := (← get).extended
  match args with
  | "-l" :: rest =>
      match rest.head?.bind String.toNat?, rest.head? with
      | some n, _ => put (signalName (if 128 < n then n - 128 else n) ++ "\n")
      | none, name =>
          match extended, name with
          | true, some name =>
              match signalIn? name with
              | some n => put (toString n ++ "\n")
              | none => protest "" (name ++ ": invalid signal specification") 1
          | true, none => put signalTable
          | false, _ => put (String.join (("0" :: signalNames).map (· ++ "\n")))
  | _ =>
      match ← readSignal args with
      | (some signal, p :: pids) => do
          let mut status := 0
          for pid in p :: pids do
            let sent ← if pid.startsWith "%" then do
                discard <| jobOf pid
                pure false
              else
                let digits := if pid.startsWith "-" then String.ofList (pid.toList.drop 1) else pid
                if extended && digits.toNat?.isNone then
                  protest "" (pid ++ ": arguments must be process or job IDs") 1
                send signal (← number digits)
            if !sent then
              complain (if extended then "(" ++ pid ++ ") - No such process" else "No such process\n")
              status := 1
          return status
      | _ => if extended then tellUsage else abort killUsage

/-- Waits for a job, and gives its exit code. -/
def waitFor (job : Job) : Step Nat := do
  match job.finish with
  | none => throw .late
  | some t => do
      let now := (← get).machine.time
      spend (t - now)
      modify fun s => { s with
        jobs := s.jobs.map fun j => if j.pid = job.pid then { j with waited := true } else j }
      return job.ending.code

/-- Waits for jobs. -/
def wait : Builtin := fun args => do
  let forgetWaited : Step Unit := modify fun s =>
    if s.extended then { s with jobs := s.jobs.filter (!·.waited) } else s
  if args.isEmpty then
    for job in (← currentJobs) do discard <| waitFor job
    forgetWaited
    return 0
  else if args.head? = some "-n" && (← get).extended then
    let open_ := (← currentJobs).filter (!·.waited)
    let first := open_.foldl (fun (best : Option Job) job =>
      match best.bind (·.finish), job.finish with
      | some t, some u => if u < t then some job else best
      | none, some _ => some job
      | _, none => best) none
    match first.or open_.head? with
    | none => return 127
    | some job => do
        let status ← waitFor job
        forgetWaited
        return status
  else
    let mut status := 0
    let args := if (← get).extended then args.filter (!·.startsWith "-") else args
    for arg in args do
      let job : Option Job ← if arg.startsWith "%" then do pure (some (← jobOf arg)) else do
        let n ← number arg
        pure ((← currentJobs).find? (·.pid = n))
      match job with
      | some job => do
          status ← waitFor job
          if !job.waited then tellEnding job.ending
      | none =>
          if (← get).extended then complain ("pid " ++ arg ++ " is not a child of this shell")
          status := 127
    return status

/-- The words for what became of a job. -/
def jobState (job : Job) (now : Nat) : String :=
  if !job.isOver now then "Running"
  else match job.ending with
    | .exited 0 => "Done"
    | .exited status => "Done(" ++ toString status ++ ")"
    | .killed signal => signalWord signal

/-- The lines of jobs, of which those that are over are forgotten, given the jobs
    that are left, the most recent one first. -/
def jobLines (now : Nat) (long : Bool) : List Job → List Job → List String
  | _, [] => []
  | left, job :: jobs =>
      let mark := if left[0]?.any (·.place = job.place) then "+"
        else if left[1]?.any (·.place = job.place) then "-" else " "
      let pid := if long then toString job.pid ++ " " else ""
      let text := "[" ++ toString job.place ++ "] " ++ mark ++ " " ++ pid ++ jobState job now
      let left := if job.isOver now then left.filter (·.place != job.place) else left
      (text ++ String.ofList (List.replicate (33 - text.length) ' ')) :: jobLines now long left jobs

/-- Shows the jobs, and forgets those that are over. -/
def jobs : Builtin := fun args => do
  let (letters, operands) ← options "lp" args
  let recent := (← currentJobs).reverse
  let chosen ← if operands.isEmpty then pure recent else operands.mapM jobOf
  let now := (← get).machine.time
  let lines := if letters.contains 'p' then chosen.map fun job => toString job.pid
    else jobLines now (letters.contains 'l') recent chosen
  modify fun s => { s with
    jobs := s.jobs.filter fun j => !(j.isOver now && chosen.any (·.place = j.place)) }
  put (String.join (lines.map (· ++ "\n")))

/-- Refuses to move a job, which needs a terminal. -/
def moveJob : Builtin := fun args => do
  if (← get).extended then protest "" "no job control" 1
  discard <| jobOf (args.headD "%%")
  abort "job (null) not created under job control"

/-! ## Jumps. -/

/-- Sets the exit code to that of an argument, if there is one; a wrong one jumps too
    in the extended dialect. -/
def statusArg (args : List String) (jump : Jump) : Step Unit := do
  if (← get).extended && 1 < args.length then giveUp "" "too many arguments"
  match args.head? with
  | some arg => do
      let n ← tryCatch (numberOr 2 arg) fun e => do throw (if (← get).extended then jump else e)
      setStatus n
  | none => pure ()

/-- Ends the shell. -/
def exit : Builtin := fun args => do
  statusArg args .exit
  throw .exit

/-- Ends a function or a sourced script. -/
def returnTo : Builtin := fun args => do
  let s ← get
  if s.calls = 0 && s.extended then
    protest "" "can only \x60return' from a function or sourced script" 2
  let jump : Jump := if s.calls = 0 then .exit else .return
  statusArg args jump
  throw jump

/-- Leaves loops, or goes on with their next round. -/
def leave (jump : Nat → Jump) : Builtin := fun args => do
  let s ← get
  if s.extended && s.loops = 0 then
    complain "only meaningful in a \x60for', \x60while', or \x60until' loop"
    return 0
  let n ← match args.head? with
    | some arg => numberOr 128 arg
    | none => pure 1
  if n = 0 then protest ("Illegal number: " ++ args.headD "") (args.headD "" ++ ": loop count out of range") 1
  let loops := s.loops
  if 0 < loops then
    setStatus 0
    throw (jump (min n loops))
  else return 0

/-! ## Limits. -/

/-- Shows or sets the limits of processes; setting has no effect. -/
def ulimit : Builtin := fun args => do
  let (_, operands) ← options "HSatfdsmcnpvlrwe" args
  match operands with
  | [] => put "unlimited\n"
  | limit :: _ =>
      if limit = "unlimited" || limit.all Char.isDigit then return 0 else abort "bad number"

/-- The letters for the bits that a mask leaves. -/
def maskLetters (mask : Nat) (shift : Nat) : String :=
  let bits := 7 - mask / Nat.pow 8 shift % 8
  (if bits / 4 = 1 then "r" else "") ++ (if bits / 2 % 2 = 1 then "w" else "")
    ++ if bits % 2 = 1 then "x" else ""

/-- A mask after a change by letters, such as `u=rw`; `none` if it is none. -/
def changedMask (mask : Nat) (clause : String) : Option Nat :=
  let cs := clause.toList
  let who := cs.takeWhile ['u', 'g', 'o', 'a'].contains
  let all := who.isEmpty || who.contains 'a'
  match cs.drop who.length with
  | operator :: letters =>
      let bitOf : Char → Option Nat
        | 'r' => some 4
        | 'w' => some 2
        | 'x' => some 1
        | 'X' | 's' | 't' => some 0
        | _ => none
      match letters.mapM bitOf with
      | none => none
      | some bits =>
          let given := bits.foldl (· ||| ·) 0
          let change (shift : Nat) (letter : Char) (mask : Nat) : Nat :=
            let unit := Nat.pow 8 shift
            let old := 7 - mask / unit % 8
            let new := if operator = '+' then old ||| given
              else if operator = '-' then old - (old &&& given) else given
            if all || who.contains letter then mask - (mask / unit % 8) * unit + (7 - new) * unit else mask
          if ['+', '-', '='].contains operator then
            some (change 0 'o' (change 1 'g' (change 2 'u' mask)))
          else none
  | [] => none

/-- Shows or sets the mode of new files. -/
def umask : Builtin := fun args => do
  let (letters, operands) : List Char × List String := match args with
    | "-S" :: rest => (['S'], rest)
    | "--" :: rest => ([], rest)
    | rest => ([], rest)
  let mask := (← get).mask
  let set (mask : Nat) : Step Nat := do
    modify fun s => { s with mask := mask }
    return 0
  match operands with
  | [] =>
      if letters.contains 'S' then
        put ("u=" ++ maskLetters mask 2 ++ ",g=" ++ maskLetters mask 1 ++ ",o=" ++ maskLetters mask 0 ++ "\n")
      else put ("0" ++ Places.digits 3 (Sum.ofDigits 10 (Nat.toDigits 8 mask)) ++ "\n")
  | mode :: _ =>
      if mode.toList.head?.any Char.isDigit then
        if mode.toList.all fun d => '0' ≤ d && d ≤ '7' then set (Sum.ofDigits 8 mode.toList % 512)
        else protest ("Illegal number: " ++ mode) (mode ++ ": octal number out of range") 1
      else match (mode.splitOn ",").foldlM changedMask mask with
        | some new => set new
        | none =>
            let operator := String.ofList ((mode.toList.dropWhile ['u', 'g', 'o', 'a'].contains).take 1)
            protest ("Illegal mode: " ++ mode) ("\x60" ++ operator ++ "': invalid symbolic mode operator") 1

/-- The builtins that do not run other commands. -/
def table : List (String × Builtin) :=
  [(":", fun _ => return 0), ("true", fun _ => return 0), ("false", fun _ => return 1),
    ("echo", echo), ("printf", printf), ("test", test), ("[", bracket), ("cd", cd), ("chdir", cd),
    ("pwd", pwd), ("export", mark "export" (fun v => { v with exported := true }) (·.exported)),
    ("readonly", mark "readonly" (fun v => { v with fixed := true }) (·.fixed)), ("unset", unset),
    ("local", localVars), ("shift", shift), ("set", set), ("getopts", getopts), ("read", read),
    ("trap", trap), ("kill", kill), ("wait", wait), ("exit", exit), ("return", returnTo),
    ("break", leave .break), ("continue", leave .continue), ("alias", fun _ => return 0),
    ("unalias", fun _ => return 0), ("hash", fun _ => return 0), ("jobs", jobs),
    ("bg", moveJob), ("fg", moveJob), ("times", fun _ =>
      put "0m0.000000s 0m0.000000s\n0m0.000000s 0m0.000000s\n"),
    ("ulimit", ulimit), ("umask", umask)]

end Builtin

end GuardedCnf.Script
