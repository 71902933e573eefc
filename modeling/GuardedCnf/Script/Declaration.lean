import GuardedCnf.Script.Builtin
/-! # Declarations — variables with marks, lists and tables

    In the extended dialect variables are declared with marks: they are lists or
    tables, numbers, fixed or exported.  A declaration in a function makes variables
    of that function. -/

namespace GuardedCnf.Script.Builtin

/-- The marks that a declaration sets or removes. -/
structure Marks where
  /-- The letters that are set. -/
  set : List Char
  /-- The letters that are removed. -/
  removed : List Char

/-- Reads the marks before the names of a declaration. -/
def readMarks (allowed : String) : List String → Marks → Step (Marks × List String)
  | [], m => return (m, [])
  | arg :: args, m => do
      match arg.toList with
      | ['-', '-'] => return (m, args)
      | '-' :: c :: cs => do
          for letter in c :: cs do
            if !allowed.toList.contains letter then refuseOption letter
          readMarks allowed args { m with set := m.set ++ c :: cs }
      | '+' :: c :: cs => readMarks allowed args { m with removed := m.removed ++ c :: cs }
      | _ => return (m, arg :: args)

/-- A variable with marks. -/
def Marks.apply (m : Marks) (v : Variable) : Variable :=
  let v := if m.set.contains 'A' && v.shape ≠ .keyed then v.withItems .keyed v.allItems
    else if m.set.contains 'a' && v.shape = .single then v.withItems .listed v.allItems else v
  { v with
    exported := (v.exported || m.set.contains 'x') && !m.removed.contains 'x'
    isNumber := (v.isNumber || m.set.contains 'i') && !m.removed.contains 'i'
    fixed := v.fixed || m.set.contains 'r' }

/-- The marks of a variable, as declarations write them. -/
def marksOf (v : Variable) : String :=
  let letters := (match v.shape with
      | .single => []
      | .listed => ['a']
      | .keyed => ['A'])
    ++ (if v.isNumber then ['i'] else []) ++ (if v.fixed then ['r'] else [])
    ++ if v.exported then ['x'] else []
  "-" ++ if letters.isEmpty then "-" else String.ofList letters

/-- The declaration of a variable. -/
def declarationOf (v : Variable) : String :=
  let value := match v.shape, v.value with
    | .single, none => ""
    | .single, some value => "=" ++ Quoting.declared value
    | shape, _ =>
        let items := v.items.map fun (key, value) => "[" ++ key ++ "]=" ++ Quoting.declared value
        "=(" ++ " ".intercalate items ++ (if shape = .keyed && !items.isEmpty then " " else "") ++ ")"
  "declare " ++ marksOf v ++ " " ++ v.name ++ value ++ "\n"

/-- Keeps what a variable was before its function, unless that is kept already. -/
def keepOld (name : String) : Step Unit := do
  match (← get).locals with
  | [] => return ()
  | known :: others => do
      if !known.any (·.name = name) then
        let old : Variable := ((← get).var? name).getD (.plain name none)
        modify fun s => { s with
          locals := (old :: known) :: others
          vars := s.vars.filter (·.name != name) }

/-- Declares a variable, perhaps with a value. -/
def declareOne (m : Marks) (ownVariable : Bool) (arg : String) : Step Nat := do
  let cs := arg.toList
  let name := String.ofList (cs.takeWhile isNameChar)
  let rest := cs.drop name.length
  let (value, adds) : Option String × Bool := match rest with
    | '=' :: value => (some (String.ofList value), false)
    | '+' :: '=' :: value => (some (String.ofList value), true)
    | _ => (none, false)
  if !isName name || !(rest.isEmpty || value.isSome || rest.head? = some '[') then
    complain ("\x60" ++ arg ++ "': not a valid identifier")
    return 1
  if ownVariable then keepOld name
  let unfixed : Marks := { m with set := m.set.filter (· != 'r') }
  modify fun s => s.change name unfixed.apply
  match value with
  | some value => if adds then assignMore name none value else assign name value
  | none => pure ()
  modify fun s => s.change name m.apply
  return 0

/-- The variables in the order of their names that a declaration of all shows. -/
def shownVars (m : Marks) : Step (List Variable) := do
  let all ← sortedVars
  return all.filter fun v =>
    (!m.set.contains 'x' || v.exported) && (!m.set.contains 'r' || v.fixed)
      && (!m.set.contains 'i' || v.isNumber) && (!m.set.contains 'a' || v.shape = .listed)
      && (!m.set.contains 'A' || v.shape = .keyed)

/-- Declares variables with marks, of which some are given, or shows them. -/
def declareAs (given : List Char) (isLocal : Bool) : Builtin := fun args => do
  let s ← get
  if isLocal && s.locals.isEmpty then protest "" "can only be used in a function" 1
  let (m, operands) ← readMarks "aAfFgiIlnprtux" args ⟨given, []⟩
  if m.set.contains 'f' || m.set.contains 'F' then
    let missing := operands.any fun name => !s.functions.any (·.name = name)
    return if missing then 1 else 0
  if m.set.contains 'p' || operands.isEmpty then
    if operands.isEmpty then put (String.join ((← shownVars m).map declarationOf))
    else
      let mut status := 0
      for name in operands do
        match (← get).var? name with
        | some v => discard <| put (declarationOf v)
        | none => do
            complain (name ++ ": not found")
            status := 1
      return status
  else
    let isOwn := isLocal || (given.isEmpty && !m.set.contains 'g' && !s.locals.isEmpty)
    let mut status := 0
    for arg in operands do
      if (← declareOne m isOwn arg) != 0 then status := 1
    return status

/-- Exports variables, or takes that back. -/
def exportAll : Builtin := fun args => do
  if args.head? = some "-n" then
    for name in args.drop 1 do modify fun s => s.change name fun v => { v with exported := false }
    return 0
  else declareAs ['x'] false args

/-- Computes sums; the exit code tells whether the last one is not zero. -/
def computeAll : Builtin := fun args => do
  if args.isEmpty then protest "" "expression expected" 1
  let mut last : Int := 0
  for arg in args do
    match ← computeSum arg with
    | .ok n => last := n
    | .error e => protest "" (failureWords e) 1
  return if last = 0 then 1 else 0

/-- The lines of a text, with or without their ends. -/
def linesOf (delimiter : Char) (trimmed : Bool) (text : List Char) : List String :=
  let (open_, lines) := text.foldr (fun c (lineAndLines : Option (List Char) × List String) =>
    let (line, lines) := lineAndLines
    if c = delimiter then
      (some (if trimmed then [] else [c]), match line with
        | some cs => String.ofList cs :: lines
        | none => lines)
    else (some (c :: line.getD []), lines)) (none, [])
  match open_ with
  | some cs => String.ofList cs :: lines
  | none => lines

/-- Reads lines into a list. -/
def mapLines : Builtin := fun args => do
  let (f, names, trimmed) ← readLineOptions (args.length + 100) ⟨true, none, '\n', none, 0⟩ false args
  let name := names.headD "MAPFILE"
  if !isName name then protest "" ("\x60" ++ name ++ "': not a valid identifier") 1
  match (← get).opening? f.stream with
  | none => protest "" (toString f.stream ++ ": invalid file descriptor: Bad file descriptor") 1
  | some number => do
      let text := (← readOpening number none).toOption.getD ""
      let lines := linesOf f.delimiter trimmed text.toList
      assignItems name (match f.most with
        | some (n, _) => if n = 0 then lines else lines.take n
        | none => lines)
      return 0
where
  /-- Reads the options, of which `-t` drops the ends of lines. -/
  readLineOptions : Nat → ReadForm → Bool → List String → Step (ReadForm × List String × Bool)
    | 0, f, trimmed, args => return (f, args, trimmed)
    | fuel + 1, f, trimmed, args => do
        match args with
        | "-t" :: rest => readLineOptions fuel f true rest
        | "-d" :: value :: rest => readLineOptions fuel { f with delimiter := value.toList.headD '\x00' } trimmed rest
        | "-n" :: value :: rest => readLineOptions fuel { f with most := some (value.toNat?.getD 0, false) } trimmed rest
        | "-u" :: value :: rest => readLineOptions fuel { f with stream := value.toNat?.getD 0 } trimmed rest
        | "--" :: rest => return (f, rest, trimmed)
        | rest => return (f, rest, trimmed)

/-- The options that change how words are expanded and commands run. -/
def choiceNames : List String :=
  ["autocd", "cdspell", "checkhash", "checkwinsize", "cmdhist", "dirspell", "dotglob", "execfail",
    "expand_aliases", "extglob", "failglob", "globstar", "gnu_errfmt", "histappend", "hostcomplete",
    "huponexit", "inherit_errexit", "interactive_comments", "lastpipe", "lithist", "localvar_inherit",
    "login_shell", "mailwarn", "nocaseglob", "nocasematch", "nullglob", "patsub_replacement", "progcomp",
    "promptvars", "shift_verbose", "sourcepath", "xpg_echo"]

/-- Sets or asks for options that change how words are expanded and commands run. -/
def shopt : Builtin := fun args => do
  let (letters, names) ← options "pqsuo" args
  let mut status := 0
  for name in names do
    if !choiceNames.contains name then
      complain (name ++ ": invalid shell option name")
      status := 1
    else if letters.contains 's' then
      modify fun s => { s with choices := name :: s.choices.filter (· != name) }
    else if letters.contains 'u' then
      modify fun s => { s with choices := s.choices.filter (· != name) }
    else
      let isSet := (← get).choices.contains name
      if !letters.contains 'q' then
        discard <| put (Form.text { Form.plain with left := true, width := 15 } name ++ "\t"
          ++ (if isSet then "on" else "off") ++ "\n")
      if !isSet then status := 1
  return status

/-- The builtins of the extended dialect that do not run other commands, where they
    differ. -/
def moreTable : List (String × Builtin) :=
  [("declare", declareAs [] false), ("typeset", declareAs [] false), ("local", declareAs [] true),
    ("export", exportAll), ("readonly", declareAs ['r'] false), ("let", computeAll),
    ("mapfile", mapLines), ("readarray", mapLines), ("shopt", shopt),
    ("history", fun _ => return 0), ("disown", fun _ => return 0), ("enable", fun _ => return 0),
    ("complete", fun _ => return 0), ("bind", fun _ => return 0), ("caller", fun _ => return 1)]

/-- The builtins of the dialect of a shell that do not run other commands. -/
def tableFor (extended : Bool) : List (String × Builtin) :=
  if extended then moreTable ++ table else table

end GuardedCnf.Script.Builtin
