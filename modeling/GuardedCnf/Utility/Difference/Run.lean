import GuardedCnf.Script.Glyph
import GuardedCnf.Utility.Date
import GuardedCnf.Utility.Difference.Layout
/-! # Differences — what to change in one file to get another

    Two files are compared, or a file and the one of its name in a folder, or what is
    in two folders.  The exit code tells whether there is a difference, or trouble. -/

namespace GuardedCnf.Utility

open Script

namespace Difference

/-- What is compared, and how. -/
structure Request where
  layout : Layout
  style : Option Style
  /-- The distance up to which common lines at the ends are looked at. -/
  horizon : Nat
  /-- The number of lines around a change that a number as an option asks for. -/
  digits : Option Nat
  /-- Whether an option tells the number of lines around a change. -/
  explicit : Bool
  minimal : Bool
  /-- Whether only differences as such are told. -/
  brief : Bool
  /-- Whether files that are the same are told. -/
  tellsSame : Bool
  /-- Whether all files are texts. -/
  isText : Bool
  caseless : Bool
  /-- Whether a carriage return before the end of a line does not count. -/
  stripsReturns : Bool
  /-- Whether files that are not there are empty, all or the first ones. -/
  fills : Bool
  fillsFirst : Bool
  recursive : Bool
  /-- Whether links are not followed. -/
  excluded : List String
  /-- The name with which folders start. -/
  first : String
  labels : List String
  lineFormats : Option String × Option String × Option String
  groupFormats : Option String × Option String × Option String × Option String
  /-- The options as they were given. -/
  words : List String

/-- What is compared if nothing else is asked for. -/
def Request.default : Request where
  layout :=
    { style := .normal, context := 0, tabbed := false, expanded := false, tabSize := 8, trimmed := false
      width := 130, leftOnly := false, onlyChanged := false, heading := none, skipsEmpty := false, skips := []
      blanks := ⟨false, false, false, false⟩, formats := ⟨"", "", "", "", "", "", ""⟩ }
  style := none
  horizon := 0
  digits := none
  explicit := false
  minimal := false
  brief := false
  tellsSame := false
  isText := false
  caseless := false
  stripsReturns := false
  fills := false
  fillsFirst := false
  recursive := false
  excluded := []
  first := ""
  labels := []
  lineFormats := (none, none, none)
  groupFormats := (none, none, none, none)
  words := []

/-! ## Options. -/

/-- Why options are refused, and whether help is suggested. -/
structure Refusal where
  text : String
  helps : Bool

/-- The options. -/
def accepted : Accepted :=
  ⟨"0123456789aBbcdEefHiNnPpqrsTtuwyZ\x01\x02\x03\x04\x05\x09\x0a\x0b",
    "CDFILSUWXx\x06\x07\x0e\x0f\x10\x11\x12\x13\x14\x15",
    [("brief", 'q'), ("changed-group-format", '\x15'), ("color", '\x08'), ("context", 'c'), ("ed", 'e'),
      ("exclude", 'x'), ("exclude-from", 'X'), ("expand-tabs", 't'), ("forward-ed", 'f'),
      ("horizon-lines", '\x07'), ("ifdef", 'D'), ("ignore-all-space", 'w'), ("ignore-blank-lines", 'B'),
      ("ignore-case", 'i'), ("ignore-file-name-case", '\x0a'), ("ignore-matching-lines", 'I'),
      ("ignore-space-change", 'b'), ("ignore-tab-expansion", 'E'), ("ignore-trailing-space", 'Z'),
      ("initial-tab", 'T'), ("label", 'L'), ("left-column", '\x03'), ("line-format", '\x11'), ("minimal", 'd'),
      ("new-file", 'N'), ("new-group-format", '\x13'), ("new-line-format", '\x0f'), ("no-dereference", '\x09'),
      ("no-ignore-file-name-case", '\x0b'), ("normal", '\x01'), ("old-group-format", '\x12'),
      ("old-line-format", '\x0e'), ("rcs", 'n'), ("recursive", 'r'), ("report-identical-files", 's'),
      ("show-c-function", 'p'), ("show-function-line", 'F'), ("side-by-side", 'y'), ("speed-large-files", 'H'),
      ("starting-file", 'S'), ("strip-trailing-cr", '\x04'), ("suppress-blank-empty", '\x05'),
      ("suppress-common-lines", '\x02'), ("tabsize", '\x06'), ("text", 'a'), ("unchanged-group-format", '\x14'),
      ("unchanged-line-format", '\x10'), ("unidirectional-new-file", 'P'), ("unified", 'u'), ("width", 'W')],
    "cu\x08"⟩

/-- A request for a style, unless there is another one. -/
def Request.inStyle (r : Request) (style : Style) : Except Refusal Request :=
  if r.style.all (· == style) then .ok { r with style := some style }
  else .error ⟨"conflicting output style options", true⟩

/-- The number that an option has. -/
def readNumber (wording text : String) : Except Refusal Nat :=
  match natural? text with
  | some n => .ok n
  | none => .error ⟨"invalid " ++ wording ++ " " ++ inQuotes text, true⟩

/-- The pattern that an option has. -/
def readPattern (text : String) : Except Refusal Regex :=
  match Regex.ofText (.searching false false) text with
  | .ok r => .ok r
  | .error message => .error ⟨text ++ ": " ++ message, false⟩

/-- A request with lines around changes. -/
def Request.withContext (r : Request) (style : Style) (value : String) : Except Refusal Request := do
  let r ← r.inStyle style
  if value.isEmpty then return { r with layout.context := max r.layout.context 3 }
  else
    let n ← readNumber "context length" value
    return { r with layout.context := max r.layout.context n, explicit := true }

/-- The formats with which both versions are shown for a compiler that knows a name or
    not. -/
def conditional (name : String) : Option String × Option String × Option String × Option String :=
  let without := "#ifndef " ++ name ++ "\n%<"
  (some (without ++ "#endif /* ! " ++ name ++ " */\n"), some ("#ifdef " ++ name ++ "\n%>#endif /* " ++ name ++ " */\n"),
    some "%=", some (without ++ "#else /* " ++ name ++ " */\n%>#endif /* " ++ name ++ " */\n"))

/-- A request after an option. -/
def Request.take (r : Request) (letter : Char) (value : String) : Except Refusal Request := do
  let loosen (f : Blanks → Blanks) : Request := { r with layout.blanks := f r.layout.blanks }
  match letter with
  | 'a' => return { r with isText := true }
  | 'b' => return loosen fun b => { b with amount := true }
  | 'B' => return { r with layout.skipsEmpty := true }
  | 'c' | 'C' => r.withContext .context value
  | 'u' | 'U' => r.withContext .unified value
  | 'd' => return { r with minimal := true }
  | 'D' => do
      let r ← r.inStyle .merged
      return { r with groupFormats := conditional value }
  | 'e' => r.inStyle .commands
  | 'E' => return loosen fun b => { b with tabs := true }
  | 'f' => r.inStyle .forward
  | 'F' => do
      let p ← readPattern value
      return { r with layout.heading := some (r.layout.heading.elim p (.either · p)) }
  | 'i' => return { r with caseless := true }
  | 'I' => do
      let p ← readPattern value
      return { r with layout.skips := p :: r.layout.skips }
  | 'L' =>
      if r.labels.length = 2 then throw ⟨"too many file label options", false⟩
      else return { r with labels := r.labels ++ [value] }
  | 'n' => r.inStyle .counted
  | 'N' => return { r with fills := true }
  | 'p' => do
      let p ← readPattern "^[[:alpha:]$_]"
      return { r with
        layout.heading := some (r.layout.heading.elim p (.either · p))
        style := some (r.style.getD .context)
        layout.context := if r.style.isNone then 3 else r.layout.context }
  | 'P' => return { r with fillsFirst := true }
  | 'q' => return { r with brief := true }
  | 'r' => return { r with recursive := true }
  | 's' => return { r with tellsSame := true }
  | 'S' => return { r with first := value }
  | 't' => return { r with layout.expanded := true }
  | 'T' => return { r with layout.tabbed := true }
  | 'w' => return loosen fun b => { b with all := true }
  | 'W' => do
      let n ← readNumber "width" value
      if n = 0 then throw ⟨"invalid width " ++ inQuotes value, true⟩ else return { r with layout.width := n }
  | 'x' => return { r with excluded := value :: r.excluded }
  | 'y' => r.inStyle .columns
  | 'Z' => return loosen fun b => { b with trailing := true }
  | '\x01' => r.inStyle .normal
  | '\x02' => return { r with layout.onlyChanged := true }
  | '\x03' => return { r with layout.leftOnly := true }
  | '\x04' => return { r with stripsReturns := true }
  | '\x05' => return { r with layout.trimmed := true }
  | '\x06' => do
      let n ← readNumber "tabsize" value
      if n = 0 then throw ⟨"invalid tabsize " ++ inQuotes value, true⟩ else return { r with layout.tabSize := n }
  | '\x07' => return { r with horizon := max r.horizon (← readNumber "horizon length" value) }
  | '\x08' =>
      if ["", "never", "no", "none", "auto", "tty", "if-tty", "always", "yes", "force"].contains value then return r
      else throw ⟨"invalid color " ++ inQuotes value, true⟩
  | '\x0e' | '\x0f' | '\x10' | '\x11' => do
      let r ← r.inStyle .merged
      let (a, b, c) := r.lineFormats
      return { r with lineFormats := match letter with
        | '\x0e' => (some value, b, c)
        | '\x0f' => (a, some value, c)
        | '\x10' => (a, b, some value)
        | _ => (some value, some value, some value) }
  | '\x12' | '\x13' | '\x14' | '\x15' => do
      let r ← r.inStyle .merged
      let (a, b, c, d) := r.groupFormats
      return { r with groupFormats := match letter with
        | '\x12' => (some value, b, c, d)
        | '\x13' => (a, some value, c, d)
        | '\x14' => (a, b, some value, d)
        | _ => (a, b, c, some value) }
  | c =>
      if c.isDigit then return { r with digits := some (10 * r.digits.getD 0 + (c.toNat - 48)) } else return r

/-- A request whose formats and sizes fit together. -/
def Request.settled (r : Request) : Request :=
  let style := r.style.getD .normal
  let isAround : Bool := style == .context || style == .unified
  let context := match r.digits with
    | some n => if isAround && (r.layout.context < n || !r.explicit) then n else r.layout.context
    | none => r.layout.context
  let (oldLine, newLine, commonLine) := r.lineFormats
  let (old, new, common, changed) := r.groupFormats
  let old := (old <|> changed).getD "%<"
  let new := (new <|> changed).getD "%>"
  let formats : Formats :=
    ⟨oldLine.getD "%l\n", newLine.getD "%l\n", commonLine.getD "%l\n", old, new, common.getD "%=",
      changed.getD (old ++ new)⟩
  { r with
    layout := { r.layout with style := style, context := context, formats := formats }
    horizon := max r.horizon context }

/-- The words of arguments that are options or their values. -/
def optionWords (a : Accepted) : List String → List String
  | [] => []
  | "--" :: _ => []
  | arg :: args =>
      let takesNext : Bool := match arg.toList with
        | '-' :: '-' :: cs =>
            let name := String.ofList cs
            !cs.contains '=' && (a.longOption name name matches .ok _)
              && ((a.longOption name name).toOption.any fun o => a.valued.toList.contains o.2)
        | '-' :: c :: cs => (a.letters none (c :: cs) matches .error (.noValue _))
        | _ => false
      if !(1 < arg.length && arg.startsWith "-") then optionWords a args
      else if takesNext then
        match args with
        | value :: rest => arg :: value :: optionWords a rest
        | [] => [arg]
      else arg :: optionWords a args

/-! ## Texts. -/

/-- The columns of a line without tabs. -/
def withoutTabs (tabSize : Nat) : Nat → List Char → List Char
  | _, [] => []
  | column, '\t' :: cs =>
      let n := tabSize - column % tabSize
      List.replicate n ' ' ++ withoutTabs tabSize (column + n) cs
  | column, c :: cs => c :: withoutTabs tabSize (column + 1) cs

/-- What lines are compared by: the same for lines whose difference does not count. -/
def Request.key (r : Request) (line : String) : String :=
  let b := r.layout.blanks
  let isEnded := line.endsWith "\n"
  let cs := (bare line).toList
  let isBlank := Printing.isBlank
  let trimEnd (cs : List Char) : List Char := (cs.reverse.dropWhile isBlank).reverse
  let cs :=
    if b.all then cs.filter (!isBlank ·)
    else if b.amount then
      let groups := cs.splitBy fun c d => isBlank c = isBlank d
      trimEnd (groups.flatMap fun g => if g.head?.any isBlank then [' '] else g)
    else
      let cs := if b.trailing then trimEnd cs else cs
      if b.tabs then withoutTabs r.layout.tabSize 0 cs else cs
  let cs := if r.caseless then cs.map Char.toLower else cs
  String.ofList (if isEnded || b.isLoose then cs ++ ['\n'] else cs)

/-- The lines of a text with their ends. -/
def endedLines (text : String) : List String :=
  let (lines, ended) := linesOf text
  if ended then lines.map (· ++ "\n") else lines.dropLast.map (· ++ "\n") ++ lines.getLast?.toList

/-- A text without carriage returns at the ends of lines. -/
def withoutReturns : List Char → List Char
  | '\r' :: '\n' :: cs => '\n' :: withoutReturns cs
  | c :: cs => c :: withoutReturns cs
  | [] => []

/-! ## Files. -/

/-- One of two files. -/
inductive Side where
  /-- Not there, which is as if it were empty. -/
  | absent
  | node (id : NodeId)
  | failed (e : FileError)

/-- A file with the name it is told by. -/
structure Source where
  name : String
  side : Side

/-- The source of a name. -/
def sourceOf (name : String) : Step Source := do
  if name = "-" then
    return ⟨name, match (← get).nodeOf? 0 with
      | some id => .node id
      | none => .failed (.other "Bad file descriptor")⟩
  else match ← find true name with
    | .ok (.node id) => return ⟨name, .node id⟩
    | .ok (.free ..) => return ⟨name, .failed .notFound⟩
    | .error e => return ⟨name, .failed e⟩

/-- Whether a source is a folder. -/
def Source.isFolder (s : Source) (t : Tree) : Bool :=
  match s.side with
  | .node id => t.isFolder id
  | _ => false

/-- What a node is called. -/
def kindOf (t : Tree) (id : NodeId) : String :=
  match t.node id with
  | .folder .. => "directory"
  | .file bytes _ => if bytes.isEmpty then "regular empty file" else "regular file"
  | .pipe .. => "fifo"
  | .device _ | .stream _ => "character special file"
  | .program _ | .link _ => "regular file"

/-- Tells trouble. -/
def trouble (text : String) : Step Nat := do
  warn "diff" text
  return 2

/-- Writes what is found out. -/
def tell (text : String) (status : Nat) : Step Nat := do
  match ← write 1 text with
  | .ok () => return status
  | .error e => trouble ("standard output: " ++ cause e)

/-- What a file is called: by its label, or by its name. -/
def Request.called (r : Request) (which : Nat) (name : String) : String := (r.labels[which]?).getD name

/-- What comes before hunks: the names of files, with their times. -/
def Request.heading (r : Request) (x y : Source) : Step String := do
  let s ← get
  let micros : Int := 1000 * s.machine.host.date + Int.ofNat s.machine.time
  let time (side : Side) : String :=
    let micros := if side matches .absent then 0 else micros
    let format := if r.layout.style == .unified then "%Y-%m-%d %H:%M:%S.%N %z" else "%a %b %e %T %Y"
    (Moment.ofSeconds (micros.fdiv 1000000)).filled (micros.fdiv 1000000) (1000 * (micros.fmod 1000000).toNat)
      format.toList
  let line (mark : String) (which : Nat) (s : Source) : String :=
    mark ++ " " ++ (r.labels[which]?).getD (s.name ++ "\t" ++ time s.side) ++ "\n"
  match r.layout.style with
  | .unified => return line "---" 0 x ++ line "+++" 1 y
  | .context => return line "***" 0 x ++ line "---" 1 y
  | _ => return ""

/-- Compares the contents of two files, which are in folders if `isInner`. -/
def Request.compareTexts (r : Request) (isInner : Bool) (x y : Source) (old new : String) : Step Nat := do
  let l := r.layout
  let (oldName, newName) := (r.called 0 x.name, r.called 1 y.name)
  let names (kind : String) : String := kind ++ " " ++ oldName ++ " and " ++ newName ++ " differ\n"
  let isBinary : Bool := !r.isText && (old.toList.contains '\x00' || new.toList.contains '\x00')
  if isBinary then
    if old = new then return 0
    else if r.brief then tell (names "Files") 1
    else tell (names "Binary files") 2
  else
    let prepare (text : String) : String := if r.stripsReturns then String.ofList (withoutReturns text.toList) else text
    let isLoose : Bool := l.style == .commands || l.style == .forward
    let linesIn (text : String) : List String :=
      (endedLines (prepare text)).map fun line => if isLoose && !line.endsWith "\n" then line ++ "\n" else line
    let (xs, ys) := (linesIn old, linesIn new)
    let t : Texts := ⟨xs.toArray, ys.toArray⟩
    let found := changes r.minimal r.horizon r.key xs ys
    let differs := found.any fun c => !l.isIdle t c
    let unended : List String := if !isLoose then [] else
      [(oldName, old), (newName, new)].filterMap fun (name, text) =>
        if text.isEmpty || text.endsWith "\n" then none else some name
    let status ←
      if r.brief then if differs then tell (names "Files") 1 else pure 0
      else if differs || l.showsCommon then do
        let shown := l.shown t found
        let title := if isInner then
          " ".intercalate ("diff" :: r.words.map shownWord ++ [shownWord x.name, shownWord y.name]) ++ "\n" else ""
        let heading ← r.heading x y
        if shown.isEmpty && !(l.style == .columns) then pure (if differs then 1 else 0)
        else tell (title ++ heading ++ shown) (if differs then 1 else 0)
      else pure 0
    for name in unended do warn "diff" (name ++ ": No newline at end of file\n")
    return if unended.isEmpty then status else 2

/-- The text of a source. -/
def textOf (s : Source) : Step (Except FileError String) := do
  match s.side with
  | .absent => return .ok ""
  | .failed e => return .error e
  | .node _ => input s.name

/-- The names in a folder that are compared. -/
def Request.namesIn (r : Request) (s : Source) : Step (List String) := do
  let t := (← host).tree
  match s.side with
  | .node id =>
      let names := (t.entries id).map (·.1)
      let names := names.filter fun name => !r.excluded.any fun pattern => Glyph.matchesText pattern name
      return (names.filter fun name => !(name < r.first)).mergeSort fun a b => !(b < a)
  | _ => return []

/-- Names of two sorted lists in one list, with what list has them. -/
def mergeNames : Nat → List String → List String → List (Bool × Bool × String)
  | 0, _, _ => []
  | _, [], ys => ys.map fun y => (false, true, y)
  | _, xs, [] => xs.map fun x => (true, false, x)
  | fuel + 1, x :: xs, y :: ys =>
      if x = y then (true, true, x) :: mergeNames fuel xs ys
      else if x < y then (true, false, x) :: mergeNames fuel xs (y :: ys)
      else (false, true, y) :: mergeNames fuel (x :: xs) ys

/-- The path of a name in a folder. -/
def within (folder name : String) : String := if folder.endsWith "/" then folder ++ name else folder ++ "/" ++ name

/-- The last name of a path. -/
def lastName (path : String) : String :=
  let cs := (path.toList.reverse.dropWhile (· = '/')).takeWhile (· != '/')
  String.ofList cs.reverse

mutual

/-- Compares two sources; inner ones are in folders. -/
def Request.compare (r : Request) : Nat → Option (Source × Source) → Source → Source → Step Nat
  | 0, _, _, _ => return 2
  | fuel + 1, outer, x, y => do
      let t := (← host).tree
      let fill (can : Bool) (s other : Source) : Source :=
        if can && outer.isNone && (s.side matches .failed .notFound) && (other.side matches .node _) then
          { s with side := .absent } else s
      let (x, y) := (fill (r.fills || r.fillsFirst) x y, fill r.fills y x)
      let mut failed := false
      for s in [x, y] do
        if let .failed e := s.side then
          discard <| trouble (s.name ++ ": " ++ cause e)
          failed := true
      if failed then return 2
      -- A file is compared with the one of its name in a folder.
      if outer.isNone && x.isFolder t != y.isFolder t && !(x.side matches .absent) && !(y.side matches .absent) then
        let file := if x.isFolder t then y.name else x.name
        if file = "-" then return ← trouble "cannot compare '-' to a directory"
        let inside (s : Source) : Step Source := do
          if s.isFolder t then sourceOf (within s.name (lastName file)) else return s
        let (x, y) := (← inside x, ← inside y)
        for s in [x, y] do
          if let .failed e := s.side then return ← trouble (s.name ++ ": " ++ cause e)
        r.compareFiles fuel outer x y
      else r.compareFiles fuel outer x y

/-- Compares two sources that are there. -/
def Request.compareFiles (r : Request) : Nat → Option (Source × Source) → Source → Source → Step Nat
  | 0, _, _, _ => return 2
  | fuel + 1, outer, x, y => do
      let t := (← host).tree
      let isSame : Bool := match x.side, y.side with
        | .node i, .node j => i == j
        | _, _ => false
      let status ←
        if isSame && !r.layout.showsCommon then pure 0
        else if x.isFolder t && y.isFolder t then
          if r.layout.style == .merged then trouble "-D option not supported with directories"
          else if outer.isSome && !r.recursive then
            tell ("Common subdirectories: " ++ x.name ++ " and " ++ y.name ++ "\n") 0
          else r.compareFolders fuel x y
        else if x.isFolder t || y.isFolder t then
          match x.side, y.side, outer with
          | .node i, .node j, _ =>
              tell ("File " ++ r.called 0 x.name ++ " is a " ++ kindOf t i ++ " while file " ++ r.called 1 y.name
                ++ " is a " ++ kindOf t j ++ "\n") 1
          | xSide, _, some (above, besides) =>
              if r.recursive && (r.fills || (r.fillsFirst && xSide matches .absent)) then r.compareFolders fuel x y
              else tell ("Only in " ++ (if xSide matches .absent then besides.name else above.name) ++ ": "
                ++ lastName x.name ++ "\n") 1
          | _, _, none => pure 0
        else
          match ← textOf x with
          | .error e => trouble (x.name ++ ": " ++ cause e)
          | .ok old => do
              match ← if isSame then pure (.ok old) else textOf y with
              | .error e => trouble (y.name ++ ": " ++ cause e)
              | .ok new => r.compareTexts outer.isSome x y old new
      if status = 0 && r.tellsSame && !x.isFolder t then
        tell ("Files " ++ r.called 0 x.name ++ " and " ++ r.called 1 y.name ++ " are identical\n") 0
      else return status

/-- Compares what is in two folders. -/
def Request.compareFolders (r : Request) : Nat → Source → Source → Step Nat
  | 0, _, _ => return 2
  | fuel + 1, x, y => do
      let (olds, news) := (← r.namesIn x, ← r.namesIn y)
      let mut status := 0
      for (isOld, isNew, name) in mergeNames (olds.length + news.length + 1) olds news do
        let missing : Bool := !(isOld && isNew) && !r.fills && !(r.fillsFirst && isNew)
        let code ←
          if missing then tell ("Only in " ++ (if isOld then x.name else y.name) ++ ": " ++ name ++ "\n") 1
          else do
            let side (there : Bool) (s : Source) : Step Source :=
              if there then sourceOf (within s.name name) else return ⟨within s.name name, .absent⟩
            r.compare fuel (some (x, y)) (← side isOld x) (← side isNew y)
        status := max status code
      return status

end

end Difference

open Difference in
/-- Shows how two files differ. -/
def diff : Utility := fun args => do
  let refuse (text : String) : Step Nat := do
    warn "diff" text
    report ((← calledAs "diff") ++ ": ")
    suggestHelp "diff"
    return 2
  match accepted.read true (args.length + 1) args with
  | .error e => refuse e.message
  | .ok a =>
      match a.options.foldlM (fun (r : Difference.Request) o => r.take o.1 o.2) Request.default with
      | .error e => if e.helps then refuse e.text else trouble e.text
      | .ok r =>
          match a.operands with
          | [x, y] => do
              let mut r := { r.settled with words := optionWords accepted args }
              for path in a.values 'X' do
                match ← input path with
                | .ok text => r := { r with excluded := (linesOf text).1 ++ r.excluded }
                | .error e => return ← trouble (path ++ ": " ++ cause e)
              r.compare 400 none (← sourceOf x) (← sourceOf y)
          | _ :: _ :: extra :: _ => refuse ("extra operand " ++ inQuotes extra)
          | _ => refuse ("missing operand after " ++ inQuotes (args.getLast?.getD "diff"))

end GuardedCnf.Utility
