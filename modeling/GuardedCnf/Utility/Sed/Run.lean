import GuardedCnf.Utility.Files
import GuardedCnf.Utility.Sed.Program
/-! # The line editor

    A program runs for each line.  The line is in the pattern space, which is
    written at the end of the program; the hold space keeps a text from one line
    to the next.  Files are opened when their first line is needed. -/

namespace GuardedCnf.Utility

open Script

namespace Sed

/-- How a program is run. -/
structure Setting where
  program : Array Instruction
  quiet : Bool
  /-- Whether lines and numbers begin again with each file. -/
  separate : Bool
  /-- What is added to the names of files that are edited in place. -/
  inPlace : Option String
  /-- How lines end. -/
  lineEnd : Char
  width : Nat
  /-- Whether no more is read than what is needed. -/
  sparing : Bool
  /-- Whether the last line is dropped if it should be joined with a next one. -/
  strict : Bool

/-- What is written to. -/
structure Outlet where
  text : Array String
  /-- Whether the last line has no end yet. -/
  isOpen : Bool
  opening : Option Nat

/-- What is written after a line. -/
inductive Appendix where
  | text (s : String)
  | file (path : String)

/-- The state of a program. -/
structure State where
  /-- The lines that are left of the file, with whether they have an end. -/
  rest : List (String × Bool)
  /-- The opening that the lines are from, if that can be shared. -/
  source : Option Nat
  files : List String
  name : String
  /-- Whether a file was not there. -/
  failed : Bool
  /-- Whether the next line is the first one of its file. -/
  fresh : Bool
  number : Nat
  /-- The pattern space, and whether its line has an end. -/
  space : String
  ended : Bool
  hold : String
  holdEnded : Bool
  appendices : Array Appendix
  /-- The ranges that are open, by their instructions, and their last lines if
      these are known. -/
  ranges : List (Nat × Option Nat)
  /-- The output of the program. -/
  main : Outlet
  outlets : List (String × Outlet)
  /-- The lines that are left of files that are read line by line. -/
  inlets : List (String × List (String × Bool))
  replaced : Bool
  lastPattern : Option Regex

/-- A step of a program. -/
abbrev Edit := StateT State Step

/-- A step of the surroundings. -/
def step {α : Type} (x : Step α) : Edit α := fun s => do return (← x, s)

/-- Why a program does not go on with the next instruction. -/
inductive Ending where
  | next
  /-- The line is not written. -/
  | deleted
  /-- The same, and the next round has the pattern space that is left. -/
  | again
  | quit (code : Nat) (quiet : Bool)
  /-- A failure with a message. -/
  | failed (message : String) (code : Nat)
  | stuck

/-! ## Output. -/

/-- Changes what an outlet holds. -/
def onOutlet (name : Option String) (f : Outlet → Outlet) : Edit Unit := modify fun s =>
  match name with
  | none => { s with main := f s.main }
  | some name =>
      { s with outlets := s.outlets.map fun (n, o) => if n = name then (n, f o) else (n, o) }

/-- Adds a text after a line that has its end. -/
def Outlet.add (o : Outlet) (lineEnd : Char) (text : String) (ended : Bool) : Outlet :=
  let sofar := if o.isOpen then o.text.push (String.singleton lineEnd) else o.text
  { o with text := sofar.push text, isOpen := !ended }

/-- Writes a text that has its own line ends. -/
def put (t : Setting) (text : String) : Edit Unit := onOutlet none (·.add t.lineEnd text true)

/-- The text of a line with its end, if it has one. -/
def ending (t : Setting) (line : String) (ended : Bool) : String :=
  if ended then line.push t.lineEnd else line

/-- Writes a line as the pattern space would be written. -/
def putLine (t : Setting) (outlet : Option String) (line : String) : Edit Unit := do
  let ended := (← get).ended
  onOutlet outlet (·.add t.lineEnd (ending t line ended) ended)

/-- The outlet for a path. -/
def outletFor (t : Setting) (path : String) : Option String :=
  if path = "/dev/stdout" && t.inPlace.isNone then none else some path

/-- What is in a file, or nothing. -/
def contentOf (path : String) : Step String := do
  let text ← readPath path
  let text ← if text.toOption.isNone && path = "/dev/stdin" then readStream 0 else pure text
  return text.toOption.getD ""

/-- Writes what waits for the end of the line. -/
def flush (t : Setting) : Edit Unit := do
  let s ← get
  set { s with appendices := #[] }
  s.appendices.forM fun a => match a with
    | .text text => put t text
    | .file path => do put t (← step (contentOf path))

/-! ## Lines. -/

/-- The lines of a text, with whether they have an end. -/
def flagged (lineEnd : Char) (text : String) : List (String × Bool) :=
  let lines := text.splitOn (String.singleton lineEnd)
  match lines.reverse with
  | [] => []
  | last :: before =>
      before.reverse.map (·, true) ++ (if last.isEmpty then [] else [(last, false)])

/-- Ends the file that is edited in place. -/
def closeFile (t : Setting) : Edit (Option String) := do
  let s ← get
  match t.inPlace with
  | none => return none
  | some suffix =>
      if s.name.isEmpty then return none
      else
        let text := String.join s.main.text.toList
        set { s with main := ⟨#[], false, none⟩, name := "" }
        let (folder, name) := splitPath s.name
        step do
          match ← entryOf s.name, ← nodeOf true s.name with
          | .ok (id, _), .ok old => do
              let runs := match (← host).tree.node old with
                | .file _ executable => executable
                | _ => false
              if !suffix.isEmpty then
                let backup := if suffix.toList.contains '*' then name.intercalate (suffix.splitOn "*")
                  else name ++ suffix
                let path := if backup.toList.contains '/' then backup
                  else if s.name.toList.contains '/' then inFolder folder backup else backup
                match ← entryOf path with
                | .ok (place, name) => onTree fun tree => tree.bind place name old
                | .error e => return some ("cannot rename " ++ s.name ++ ": " ++ cause e)
              onTree fun tree => (tree.insert id name (.file (Octets.toBytes text) runs)).2
              return none
          | _, _ => return none

/-- Opens the next file; `false` if there is none. -/
def openNext (t : Setting) : Edit (Except (String × Nat) Bool) := do
  let s ← get
  match s.files with
  | [] => return .ok false
  | name :: files => do
      match ← closeFile t with
      | some message => return .error (message, 4)
      | none => pure ()
      modify fun s => { s with files := files, name := "", rest := [], source := none }
      let refused (message : String) : Edit (Except (String × Nat) Bool) := do
        step (warn "sed" message)
        return .ok true
      let isRegular : Bool ← match ← step (nodeOf true name) with
        | .ok id => do pure ((← step host).tree.node id matches .file ..)
        | .error _ => pure true
      if t.inPlace.isSome && !isRegular then
        modify fun s => { s with failed := true }
        step (warn "sed" ("couldn't edit " ++ name ++ ": not a regular file"))
        return .error ("", 4)
      else
        match ← step (input name) with
        | .error .isDirectory => return .error ("read error on " ++ name ++ ": Is a directory", 4)
        | .error e => do
            modify fun s => { s with failed := true }
            refused ("can't read " ++ name ++ ": " ++ cause e)
        | .ok text => do
            let source ← if name = "-" then (return (← step get).opening? 0) else pure none
            modify fun s => { s with
              name := name
              rest := flagged t.lineEnd text
              source := source
              fresh := t.separate }
            return .ok true

/-- Why reading stops for good. -/
abbrev Stopped := Except (String × Nat)

/-- Opens files until there is a line; `false` if there is none. -/
def findLine (t : Setting) : Nat → Edit (Stopped Bool)
  | 0 => return .ok false
  | fuel + 1 => do
      if !(← get).rest.isEmpty then return .ok true
      else
        match ← openNext t with
        | .error e => return .error e
        | .ok false => return .ok false
        | .ok true => findLine t fuel

/-- Whether the current line is the last one. -/
def isLast (t : Setting) : Edit (Stopped Bool) := do
  let s ← get
  if !s.rest.isEmpty then return .ok false
  else if t.separate then return .ok true
  else
    match ← findLine t (s.files.length + 1) with
    | .error e => return .error e
    | .ok found => return .ok (!found)

/-- The ranges that are open at the beginning of a file. -/
def openRanges (t : Setting) : List (Nat × Option Nat) :=
  t.program.toList.zipIdx.filterMap fun (i, place) =>
    match i.lines.first, i.lines.stop with
    | some (.line 0), some _ => some (place, none)
    | _, _ => none

/-- Takes the next line into the pattern space, after what is there if `joined`. -/
def takeLine (t : Setting) (joined : Bool) : Edit (Stopped Bool) := do
  match ← findLine t ((← get).files.length + 1) with
  | .error e => return .error e
  | .ok false => return .ok false
  | .ok true => do
      if (← get).fresh then
        modify fun s => { s with
          fresh := false
          number := 0
          ranges := openRanges t
          inlets := [] }
        let o := (← get).main
        if o.isOpen then put t ""
      modify fun s =>
        match s.rest with
        | [] => s
        | (line, ended) :: rest =>
            { s with
              rest := rest
              number := s.number + 1
              space := if joined then s.space.push t.lineEnd ++ line else line
              ended := ended }
      return .ok true

/-! ## Addresses. -/

/-- Whether a pattern matches the pattern space; it becomes the last one. -/
def isMatch (r : Option Regex) : Edit (Stopped Bool) := do
  let s ← get
  match r <|> s.lastPattern with
  | none => return .error ("-e expression #1, char 0: no previous regular expression", 1)
  | some r => do
      set { s with lastPattern := some r }
      return .ok (r.isIn s.space)

/-- Whether an address is for the current line. -/
def meets (t : Setting) (a : Address) : Edit (Stopped Bool) := do
  let s ← get
  match a with
  | .line n => return .ok (s.number = n)
  | .last => isLast t
  | .steps first size =>
      return .ok (if size = 0 then s.number = first
        else first ≤ s.number && (s.number - first) % size = 0)
  | .matching r => isMatch r

/-- Whether an instruction at a place is for the current line. -/
def applies (t : Setting) (place : Nat) (l : Lines) : Edit (Stopped Bool) := do
  let setRange (last : Option (Option Nat)) : Edit Unit := modify fun s =>
    let others := s.ranges.filter (·.1 != place)
    { s with ranges := match last with
      | some last => (place, last) :: others
      | none => others }
  let begins (stop : Stop) : Edit (Stopped Bool) := do
    let n := (← get).number
    match stop with
    | .at (.line m) => if n < m then setRange (some (some m))
    | .at .last =>
        match ← isLast t with
        | .error e => return .error e
        | .ok isLast => if !isLast then setRange (some none)
    | .at _ => setRange (some none)
    | .after k => if k != 0 then setRange (some (some (n + k)))
    | .multiple k => if k != 0 then setRange (some (some (n + k - n % k)))
    return .ok true
  let orBegins (a : Address) (stop : Stop) : Edit (Stopped Bool) := do
    match ← meets t a with
    | .ok true => begins stop
    | other => return other
  let inside : Edit (Stopped Bool) := do
    match l.first, l.stop with
    | none, _ => return .ok true
    | some (.line 0), none => return .ok ((← get).number = 1)
    | some a, none => meets t a
    | some a, some stop =>
        let s ← get
        match s.ranges.lookup place with
        | some (some last) => do
            if last ≤ s.number then setRange none
            if last < s.number then orBegins a stop else return .ok true
        | some none => do
            let ends ← match stop with
              | .at a => meets t a
              | _ => pure (.ok true)
            match ends with
            | .error e => return .error e
            | .ok ends => do
                setRange (if ends then none else some none)
                return .ok true
        | none => orBegins a stop
  match ← inside with
  | .ok b => return .ok (b != l.negated)
  | .error e => return .error e

/-! ## Substitutions. -/

/-- How the case of characters changes. -/
structure Case where
  /-- For all that follow. -/
  all : Option Bool
  /-- For the next one. -/
  one : Option Bool

/-- Adds characters in a case. -/
def addCased (case : Case) (sofar : Array Char) : List Char → Array Char × Case
  | [] => (sofar, case)
  | c :: cs =>
      let upper := case.one <|> case.all
      let d := match upper with
        | some true => c.toUpper
        | some false => c.toLower
        | none => c
      addCased { case with one := none } (sofar.push d) cs

/-- What a match is replaced with. -/
def replaced (text : Array Char) (m : Regex.Match) (parts : List Part) : List Char :=
  (parts.foldl (fun (sofar, case) part => match part with
    | .text c => addCased case sofar [c]
    | .group n => addCased case sofar (m.group text n).toList
    | .case c => (sofar, match c with
        | 'U' => (⟨some true, none⟩ : Case)
        | 'L' => ⟨some false, none⟩
        | 'u' => { case with one := some true }
        | 'l' => { case with one := some false }
        | _ => ⟨none, none⟩)) ((#[] : Array Char), (⟨none, none⟩ : Case))).1.toList

/-- Replaces matches from a place on; `count` tells how many there were before
    and `barred` where no empty match can be. -/
def replaceFrom (s : Substitution) (r : Regex) (text : Array Char) :
    Nat → Nat → Nat → Option Nat → Array Char → Bool → Array Char × Bool
  | 0, start, _, _, sofar, any => (sofar ++ text.extract start text.size, any)
  | fuel + 1, start, count, barred, sofar, any =>
      let rest (from_ : Nat) : Array Char := text.extract from_ text.size
      match r.search text start with
      | none => (sofar ++ rest start, any)
      | some m =>
          let before := text.extract start m.start
          if m.start = m.stop && barred = some m.start then
            if h : m.start < text.size then
              replaceFrom s r text fuel (m.start + 1) count none (sofar ++ before |>.push text[m.start]) any
            else (sofar ++ before, any)
          else
            let count := count + 1
            let chosen := s.number ≤ count
            let new := if chosen then (replaced text m s.parts).toArray else text.extract m.start m.stop
            let sofar := sofar ++ before ++ new
            let any := any || chosen
            if chosen && !s.everywhere then (sofar ++ rest m.stop, any)
            else if m.stop = m.start then
              if h : m.start < text.size then
                replaceFrom s r text fuel (m.start + 1) count none (sofar.push text[m.start]) any
              else (sofar, any)
            else replaceFrom s r text fuel m.stop count (some m.stop) sofar any

/-- The output of a command without the last line end. -/
def commandText (t : Setting) (spawn : Spawn) (command : String) : Step String := do
  let text ← outputOf spawn command
  return if text.toList.getLast? = some t.lineEnd then String.ofList text.toList.dropLast else text

/-- Makes a substitution in the pattern space. -/
def substitute (t : Setting) (spawn : Spawn) (u : Substitution) : Edit (Stopped Unit) := do
  let s ← get
  match u.pattern <|> s.lastPattern with
  | none => return .error ("-e expression #1, char 0: no previous regular expression", 1)
  | some r => do
      let text := s.space.toList.toArray
      let (new, any) := replaceFrom u r text (text.size + 2) 0 0 none #[] false
      set { s with lastPattern := some r }
      if any then
        let line ←
          if u.runs then step (commandText t spawn (String.ofList new.toList))
          else pure (String.ofList new.toList)
        modify fun s => { s with space := line, replaced := true }
        if u.print then putLine t none line
        match u.file with
        | some path => putLine t (outletFor t path) line
        | none => pure ()
      return .ok ()

/-! ## Programs. -/

/-- The place after the block that begins before a place. -/
def blockEnd (program : Array Instruction) : Nat → Nat → Nat → Nat
  | 0, place, _ => place
  | fuel + 1, place, depth =>
      match (program[place]?).map Instruction.action with
      | some .open_ => blockEnd program fuel (place + 1) (depth + 1)
      | some .close => if depth = 0 then place + 1 else blockEnd program fuel (place + 1) (depth - 1)
      | some _ => blockEnd program fuel (place + 1) depth
      | none => place

/-- The place of a label. -/
def labelPlace (program : Array Instruction) (name : String) : Nat :=
  if name.isEmpty then program.size
  else program.toList.findIdx fun i => match i.action with
    | .label other => other = name
    | _ => false

/-- How a character of a line is shown. -/
def shownChar (c : Char) : String :=
  match c with
  | '\\' => "\\\\"
  | '\t' => "\\t"
  | '\n' => "\\n"
  | '\r' => "\\r"
  | c =>
      if c.toNat = 7 then "\\a"
      else if c.toNat = 8 then "\\b"
      else if c.toNat = 11 then "\\v"
      else if c.toNat = 12 then "\\f"
      else if ' ' ≤ c && c ≤ '~' then String.singleton c
      else "\\" ++ String.ofList [Char.ofNat (48 + c.toNat / 64), Char.ofNat (48 + c.toNat / 8 % 8),
        Char.ofNat (48 + c.toNat % 8)]

/-- A line with its unusual characters visible, in lines of so many columns; 0 is
    for any number of them. -/
def visible (width : Nat) (line : String) : String :=
  (line.toList.foldl (fun (sofar, column) c =>
    let shown := shownChar c
    if width != 0 && width - 1 < column + shown.length then (sofar ++ "\\\n" ++ shown, shown.length)
    else (sofar ++ shown, column + shown.length)) ("", 0)).1 ++ "$"

/-- The part of a text up to a line end. -/
def firstLine (t : Setting) (text : String) : String :=
  String.ofList (text.toList.takeWhile (· != t.lineEnd))

/-- Whether the current line is the last one of the range of an instruction. -/
def endsRange (place : Nat) (l : Lines) : Edit Bool := do
  return l.stop.isNone || l.negated || !(← get).ranges.any (·.1 = place)

/-- Takes the next line of a file for an instruction. -/
def nextLineOf (t : Setting) (path : String) : Edit (Option String) := do
  let lines ← match (← get).inlets.lookup path with
    | some lines => pure lines
    | none => do
        pure (flagged t.lineEnd (← step (contentOf path)))
  let others := (← get).inlets.filter (·.1 != path)
  modify fun s => { s with inlets := (path, lines.drop 1) :: others }
  return lines.head?.map fun (line, ended) => ending t line ended

/-- Runs an action without arguments; the ending tells whether to go on. -/
def plain (t : Setting) (c : Char) : Edit Ending := do
  let setSpace (f : State → String × Bool) : Edit Ending := do
    modify fun s =>
      let (space, ended) := f s
      { s with space := space, ended := ended }
    return .next
  let printed : Edit Unit := do
    if !t.quiet then putLine t none (← get).space
  let fetched (joined : Bool) : Edit Ending := do
    flush t
    match ← takeLine t joined with
    | .ok true => return .next
    | .ok false => return .deleted
    | .error (message, code) => return .failed message code
  match c with
  | '=' => do
      put t (ending t (toString (← get).number) true)
      return .next
  | 'd' => return .deleted
  | 'D' => do
      let space := (← get).space
      if space.toList.contains t.lineEnd then
        modify fun s => { s with
          space := String.ofList ((space.toList.dropWhile (· != t.lineEnd)).drop 1) }
        return .again
      else return .deleted
  | 'g' => setSpace fun s => (s.hold, s.holdEnded)
  | 'G' => setSpace fun s => (s.space.push t.lineEnd ++ s.hold, s.holdEnded)
  | 'h' => do
      modify fun s => { s with hold := s.space, holdEnded := s.ended }
      return .next
  | 'H' => do
      modify fun s => { s with hold := s.hold.push t.lineEnd ++ s.space, holdEnded := s.ended }
      return .next
  | 'x' => do
      modify fun s => { s with hold := s.space, holdEnded := s.ended, space := s.hold, ended := s.holdEnded }
      return .next
  | 'z' => setSpace fun s => ("", s.ended)
  | 'p' => do
      putLine t none (← get).space
      return .next
  | 'P' => do
      put t (ending t (firstLine t (← get).space) true)
      return .next
  | 'F' => do
      put t (ending t (← get).name true)
      return .next
  | 'n' =>
      match ← isLast t with
      | .error (message, code) => return .failed message code
      | .ok isLast => do
          if !(isLast && t.strict) then printed
          if isLast then return .deleted else fetched false
  | 'N' =>
      match ← isLast t with
      | .error (message, code) => return .failed message code
      | .ok true => do
          if !t.strict then printed
          return .deleted
      | .ok false => fetched true
  | _ => return .next

/-- Runs the instructions from a place on. -/
def execute (t : Setting) (spawn : Spawn) : Nat → Nat → Edit Ending
  | 0, _ => return .stuck
  | fuel + 1, place => do
      match t.program[place]? with
      | none => return .next
      | some i =>
          let goOn : Edit Ending := execute t spawn fuel (place + 1)
          match ← applies t place i.lines with
          | .error (message, code) => return .failed message code
          | .ok false =>
              match i.action with
              | .open_ => execute t spawn fuel (blockEnd t.program t.program.size (place + 1) 0)
              | _ => goOn
          | .ok true =>
            match i.action with
            | .substitute u => do
                match ← substitute t spawn u with
                | .ok () => goOn
                | .error (message, code) => return .failed message code
            | .translate pairs => do
                modify fun s => { s with
                  space := String.ofList (s.space.toList.map fun c => (pairs.lookup c).getD c) }
                goOn
            | .append text => do
                if !text.isEmpty then
                  modify fun s => { s with appendices := s.appendices.push (.text text) }
                goOn
            | .insert text => do
                put t text
                goOn
            | .change text => do
                if ← endsRange place i.lines then put t text
                return .deleted
            | .run (some command) => do
                let text ← step (outputOf spawn (String.ofList command.toList.dropLast))
                put t text
                goOn
            | .run none => do
                let text ← step (commandText t spawn (← get).space)
                modify fun s => { s with space := text }
                goOn
            | .read path false => do
                match i.lines.first with
                | some (.line 0) => put t (← step (contentOf path))
                | _ => modify fun s => { s with appendices := s.appendices.push (.file path) }
                goOn
            | .read path true => do
                match ← nextLineOf t path with
                | some line => modify fun s => { s with appendices := s.appendices.push (.text line) }
                | none => pure ()
                goOn
            | .write path onlyFirst => do
                let space := (← get).space
                if onlyFirst then
                  onOutlet (outletFor t path) (·.add t.lineEnd (ending t (firstLine t space) true) true)
                else putLine t (outletFor t path) space
                goOn
            | .quit code quiet => return .quit code quiet
            | .show width => do
                let width := width.getD t.width
                put t (ending t (visible width (← get).space) true)
                goOn
            | .branch when_ name => do
                let s ← get
                let jumps := when_.isNone || when_ = some s.replaced
                if when_.isSome then set { s with replaced := false }
                if jumps then execute t spawn fuel (labelPlace t.program name) else goOn
            | .label _ | .open_ | .close => goOn
            | .plain c => do
                match ← plain t c with
                | .next => goOn
                | ending => return ending

/-- How many instructions run for one line. -/
def manyInstructions : Nat := 1000000

/-- How many rounds there are. -/
def manyRounds : Nat := 1000000000

/-- Gives back what was read of a shared input and not used. -/
def giveBack (t : Setting) : Edit Unit := do
  let s ← get
  match s.source with
  | none => return ()
  | some number => do
      let left := s.rest.foldl (fun n (line, ended) => n + line.length + (if ended then 1 else 0)) 0
      step do
        let isFile := (← host).nodeAt number matches .file ..
        if isFile || t.sparing then onHost fun h => ((), h.unread number left)

/-- Runs the program for lines until there are no more, and gives the exit code.
    The pattern space stays as it is for a round that begins `again`. -/
def rounds (t : Setting) (spawn : Spawn) : Nat → Bool → Edit Nat
  | 0, _ => step (throw .late)
  | fuel + 1, again => do
      let failed (message : String) (code : Nat) : Edit Nat := do
        if !message.isEmpty then step (warn "sed" message)
        return code
      let finished : Edit Nat := do
        match ← closeFile t with
        | some message => failed message 4
        | none => return if (← get).failed then 2 else 0
      match ← (if again then pure (.ok true) else takeLine t false) with
      | .error (message, code) => failed message code
      | .ok false => finished
      | .ok true => do
          modify fun s => { s with replaced := s.replaced && again }
          let written : Edit Unit := do
            if !t.quiet then putLine t none (← get).space
            flush t
          match ← execute t spawn manyInstructions 0 with
          | .next => do
              written
              rounds t spawn fuel false
          | .deleted => do
              flush t
              rounds t spawn fuel false
          | .again => do
              flush t
              rounds t spawn fuel true
          | .quit code quiet => do
              if quiet then flush t else written
              giveBack t
              discard <| closeFile t
              return if (← get).failed then 2 else code
          | .failed message code => failed message code
          | .stuck => step (throw .late)

/-! ## Files. -/

/-- The files that a program writes. -/
def written (program : Array Instruction) : List String :=
  (program.toList.filterMap fun i => match i.action with
    | .write path _ => some path
    | .substitute s => s.file
    | _ => none).eraseDups

/-- Opens the files that a program writes. -/
def openOutlets : List String → Step (Except String (List (String × Outlet)))
  | [] => return .ok []
  | path :: paths => do
      let opened : Except FileError (Option Nat) ← match path with
        | "/dev/stdout" => do pure (.ok ((← get).opening? 1))
        | "/dev/stderr" => do pure (.ok ((← get).opening? 2))
        | _ => do pure ((← openPath path .create).map some)
      match opened with
      | .error e => return .error ("couldn't open file " ++ path ++ ": " ++ cause e)
      | .ok opening => do
          match ← openOutlets paths with
          | .error message => return .error message
          | .ok others => return .ok ((path, ⟨#[], false, opening⟩) :: others)

/-- Writes what outlets hold. -/
def writeOutlets (outlets : List (String × Outlet)) (code : Nat) : Step Nat := do
  let mut code := code
  for (path, o) in outlets do
    match o.opening with
    | none => pure ()
    | some number =>
        match ← writeOpening number (String.join o.text.toList) with
        | .ok () => pure ()
        | .error e => do
            let name := if path = "/dev/stdout" then "stdout" else "<unknown>"
            warn "sed" ("couldn't flush " ++ name ++ ": " ++ cause e)
            code := 4
  return code

/-- Runs a program on files. -/
def edit (t : Setting) (spawn : Spawn) (files : List String) : Step Nat := do
  match ← openOutlets (written t.program) with
  | .error message => do
      warn "sed" message
      return 4
  | .ok outlets => do
      let start : State :=
        { rest := [], source := none, files := files, name := "", failed := false, fresh := false
          number := 0, space := "", ended := true, hold := "", holdEnded := true, appendices := #[]
          ranges := openRanges t, main := ⟨#[], false, (← get).opening? 1⟩, outlets := outlets
          inlets := [], replaced := false, lastPattern := none }
      let (code, s) ← (rounds t spawn manyRounds false).run start
      let main := if t.inPlace.isSome then [] else [("/dev/stdout", s.main)]
      writeOutlets (main ++ s.outlets) code

end Sed

/-- Edits lines. -/
def sed (spawn : Spawn) : Utility := fun args => do
  let accepted : Accepted := .of "nErsuzb\x01\x02\x03" "efil" [("quiet", 'n'), ("silent", 'n'),
    ("regexp-extended", 'E'), ("separate", 's'), ("unbuffered", 'u'), ("null-data", 'z'),
    ("zero-terminated", 'z'), ("line-length", 'l'), ("posix", '\x01'), ("sandbox", '\x02'), ("binary", 'b'),
    ("follow-symlinks", '\x03'), ("expression", 'e'), ("file", 'f')]
  let bare := "nErsuzb".toList
  let args := args.map fun arg =>
    if arg = "--in-place" then "-i\x00"
    else if arg.startsWith "--in-place=" then "-i" ++ String.ofList (arg.toList.drop 11)
    else match arg.toList with
      | '-' :: cs =>
          if cs.getLast? = some 'i' && cs.dropLast.all bare.contains then arg ++ "\x00" else arg
      | _ => arg
  match accepted.read true (args.length + 1) args with
  | .error e => refuseArgs "sed" 1 e
  | .ok a => do
      let a : Args := { a with options := a.options.map fun (letter, value) =>
        (letter, if value = "\x00" then "" else value) }
      let mut given : List Sed.Source := []
      for (letter, value) in a.options do
        if letter = 'e' then given := given ++ [⟨value, none⟩]
        else if letter = 'f' then
          match ← input value with
          | .ok text => given := given ++ [⟨text, some value⟩]
          | .error e => do
              warn "sed" ("couldn't open file " ++ value ++ ": " ++ cause e)
              return 4
      let (sources, operands) : List Sed.Source × List String :=
        if given.isEmpty then ((a.operands.take 1).map fun text => ⟨text, none⟩, a.operands.drop 1)
        else (given, a.operands)
      if sources.isEmpty then
        report "Usage: sed [OPTION]... \x7bscript-only-if-no-other-script\x7d [input-file]...\n"
        return 1
      let zeroEnds := a.has 'z'
      let dialect : Sed.Dialect := ⟨a.has 'E' || a.has 'r', !zeroEnds, a.has '\x02'⟩
      match Sed.ofSources dialect sources with
      | .error e => do
          warn "sed" e.message
          return e.code
      | .ok program => do
          let width := match a.value? 'l' with
            | some text => (natural? text).getD 0
            | none => 70
          if a.has 'i' && operands.isEmpty then
            warn "sed" "no input files"
            return 4
          let t : Sed.Setting :=
            { program := program.instructions
              quiet := a.has 'n' || program.quiet
              separate := a.has 'i' || a.has 's'
              inPlace := a.value? 'i'
              lineEnd := if zeroEnds then '\x00' else '\n'
              width := width
              sparing := a.has 'u'
              strict := a.has '\x01' }
          Sed.edit t spawn (if operands.isEmpty then ["-"] else operands)

end GuardedCnf.Utility
