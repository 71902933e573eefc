import GuardedCnf.Utility.Find
import GuardedCnf.Utility.Grep.Search
/-! # Looking for lines in files

    What is found in each file is shown line by line, as a count, or as the name
    of the file.  A file with a NUL is no text, so none of its lines are shown
    unless that is wanted. -/

namespace GuardedCnf.Utility

open Script

namespace Grep

/-- What is told about a file. -/
inductive Answer where
  | lines
  | count
  /-- The name if a line was found, or if none was. -/
  | name (found : Bool)
  /-- Nothing, and no other file is searched. -/
  | nothing
deriving BEq

/-- What is done with files that are no texts. -/
inductive Binary where
  | message
  | asText
  | skipped
deriving BEq

/-- What is done with folders. -/
inductive Folders where
  | read
  | skip
  | enter (links : Bool)

/-- How lines are shown. -/
structure Look where
  numbered : Bool
  /-- Whether the places of lines or matches are shown. -/
  placed : Bool
  onlyMatches : Bool
  /-- Whether lines begin at a tab stop. -/
  tabbed : Bool
  /-- Whether names end in NUL. -/
  zeroNames : Bool
  colored : Bool
  lineEnd : Char

/-- How files are searched. -/
structure Setting where
  matcher : Matcher
  inverted : Bool
  /-- How many lines are enough. -/
  most : Option Nat
  answer : Answer
  context : Context
  separator : String
  binary : Binary
  silent : Bool
  /-- Whether the names of files are shown. -/
  named : Bool
  label : String
  look : Look

/-- What happened so far. -/
structure Progress where
  /-- Whether a line was found. -/
  found : Bool
  failed : Bool
  /-- Whether a group was shown. -/
  used : Bool

/-- Steps of a search. -/
abbrev Looking := StateT Progress Step

/-! ## Showing. -/

/-- A text in a color. -/
def painted (color text : String) : String := "\x1b[" ++ color ++ "m\x1b[K" ++ text ++ "\x1b[m\x1b[K"

/-- A text, in a color if there are any. -/
def Look.paint (l : Look) (color text : String) : String :=
  if l.colored then painted color text else text

/-- What comes after a name: NUL, or a mark. -/
def Look.afterName (l : Look) (mark : String) : String :=
  if l.zeroNames then "\x00" else l.paint "36" mark

/-- A number at the right of a width, without blanks unless there are tab stops. -/
def Look.numberText (l : Look) (width n : Nat) : String :=
  l.paint "32" (if l.tabbed then aligned width n else toString n)

/-- What comes before a line or a match. -/
def Look.head (l : Look) (name : Option String) (width : Nat) (mark : String) (number place : Nat)
    (isEmpty : Bool) : String :=
  let name? : Option String := name.map fun text => l.paint "35" text ++ l.afterName mark
  let number? : Option String :=
    if l.numbered then some (l.numberText width number ++ l.paint "36" mark) else none
  let place? : Option String :=
    if l.placed then some (l.numberText width place ++ l.paint "36" mark) else none
  let parts := [name?, number?, place?].filterMap id
  String.join parts ++ (if l.tabbed && !parts.isEmpty && !isEmpty then "\t" else "")

/-- A line with its matches in color, from a place on. -/
def colored (line : Array Char) : Nat → List (Nat × Nat) → String
  | start, [] => String.ofList (line.extract start line.size).toList
  | start, (first, stop) :: more =>
      String.ofList (line.extract start first).toList
        ++ painted "01;31" (String.ofList (line.extract first stop).toList) ++ colored line stop more

/-- A line as it is shown. -/
def Setting.lineText (s : Setting) (name : Option String) (width : Nat) (l : Line) (isFound : Bool) :
    String :=
  let mark := if isFound then ":" else "-"
  let matches_ : Bool := isFound != s.inverted
  let spans := if matches_ then s.matcher.spans l.text (l.text.size + 1) 0 else []
  let ending := String.singleton s.look.lineEnd
  if s.look.onlyMatches then
    String.join <| spans.map fun (start, stop) =>
      s.look.head name width (if s.inverted then "-" else ":") l.number (l.offset + start) false
        ++ s.look.paint "01;31" (String.ofList (l.text.extract start stop).toList) ++ ending
  else
    s.look.head name width mark l.number l.offset l.text.isEmpty
      ++ (if s.look.colored then colored l.text 0 spans else String.ofList l.text.toList) ++ ending

/-! ## Looking. -/

/-- Notes that something failed, with a message that may be left out. -/
def Setting.fail (s : Setting) (message : String) : Looking Unit := do
  modify fun p => { p with failed := true }
  if !s.silent then warn "grep" message

/-- How many digits the numbers of a file have. -/
def Look.width (l : Look) (size : Option Nat) : Nat :=
  match size with
  | some n => (toString (if l.numbered then n + 1 else n)).length
  | none => 19

/-- Searches the text of a file, given its size if that is known.  Gives the number
    of bytes after the last line that is needed, or nothing if the search is
    over. -/
def Setting.searchText (s : Setting) (name : String) (size : Option Nat) (text : String) :
    Looking (Option Nat) := do
  let isBinary := s.look.lineEnd = '\n' && s.binary != .asText && text.toList.contains '\x00'
  let readable := if isBinary then text.map fun c => if c = '\x00' then '\n' else c else text
  let lines := if isBinary && s.binary == .skipped then [] else Line.ofText s.look.lineEnd readable
  let found := foundLines s.matcher s.inverted (match s.answer with
    | .name _ | .nothing => some (min 1 (s.most.getD 1))
    | _ => s.most) lines
  if !found.isEmpty then modify fun p => { p with found := true }
  let shownName := if s.named then some name else none
  let isUsed := (← get).used
  if !found.isEmpty then modify fun p => { p with used := true }
  let written ← match s.answer with
    | .nothing => if !found.isEmpty then return none else pure ""
    | .name wanted =>
        let ending := if s.look.zeroNames then "\x00" else "\n"
        pure (if !found.isEmpty = wanted then s.look.paint "35" name ++ ending else "")
    | .count =>
        let before := (shownName.map fun text => s.look.paint "35" text ++ s.look.afterName ":").getD ""
        pure (before ++ toString found.length ++ "\n")
    | .lines =>
        if isBinary then
          if !found.isEmpty then warn "grep" (name ++ ": binary file matches")
          pure ""
        else
          let shown := s.context.shown lines found [] 0 true isUsed
          pure <| String.join <| shown.map fun
            | .gap => s.look.paint "36" s.separator ++ "\n"
            | .line l isFound => s.lineText shownName (s.look.width size) l isFound
  match ← write 1 written with
  | .ok () => pure ()
  | .error e =>
      warn "grep" ("write error: " ++ cause e)
      modify fun p => { p with failed := true }
      return none
  match s.answer, found.getLast? with
  | .name _, _ | _, none => return some 0
  | _, some last =>
      if s.most != some found.length then return some 0
      else return some (text.length - (last.offset + last.text.size + 1))

/-- Whether a file is also where the lines go. -/
def Setting.isOutput (s : Setting) (id : NodeId) : Step Bool := do
  let isFile := (← host).tree.node id matches .file ..
  let shows := s.answer == .lines && s.most.all (1 < ·)
  return isFile && shows && (← get).nodeOf? 1 = some id

/-- Searches what an opening leads to, and tells whether to go on. -/
def Setting.searchOpening (s : Setting) (name : String) (number : Nat) (shared : Bool) :
    Looking Bool := do
  let node := (← host).nodeAt number
  let isFile := node matches .file ..
  if ← s.isOutput ((← host).opening number).node then
    s.fail (name ++ ": input file is also the output")
    return true
  match ← readOpening number none with
  | .error e => do
      s.fail (name ++ ": " ++ cause e)
      return true
  | .ok text => do
      let size := match node with
        | .file bytes _ => some bytes.size
        | _ => none
      match ← s.searchText name size text with
      | none => return false
      | some rest =>
          if shared && isFile then onHost fun h => ((), h.unread number rest)
          return true

/-- Searches a file, and tells whether to go on. -/
def Setting.searchPath (s : Setting) (path : String) : Looking Bool := do
  match ← openPath path .read with
  | .error e => do
      s.fail (path ++ ": " ++ cause e)
      return true
  | .ok number => s.searchOpening path number false

/-- The files that are searched, by the patterns that names have to match. -/
structure Selection where
  included : List String
  excluded : List String
  excludedFolders : List String
  skipsDevices : Bool

/-- Whether a name is skipped. -/
def Selection.skips (s : Selection) (isFolder : Bool) (names : List String) : Bool :=
  let isIn (patterns : List String) : Bool := patterns.any fun p => names.any (Glyph.matchesText p)
  if isFolder then isIn s.excludedFolders
  else isIn s.excluded || (!s.included.isEmpty && !isIn s.included)

/-- A path, and what is left of it after some of its folders. -/
def endings (path : String) : List String :=
  let parts := path.splitOn "/"
  (List.range parts.length).map fun n => "/".intercalate (parts.drop n)

/-- The files below a folder, with their paths; links are followed if wanted, but
    not to the folders that they are in. -/
def filesBelow (s : Setting) (chosen : Selection) (links : Bool) :
    Nat → List NodeId → String → NodeId → Looking (List String)
  | 0, _, _, _ => return []
  | fuel + 1, above, path, folder =>
      return (← ((← host).tree.entries folder).mapM fun (name, id) => do
        let below := if path.isEmpty then name else inFolder path name
        let isLink := (← host).tree.node id matches .link _
        if isLink && !links then return []
        match ← nodeOf true below with
        | .error e =>
            s.fail (below ++ ": " ++ cause e)
            return []
        | .ok id =>
            let isFolder := (← host).tree.isFolder id
            if chosen.skips isFolder [name] then return []
            else if isFolder then
              if (folder :: above).contains id then
                s.fail (below ++ ": warning: recursive directory loop")
                return []
              else filesBelow s chosen links fuel (folder :: above) below id
            else if (← host).tree.node id matches .device _ | .pipe .. then return []
            else return [below]).flatten

/-- Searches files until it is over. -/
def Setting.searchPaths (s : Setting) : List String → Looking Bool
  | [] => return true
  | path :: paths => do
      if ← s.searchPath path then s.searchPaths paths else return false

/-- Searches what an operand leads to, and tells whether to go on. -/
def Setting.searchOperand (s : Setting) (chosen : Selection) (folders : Folders) (inFolders : Setting)
    (operand : String) : Looking Bool := do
  if operand = "-" then
    let shell : Step Shell := get
    match (← shell).opening? 0 with
    | none => do
        s.fail (s.label ++ ": Bad file descriptor")
        return true
    | some number => s.searchOpening s.label number true
  else
    match ← nodeOf true operand with
    | .error _ => s.searchPath operand
    | .ok id =>
        let isFolder := (← host).tree.isFolder id
        let isDevice := (← host).tree.node id matches .device _ | .pipe ..
        if chosen.skips isFolder (endings operand) then return true
        else if isDevice && chosen.skipsDevices then return true
        else if isFolder then
          match folders with
          | .skip => return true
          | .read => do
              s.fail (operand ++ ": " ++ cause .isDirectory)
              return (← s.searchText operand none "").isSome
          | .enter links => do
              let trimmed := String.ofList (operand.toList.reverse.dropWhile (· = '/')).reverse
              inFolders.searchPaths
                (← filesBelow s chosen links 1000 [] (if trimmed.isEmpty then operand else trimmed) id)
        else s.searchPath operand

/-- Searches operands until it is over. -/
def Setting.searchOperands (s : Setting) (chosen : Selection) (folders : Folders) (inFolders : Setting) :
    List String → Looking Unit
  | [] => return ()
  | operand :: operands => do
      if ← s.searchOperand chosen folders inFolders operand then
        s.searchOperands chosen folders inFolders operands

/-! ## Options. -/

/-- The options.  Letters that cannot be given by themselves stand for long names. -/
def accepted : Accepted :=
  ⟨"cvinoqxwFEGPlLhHsarRzZbTIUuyV\x01\x02\x03\x04\x05", "efmABCdD\x06\x07\x08\x0b\x0c\x0e",
    [("basic-regexp", 'G'), ("extended-regexp", 'E'), ("fixed-regexp", 'F'), ("fixed-strings", 'F'),
      ("perl-regexp", 'P'), ("after-context", 'A'), ("before-context", 'B'), ("binary-files", '\x06'),
      ("line-buffered", '\x01'), ("byte-offset", 'b'), ("context", 'C'), ("color", '\x02'),
      ("colour", '\x02'), ("count", 'c'), ("devices", 'D'), ("directories", 'd'), ("exclude", '\x07'),
      ("exclude-dir", '\x08'), ("file", 'f'), ("files-with-matches", 'l'), ("files-without-match", 'L'),
      ("group-separator", '\x0b'), ("include", '\x0c'), ("ignore-case", 'i'), ("no-ignore-case", '\x03'),
      ("initial-tab", 'T'), ("label", '\x0e'), ("line-number", 'n'), ("line-regexp", 'x'),
      ("max-count", 'm'), ("no-filename", 'h'), ("no-group-separator", '\x04'), ("no-messages", 's'),
      ("null", 'Z'), ("null-data", 'z'), ("only-matching", 'o'), ("quiet", 'q'), ("recursive", 'r'),
      ("dereference-recursive", 'R'), ("regexp", 'e'), ("invert-match", 'v'), ("silent", 'q'),
      ("text", 'a'), ("binary", 'U'), ("unix-byte-offsets", 'u'), ("version", 'V'), ("with-filename", 'H'),
      ("word-regexp", 'w')], "\x02"⟩

/-- Digits among the letters of options are the size of the context. -/
def spellDigits : List String → List String
  | [] => []
  | "--" :: args => "--" :: args
  | arg :: args =>
      match arg.toList with
      | '-' :: c :: cs =>
          if c = '-' then arg :: spellDigits args
          else
            let letters := (c :: cs).takeWhile fun c => !accepted.valued.toList.contains c
            let valued := (c :: cs).drop letters.length
            let digits := letters.filter Char.isDigit
            let others := letters.filter (!·.isDigit) ++ valued
            let rest := if valued.length = 1 then args.take 1 ++ spellDigits (args.drop 1) else spellDigits args
            (if digits.isEmpty then [] else ["-C", String.ofList digits])
              ++ (if others.isEmpty then [] else [String.ofList ('-' :: others)]) ++ rest
      | _ => arg :: spellDigits args
termination_by args => args.length
decreasing_by all_goals (simp_wf; try omega)

/-- The number of lines that a text writes, if there is a bound. -/
def readCount (text : String) : Option (Option Nat) :=
  let cs := text.toList.dropWhile fun c => c = ' ' || c = '\t'
  let (negative, digits) := match cs with
    | '-' :: cs => (true, cs)
    | '+' :: cs => (false, cs)
    | cs => (false, cs)
  (natural? (String.ofList digits)).map fun n =>
    if (negative && n != 0) || Nat.pow 2 63 ≤ n then none else some n

/-- What options ask for. -/
structure Choice where
  kind : Option Kind
  /-- The patterns, if any were given. -/
  patterns : Option (List String)
  caseless : Bool
  most : Option Nat
  before : Option Nat
  after : Option Nat
  around : Option Nat
  separator : Option String
  binary : Binary
  folders : Folders
  named : Option Bool
  colored : Bool
  chosen : Selection
  warnings : List String

/-- The choice without options. -/
def Choice.plain (kind : Option Kind) : Choice :=
  ⟨kind, none, false, none, none, none, none, some "--", .message, .read, none, false, ⟨[], [], [], false⟩, []⟩

/-- The choice with another pattern. -/
def Choice.addPatterns (c : Choice) (texts : List String) : Choice :=
  { c with patterns := some (c.patterns.getD [] ++ texts) }

/-- Takes an option into account. -/
def Choice.add (c : Choice) (letter : Char) (value : String) : Step (Except String Choice) := do
  let ofKind (kind : Kind) : Step (Except String Choice) := do
    if c.kind.all (· == kind) then return .ok { c with kind := some kind }
    else return .error "conflicting matchers specified"
  let context (f : Option Nat → Choice) : Step (Except String Choice) := do
    match readCount value with
    | some n =>
        if value.toList.contains '-' then return .error (value ++ ": invalid context length argument")
        else return .ok (f (some (n.getD (Nat.pow 2 63))))
    | none => return .error (value ++ ": invalid context length argument")
  match letter with
  | 'G' => ofKind .basic
  | 'E' => ofKind .extended
  | 'F' => ofKind .fixed
  | 'P' => ofKind .rich
  | 'e' => return .ok (c.addPatterns (value.splitOn "\n"))
  | 'f' => do
      match ← input value with
      | .error e => return .error (value ++ ": " ++ cause e)
      | .ok text => return .ok (c.addPatterns (linesOf text).1)
  | 'i' | 'y' => return .ok { c with caseless := true }
  | '\x03' => return .ok { c with caseless := false }
  | 'm' =>
      match readCount value with
      | some n => return .ok { c with most := n }
      | none => return .error "invalid max count"
  | 'A' => context fun n => { c with after := n }
  | 'B' => context fun n => { c with before := n }
  | 'C' => context fun n => { c with around := n }
  | '\x0b' => return .ok { c with separator := some value }
  | '\x04' => return .ok { c with separator := none }
  | 'a' => return .ok { c with binary := .asText }
  | 'I' => return .ok { c with binary := .skipped }
  | '\x06' =>
      match value with
      | "binary" => return .ok { c with binary := .message }
      | "text" => return .ok { c with binary := .asText }
      | "without-match" => return .ok { c with binary := .skipped }
      | _ => return .error "unknown binary-files type"
  | 'r' => return .ok { c with folders := .enter false }
  | 'R' => return .ok { c with folders := .enter true }
  | 'd' =>
      match value with
      | "read" => return .ok { c with folders := .read }
      | "skip" => return .ok { c with folders := .skip }
      | "recurse" => return .ok { c with folders := .enter false }
      | _ => return .error ("invalid argument " ++ inQuotes value ++ " for '--directories'\n"
          ++ "Valid arguments are:\n  - 'read'\n  - 'recurse'\n  - 'skip'\n"
          ++ "Usage: grep [OPTION]... PATTERNS [FILE]...\nTry 'grep --help' for more information.")
  | 'D' =>
      match value with
      | "read" => return .ok { c with chosen.skipsDevices := false }
      | "skip" => return .ok { c with chosen.skipsDevices := true }
      | _ => return .error "unknown devices method"
  | 'H' => return .ok { c with named := some true }
  | 'h' => return .ok { c with named := some false }
  | '\x02' => return .ok { c with colored := value = "always" || value = "yes" || value = "force" }
  | '\x07' => return .ok { c with chosen.excluded := value :: c.chosen.excluded }
  | '\x08' =>
      let trimmed := String.ofList (value.toList.reverse.dropWhile (· = '/')).reverse
      return .ok { c with chosen.excludedFolders := trimmed :: c.chosen.excludedFolders }
  | '\x0c' => return .ok { c with chosen.included := value :: c.chosen.included }
  | 'u' => return .ok { c with warnings := c.warnings ++ ["warning: --unix-byte-offsets (-u) is obsolete"] }
  | _ => return .ok c

/-- Takes options into account. -/
def Choice.addAll (c : Choice) : List (Char × String) → Step (Except String Choice)
  | [] => return .ok c
  | (letter, value) :: options => do
      match ← c.add letter value with
      | .ok c => c.addAll options
      | .error message => return .error message

end Grep

open Grep in
/-- Looks for lines that match patterns. -/
def grep (extended fixed : Bool) : Utility := fun args => do
  let usage : Step Nat := do
    report "Usage: grep [OPTION]... PATTERNS [FILE]...\nTry 'grep --help' for more information.\n"
    return 2
  let refuse (message : String) : Step Nat := do
    warn "grep" message
    return 2
  let args := spellDigits args
  match accepted.read true (args.length + 1) args with
  | .error e => do
      warn "grep" e.message
      usage
  | .ok a => do
      match ← (Choice.plain (if fixed then some .fixed else if extended then some .extended else none)).addAll
          a.options with
      | .error message => refuse message
      | .ok c => do
          for message in c.warnings do warn "grep" message
          let (patterns, operands) := match c.patterns, a.operands with
            | some patterns, operands => (some patterns, operands)
            | none, text :: operands => (some (text.splitOn "\n"), operands)
            | none, [] => (none, [])
          match patterns with
          | none => usage
          | some patterns => do
              let extent : Extent := if a.has 'x' then .line else if a.has 'w' then .word else .part
              let (inverted, extent) : Bool × Extent :=
                if patterns.isEmpty then (!a.has 'v', .part) else (a.has 'v', extent)
              let texts := if patterns.isEmpty then [""] else patterns
              let answer : Answer :=
                if a.has 'q' then .nothing
                else match (a.options.map (·.1)).filter ['l', 'L'].contains |>.getLast? with
                  | some letter => .name (letter = 'l')
                  | none => if a.has 'c' then .count else .lines
              let mustFail := c.most = some 0 || (texts = [""] && inverted && extent matches .part)
              if mustFail && !(answer == .name false) then return 1
              match Matcher.ofTexts (c.kind.getD .basic) c.caseless extent texts with
              | .error message => refuse message
              | .ok (matcher, told) => do
                  for message in told do warn "grep" message
                  let s : Setting :=
                    { matcher := matcher
                      inverted := inverted
                      most := c.most
                      answer := answer
                      context :=
                        { before := (c.before <|> c.around).getD 0
                          after := (c.after <|> c.around).getD 0
                          parts := (c.before <|> c.after <|> c.around).isSome && c.separator.isSome }
                      separator := c.separator.getD ""
                      binary := c.binary
                      silent := a.has 's'
                      named := c.named.getD (1 < operands.length)
                      label := (a.value? '\x0e').getD "(standard input)"
                      look :=
                        { numbered := a.has 'n'
                          placed := a.has 'b'
                          onlyMatches := a.has 'o'
                          tabbed := a.has 'T'
                          zeroNames := a.has 'Z'
                          colored := c.colored
                          lineEnd := if a.has 'z' then '\x00' else '\n' } }
                  let inFolders : Setting := { s with named := c.named.getD true }
                  let searching : Looking Unit := match c.folders, operands, ← nodeOf true "." with
                    | .enter links, [], .ok id => do
                        discard <| inFolders.searchPaths (← filesBelow s c.chosen links 1000 [] "" id)
                    | _, operands, _ =>
                        s.searchOperands c.chosen c.folders inFolders (if operands.isEmpty then ["-"] else operands)
                  let ((), p) ← searching.run ⟨false, false, false⟩
                  return if answer == .nothing && p.found then 0
                    else if p.failed then 2 else if p.found then 0 else 1

end GuardedCnf.Utility
