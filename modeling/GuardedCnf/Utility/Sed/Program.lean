import GuardedCnf.Utility.Regex.Plain
/-! # Programs of the line editor

    A program is a list of instructions, each with the lines that it is for.
    Blocks and branches are jumps to places in the list.  A program is read from
    several parts, and a text can go on in the next part. -/

namespace GuardedCnf.Utility.Sed

/-- The lines that an address is for. -/
inductive Address where
  | line (n : Nat)
  | last
  /-- Lines that match; without a pattern, that of the last match. -/
  | matching (r : Option Regex)
  /-- Every so many lines from one on. -/
  | steps (first size : Nat)

/-- Where a range ends. -/
inductive Stop where
  | at (a : Address)
  /-- So many lines after its first one. -/
  | after (n : Nat)
  /-- At the next multiple. -/
  | multiple (n : Nat)

/-- The lines that an instruction is for. -/
structure Lines where
  first : Option Address
  stop : Option Stop
  negated : Bool

/-- A part of what a match is replaced with. -/
inductive Part where
  | text (c : Char)
  /-- What a group matched. -/
  | group (n : Nat)
  /-- Changes the case of what follows. -/
  | case (c : Char)

/-- How a match is replaced. -/
structure Substitution where
  pattern : Option Regex
  parts : List Part
  everywhere : Bool
  /-- The first match that is replaced, or 0. -/
  number : Nat
  print : Bool
  /-- Whether the result runs as a command. -/
  runs : Bool
  file : Option String

/-- What an instruction does. -/
inductive Action where
  | substitute (s : Substitution)
  | translate (pairs : List (Char × Char))
  | append (text : String)
  | insert (text : String)
  | change (text : String)
  /-- Runs a command, or the line as a command. -/
  | run (command : Option String)
  /-- Reads a file, or its next line. -/
  | read (path : String) (oneLine : Bool)
  | write (path : String) (firstLine : Bool)
  | quit (code : Nat) (quiet : Bool)
  /-- Shows the line with its unusual characters, in so many columns. -/
  | show (width : Option Nat)
  /-- Goes on at a label if there was a substitution, or none, or anyway. -/
  | branch (when_ : Option Bool) (label : String)
  | label (name : String)
  | open_
  | close
  /-- An action without arguments. -/
  | plain (c : Char)

/-- An instruction. -/
structure Instruction where
  lines : Lines
  action : Action

/-- What a program is read with. -/
structure Dialect where
  extended : Bool
  /-- Whether lines end in a line end. -/
  hasLines : Bool
  /-- Whether files and commands are forbidden. -/
  isolated : Bool

/-! ## Reading. -/

/-- Why a program cannot be read: a message, and after how many characters. -/
structure Failure where
  place : Option Nat
  message : String

/-- A program that is being read. -/
structure Reader where
  rest : List Char
  size : Nat
  /-- Whether this is the first part of the program. -/
  isFirst : Bool
  instructions : Array Instruction
  /-- How many blocks are open. -/
  depth : Nat
  /-- A text that goes on in the next part. -/
  pending : Option (List Char)
  /-- Whether lines are not written by themselves. -/
  quiet : Bool

/-- A reading of a part of a program. -/
abbrev Reading := EStateM Failure Reader

/-- Fails where the reading is. -/
def fail {α : Type} (message : String) : Reading α := do
  let r ← get
  throw ⟨some (r.size - r.rest.length), message⟩

/-- The next character. -/
def peek : Reading (Option Char) := return (← get).rest.head?

/-- Takes the next character. -/
def next : Reading (Option Char) := modifyGet fun r => (r.rest.head?, { r with rest := r.rest.drop 1 })

/-- Takes the characters of a class. -/
def takeWhile (p : Char → Bool) : Reading (List Char) := modifyGet fun r =>
  let cs := r.rest.takeWhile p
  (cs, { r with rest := r.rest.drop cs.length })

/-- Whether a character is a blank within a line. -/
def isBlank (c : Char) : Bool := c = ' ' || c = '\t'

/-- Whether a character is a blank or ends a line. -/
def isSpace (c : Char) : Bool := c = ' ' || ('\t' ≤ c && c ≤ '\r')

/-- Takes blanks. -/
def skipBlanks : Reading Unit := discard <| takeWhile isBlank

/-- Takes a number, which is 0 without digits. -/
def number : Reading Nat := do
  return ((String.ofList (← takeWhile Char.isDigit)).toNat?).getD 0

/-- The end of a set of characters in a pattern, after its opening bracket. -/
def setSize (cs : List Char) : Nat :=
  let (start, cs) := match cs with
    | '^' :: ']' :: cs => (2, cs)
    | '^' :: cs => (1, cs)
    | ']' :: cs => (1, cs)
    | cs => (0, cs)
  start + size cs.length cs
where
  /-- Up to the closing bracket. -/
  size : Nat → List Char → Nat
    | 0, _ => 0
    | _, [] => 0
    | _, ']' :: _ => 1
    | fuel + 1, '[' :: mark :: cs =>
        if [':', '.', '='].contains mark then
          let name := cs.takeWhile (· != mark)
          3 + name.length + size fuel (cs.drop (name.length + 1))
        else 1 + size fuel (mark :: cs)
    | fuel + 1, _ :: cs => 1 + size fuel cs

/-- Reads up to a delimiter; `none` if there is none.  A delimiter after a
    backslash is a character, and so is one in a set. -/
def delimited (delimiter : Char) (isPattern : Bool) : Nat → List Char → Reading (Option (List Char))
  | 0, _ => return none
  | fuel + 1, sofar => do
      match ← peek with
      | none | some '\n' => return none
      | some c => do
          discard next
          if c = delimiter then return some sofar.reverse
          else if c = '\\' then
            match ← next with
            | none => return none
            | some d =>
                if d = 'n' && isPattern then delimited delimiter isPattern fuel ('\n' :: sofar)
                else if d = '\n' || (d = delimiter && (isPattern || d != '&')) then
                  delimited delimiter isPattern fuel (d :: sofar)
                else delimited delimiter isPattern fuel (d :: '\\' :: sofar)
          else if c = '[' && isPattern then do
            let rest := (← get).rest
            let size := setSize rest
            let inner := rest.take size
            if inner.getLast? != some ']' || inner.contains '\n' then
              modify fun r => { r with rest := rest.dropWhile (· != '\n') }
              return none
            else do
              modify fun r => { r with rest := r.rest.drop size }
              let inner := if delimiter = '\n' then inner else unlined inner
              delimited delimiter isPattern fuel (inner.reverse ++ c :: sofar)
          else delimited delimiter isPattern fuel (c :: sofar)
where
  /-- The members of a set, where a backslash and `n` are a line end. -/
  unlined : List Char → List Char
    | '\\' :: 'n' :: cs => '\n' :: unlined cs
    | c :: cs => c :: unlined cs
    | [] => []

/-- A bound for the number of characters of a program. -/
def many : Nat := 1000000

/-! ## Escapes. -/

/-- The digits of a number for a character, at most so many. -/
def digitsOf (base most : Nat) (cs : List Char) : List Nat :=
  ((cs.take most).map fun c =>
    if c.isDigit then c.toNat - 48 else if c.isAlpha then c.toLower.toNat - 87 else base).takeWhile (· < base)

/-- The character that digits stand for after a letter, and what follows. -/
def numbered (base most : Nat) (letter : Char) (cs : List Char) : Char × List Char :=
  let digits := digitsOf base most cs
  if digits.isEmpty then (letter, cs)
  else (Char.ofNat (digits.foldl (fun n d => base * n + d) 0 % 256), cs.drop digits.length)

/-- Where a text with escapes stands. -/
inductive Use where
  | pattern
  | replacement
  | plain
deriving BEq

/-- A text with escapes for characters replaced; other escapes stay as they are. -/
def normalized (use : Use) : Nat → List Char → List Char
  | 0, cs => cs
  | _, [] => []
  | fuel + 1, '\\' :: c :: cs =>
      let made (d : Char) (rest : List Char) : List Char :=
        if use == .replacement && (d = '\\' || d = '&') then '\\' :: d :: normalized use fuel rest
        else d :: normalized use fuel rest
      let code (base most : Nat) : List Char :=
        let (d, rest) := numbered base most c cs
        made d rest
      match c with
      | 'a' => made (Char.ofNat 7) cs
      | 'f' => made (Char.ofNat 12) cs
      | 'v' => made (Char.ofNat 11) cs
      | 'r' => made '\r' cs
      | 't' => made '\t' cs
      | 'n' => if use == .plain then made '\n' cs else '\\' :: c :: normalized use fuel cs
      | 'd' => code 10 3
      | 'o' => code 8 3
      | 'x' => code 16 2
      | 'c' =>
          match cs with
          | [] => ['\\', '\\']
          | d :: rest =>
              let rest := if d = '\\' then rest.drop 1 else rest
              made (Char.ofNat (d.toUpper.toNat ^^^ 64)) rest
      | c => '\\' :: c :: normalized use fuel cs
  | fuel + 1, c :: cs => c :: normalized use fuel cs

/-- A text without its backslashes, except for those after a backslash. -/
def bare : List Char → List Char
  | '\\' :: c :: cs => c :: bare cs
  | c :: cs => c :: bare cs
  | [] => []

/-! ## Addresses. -/

/-- The flags of a pattern. -/
structure Flags where
  caseless : Bool
  multiline : Bool

/-- The pattern of a text; an empty one is the last one that was used. -/
def patternOf (d : Dialect) (f : Flags) (cs : List Char) : Reading (Option Regex) := do
  if cs.isEmpty then
    if f.caseless || f.multiline then fail "cannot specify modifiers on empty regexp"
    return none
  let cs := normalized .pattern cs.length cs
  match Regex.ofText (.editing d.extended f.caseless (f.multiline && d.hasLines)) (String.ofList cs) with
  | .ok r =>
      if Regex.Plain.hasBareClass cs then throw ⟨none, Regex.Plain.bareClassMessage⟩
      return some r
  | .error message => fail message

/-- Reads the pattern of an address after its delimiter. -/
def matching (d : Dialect) (delimiter : Char) : Reading (Option Address) := do
  match ← delimited delimiter true many [] with
  | none => fail "unterminated address regex"
  | some cs => do
      let flags ← takeWhile fun c => c = 'I' || c = 'M' || isBlank c
      return some (.matching (← patternOf d ⟨flags.contains 'I', flags.contains 'M'⟩ cs))

/-- Reads an address if there is one. -/
def address? (d : Dialect) : Reading (Option Address) := do
  match ← peek with
  | some '$' => do
      discard next
      return some .last
  | some '/' => do
      discard next
      matching d '/'
  | some '\\' => do
      discard next
      match ← next with
      | some c => matching d c
      | none => fail "unterminated address regex"
  | some c =>
      if c.isDigit then do
        let n ← number
        skipBlanks
        if (← peek) = some '~' then
          discard next
          skipBlanks
          return some (.steps n (← number))
        else return some (.line n)
      else return none
  | none => return none

/-- Reads the end of a range. -/
def stop (d : Dialect) : Reading Stop := do
  skipBlanks
  match ← peek with
  | some '+' => do
      discard next
      skipBlanks
      return .after (← number)
  | some '~' => do
      discard next
      skipBlanks
      return .multiple (← number)
  | _ =>
      match ← address? d with
      | some a => return .at a
      | none => do
          discard next
          fail "unexpected \x60,'"

/-- Reads the lines that an instruction is for. -/
def lines (d : Dialect) : Reading Lines := do
  if (← peek) = some '+' || (← peek) = some '~' then
    discard next
    discard number
    fail "invalid usage of +N or ~N as first address"
  let first ← address? d
  if first.isSome then skipBlanks
  let stop ← match first, ← peek with
    | some _, some ',' => do
        discard next
        let s ← stop d
        skipBlanks
        pure (some s)
    | _, _ => pure none
  let isZero := match first with
    | some (.line 0) => true
    | _ => false
  let isOpen := match stop with
    | some (.at (.matching _)) => true
    | _ => false
  let isRead := stop.isNone && (← peek) = some 'r'
  if isZero && !isOpen && !isRead then
    discard next
    fail "invalid usage of line address 0"
  if (← peek) = some '!' then
    discard next
    skipBlanks
    if (← peek) = some '!' then
      discard next
      fail "multiple \x60!'s"
    return ⟨first, stop, true⟩
  else return ⟨first, stop, false⟩

/-! ## Actions. -/

/-- Takes what must come after an instruction. -/
def finish : Reading Unit := do
  skipBlanks
  match ← peek with
  | none | some '\x7d' | some '#' => return ()
  | some '\n' | some ';' => discard next
  | some _ => do
      discard next
      fail "extra characters after command"

/-- The text of an instruction as it is written, up to the end of a line or of
    the part; `true` if it goes on in the next part. -/
def textLines : Nat → List Char → Reading (List Char × Bool)
  | 0, sofar => return (sofar.reverse, false)
  | fuel + 1, sofar => do
      match ← next with
      | none | some '\n' => return (('\n' :: sofar).reverse, false)
      | some '\\' =>
          match ← next with
          | some c => textLines fuel (c :: '\\' :: sofar)
          | none => return (('\n' :: sofar).reverse, true)
      | some c => textLines fuel (c :: sofar)

/-- The text that is written as a text of an instruction. -/
def textOf (cs : List Char) : String := String.ofList (bare (normalized .plain cs.length cs))

/-- Reads the text of an instruction, on the same line or on the next ones. -/
def text : Reading String := do
  skipBlanks
  let r ← get
  match r.rest with
  | [] => fail "expected \\ after \x60a', \x60c' or \x60i'"
  | ['\\'] => do
      set { r with rest := [], pending := some [] }
      return ""
  | '\\' :: '\n' :: rest => set { r with rest := rest }
  | '\\' :: c :: rest =>
      match (c :: rest).dropWhile isBlank with
      | '\n' :: after => set { r with rest := after }
      | _ =>
          set { r with rest := rest }
          let (cs, goesOn) ← textLines many [c]
          if goesOn then modify fun r => { r with pending := some cs }
          return textOf cs
  | _ => pure ()
  let (cs, goesOn) ← textLines many []
  if goesOn then modify fun r => { r with pending := some cs }
  return textOf cs

/-- Reads a label, up to a blank, a semicolon or the end of a block. -/
def labelName : Reading String := do
  skipBlanks
  return String.ofList (← takeWhile fun c => !isSpace c && c != ';' && c != '\x7d')

/-- Reads the name of a file, up to the end of the line. -/
def fileName (d : Dialect) : Reading String := do
  if d.isolated then fail "e/r/w commands disabled in sandbox mode"
  skipBlanks
  let name ← takeWhile (· != '\n')
  if name.isEmpty then fail "missing filename in r/R/w/W commands"
  discard next
  return String.ofList name

/-- The parts of a replacement. -/
def replacement : List Char → List Part
  | '\\' :: c :: cs =>
      (if c.isDigit then .group (c.toNat - 48)
        else if ['U', 'L', 'u', 'l', 'E'].contains c then .case c
        else if c = 'n' then .text '\n'
        else .text c) :: replacement cs
  | '&' :: cs => .group 0 :: replacement cs
  | c :: cs => .text c :: replacement cs
  | [] => []

/-- Reads the flags of a substitution. -/
def flags (d : Dialect) : Nat → Substitution → Flags → Reading (Substitution × Flags)
  | 0, s, f => return (s, f)
  | fuel + 1, s, f => do
      match ← peek with
      | none | some '\x7d' | some '#' => return (s, f)
      | some c => do
          discard next
          match c with
          | '\n' | ';' => return (s, f)
          | 'g' => do
              if s.everywhere then fail "multiple \x60g' options to \x60s' command"
              flags d fuel { s with everywhere := true } f
          | 'p' => do
              if s.print then fail "multiple \x60p' options to \x60s' command"
              flags d fuel { s with print := true } f
          | 'i' | 'I' => flags d fuel s { f with caseless := true }
          | 'm' | 'M' => flags d fuel s { f with multiline := true }
          | 'e' => do
              if d.isolated then fail "e/r/w commands disabled in sandbox mode"
              flags d fuel { s with runs := true } f
          | 'w' => do return ({ s with file := some (← fileName d) }, f)
          | '\r' =>
              if (← peek) = some '\n' then
                discard next
                return (s, f)
              else fail "unknown option to \x60s'"
          | c =>
              if isBlank c then flags d fuel s f
              else if c.isDigit then do
                if s.number != 0 then fail "multiple number options to \x60s' command"
                modify fun r => { r with rest := c :: r.rest }
                let n ← number
                if n = 0 then fail "number option to \x60s' command may not be zero"
                flags d fuel { s with number := n } f
              else fail "unknown option to \x60s'"

/-- Reads a substitution after its letter. -/
def substitution (d : Dialect) : Reading Action := do
  let unterminated {α : Type} : Reading α := fail "unterminated \x60s' command"
  match ← next with
  | none | some '\n' => unterminated
  | some delimiter =>
      match ← delimited delimiter true many [] with
      | none => unterminated
      | some pattern =>
          match ← delimited delimiter false many [] with
          | none => unterminated
          | some new => do
              let parts := replacement (normalized .replacement new.length new)
              let (s, f) ← flags d many ⟨none, parts, false, 0, false, false, none⟩ ⟨false, false⟩
              let r ← patternOf d f pattern
              let highest := parts.foldl (fun n part => match part with
                | .group k => max n k
                | _ => n) 0
              match r with
              | some r => if r.groupCount < highest then
                  fail ("invalid reference \\" ++ toString highest ++ " on \x60s' command's RHS")
              | none => pure ()
              return .substitute { s with pattern := r }

/-- The characters of a table, without its backslashes. -/
def tableChars : List Char → List Char
  | '\\' :: 'n' :: cs => '\n' :: tableChars cs
  | '\\' :: c :: cs => c :: tableChars cs
  | c :: cs => c :: tableChars cs
  | [] => []

/-- Reads a table of characters after its letter. -/
def table : Reading Action := do
  let unterminated {α : Type} : Reading α := fail "unterminated \x60y' command"
  match ← next with
  | none => unterminated
  | some delimiter =>
      match ← delimited delimiter false many [] with
      | none => unterminated
      | some old =>
          match ← delimited delimiter false many [] with
          | none => unterminated
          | some new =>
              let charsOf (cs : List Char) : List Char := tableChars (normalized .pattern cs.length cs)
              if (charsOf old).length != (charsOf new).length then
                fail "strings for \x60y' command are different lengths"
              else do
                finish
                return .translate ((charsOf old).zip (charsOf new))

/-- Reads an action by its letter. -/
def action (d : Dialect) (l : Lines) (c : Char) : Reading Action := do
  let oneAddress : Reading Unit := do
    if l.stop.isSome then fail "command only uses one address"
  match c with
  | 's' => substitution d
  | 'y' => table
  | 'a' => return .append (← text)
  | 'i' => return .insert (← text)
  | 'c' => return .change (← text)
  | 'e' => do
      if d.isolated then fail "e/r/w commands disabled in sandbox mode"
      skipBlanks
      match ← peek with
      | none | some '\n' => do
          discard next
          return .run none
      | some _ => return .run (some (← text))
  | 'r' => return .read (← fileName d) false
  | 'R' => return .read (← fileName d) true
  | 'w' => return .write (← fileName d) false
  | 'W' => return .write (← fileName d) true
  | 'q' | 'Q' => do
      oneAddress
      skipBlanks
      let code ← number
      finish
      return .quit (code % 256) (c = 'Q')
  | 'l' => do
      skipBlanks
      let width ← if (← peek).any Char.isDigit then some <$> number else pure none
      finish
      return .show width
  | 'b' | 't' | 'T' => do
      let name ← labelName
      skipBlanks
      if (← peek) = some ';' then discard next
      return .branch (if c = 'b' then none else some (c = 't')) name
  | ':' => do
      if l.first.isSome then fail ": doesn't want any addresses"
      let name ← labelName
      if name.isEmpty then fail "\":\" lacks a label"
      return .label name
  | '\x7b' => do
      modify fun r => { r with depth := r.depth + 1 }
      return .open_
  | '\x7d' => do
      if (← get).depth = 0 then fail "unexpected \x60\x7d'"
      if l.first.isSome then fail "\x7d doesn't want any addresses"
      finish
      modify fun r => { r with depth := r.depth - 1 }
      return .close
  | '=' | 'd' | 'D' | 'F' | 'g' | 'G' | 'h' | 'H' | 'n' | 'N' | 'p' | 'P' | 'x' | 'z' => do
      finish
      return .plain c
  | c => fail ("unknown command: \x60" ++ String.singleton c ++ "'")

/-- Reads the instructions of a part. -/
def instructions (d : Dialect) : Nat → Reading Unit
  | 0 => return ()
  | fuel + 1 => do
      discard <| takeWhile fun c => c = ';' || isSpace c
      match ← peek with
      | none => return ()
      | some _ => do
          let l ← lines d
          skipBlanks
          match ← next with
          | none => fail "missing command"
          | some 'v' => do
              discard <| labelName
              instructions d fuel
          | some '#' => do
              if l.first.isSome then fail "comments don't accept any addresses"
              let r ← get
              let comment ← takeWhile (· != '\n')
              if comment.head? = some 'n' && r.isFirst && r.size = r.rest.length + 1 then
                modify fun r => { r with quiet := true }
              instructions d fuel
          | some c => do
              let a ← action d l c
              modify fun r => { r with instructions := r.instructions.push ⟨l, a⟩ }
              instructions d fuel

/-- Gives the last instruction the text that was pending. -/
def closeText (cs : List Char) : Reading Unit := modify fun r =>
  let changed : Array Instruction := match r.instructions.back? with
    | none => r.instructions
    | some i =>
        let text := textOf cs
        let action : Action := match i.action with
          | .append _ => .append text
          | .insert _ => .insert text
          | .change _ => .change text
          | .run _ => .run (some text)
          | a => a
        r.instructions.pop.push { i with action := action }
  { r with instructions := changed, pending := none }

/-- Reads a part of a program after those before it. -/
def readPart (d : Dialect) : Reading Unit := do
  match (← get).pending with
  | none => pure ()
  | some before => do
      modify fun r => { r with pending := none }
      let (cs, goesOn) ← textLines many []
      closeText (before ++ cs)
      if goesOn then modify fun r => { r with pending := some (before ++ cs) }
  instructions d many

/-- A part of a program: its text, and the file that it is from. -/
structure Source where
  text : String
  file : Option String

/-- What a program is read into. -/
structure Program where
  instructions : Array Instruction
  quiet : Bool

/-- Why a program cannot be run. -/
structure Refusal where
  message : String
  code : Nat

/-- The place of a failure, for messages. -/
def placeOf (s : Source) (number place : Nat) : String :=
  match s.file with
  | none => "-e expression #" ++ toString number ++ ", char " ++ toString place ++ ": "
  | some name =>
      let lines := ((s.text.toList.take place).filter (· = '\n')).length
      "file " ++ name ++ " line " ++ toString (lines + 1) ++ ": "

/-- Reads parts of a program one after the other; `number` counts those that are
    no files. -/
def readParts (d : Dialect) : List Source → Nat → Reader → Except Refusal Reader
  | [], _, r => .ok r
  | s :: more, number, r =>
      let number := if s.file.isNone then number + 1 else number
      match (readPart d).run { r with rest := s.text.toList, size := s.text.length } with
      | .ok _ r => readParts d more number { r with isFirst := false }
      | .error e _ =>
          match e.place with
          | some place => .error ⟨placeOf s number place ++ e.message, 1⟩
          | none => .error ⟨e.message, 4⟩

/-- Whether a program has a label. -/
def hasLabel (program : Array Instruction) (name : String) : Bool :=
  name.isEmpty || program.any fun i => match i.action with
    | .label other => other = name
    | _ => false

/-- The program of some parts. -/
def ofSources (d : Dialect) (sources : List Source) : Except Refusal Program := do
  let r ← readParts d sources 0 ⟨[], 0, true, #[], 0, none, false⟩
  if r.depth != 0 then throw ⟨"-e expression #1, char 0: unmatched \x60\x7b'", 1⟩
  let missing := r.instructions.toList.findSome? fun i => match i.action with
    | .branch _ name => if hasLabel r.instructions name then none else some name
    | _ => none
  match missing with
  | some name => throw ⟨"can't find label for jump to \x60" ++ name ++ "'", 4⟩
  | none => return ⟨r.instructions, r.quiet⟩

end GuardedCnf.Utility.Sed
