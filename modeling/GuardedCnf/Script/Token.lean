import GuardedCnf.Script.Basic
import GuardedCnf.Script.Printing
/-! # Reading words and tokens of scripts

    A script is read token by token: words, operators, keywords and the symbols
    of redirections.  The text that a here redirection reads comes after the
    line with the redirection, so it is awaited until the line ends.  Words can
    hold commands, and how these are read is a parameter. -/

namespace GuardedCnf.Script

/-- What the messages about a script are followed by. -/
inductive ScriptError.Sequel where
  | nothing
  /-- The line of the script. -/
  | line
  /-- Nothing, since the script ends there. -/
  | finish

/-- Why a script cannot be read. -/
structure ScriptError where
  line : Nat
  messages : List String
  sequel : ScriptError.Sequel

/-- A token. -/
inductive Token where
  | finish
  | newline
  | operator (text : String)
  | keyword (text : String)
  | word (word : Word)
  | redirection (stream : Nat) (symbol : String)

/-- A text that is read when the line ends. -/
structure AwaitedText where
  place : Nat
  delimiter : String
  /-- Whether tabs at the beginnings of lines are dropped. -/
  stripped : Bool
  /-- Whether no expansions take place. -/
  literal : Bool

/-- A script that is being read. -/
structure Reader where
  /-- Whether the script is in the extended dialect. -/
  extended : Bool
  rest : List Char
  line : Nat
  /-- A token that was read and put back. -/
  pushed : Option Token
  /-- The token that was read last. -/
  last : Token
  /-- Its text. -/
  lastText : String
  /-- The line that it begins on. -/
  lastLine : Nat
  awaited : List AwaitedText
  /-- The table of texts for here redirections. -/
  texts : Array Word

/-- A reading of a part of a script. -/
abbrev Reading := EStateM ScriptError Reader

/-- A bound for the number of steps that read one part of a script. -/
def manySteps : Nat := 1000000000

/-- A reader of the commands in a word, which end with the script or, if they
    are `closed`, with a parenthesis. -/
abbrev ReadCommands := (closed : Bool) → Reading (Option Command)

namespace Reader

/-- The reader at the beginning of a script. -/
def start (extended : Bool) (script : String) (line : Nat) (texts : Array Word) : Reader :=
  ⟨extended, script.toList, line, none, .newline, "", line, [], texts⟩

/-- Whether the script is in the extended dialect. -/
def isExtended : Reading Bool := return (← get).extended

/-- Fails at the current line. -/
def fail {α : Type} (message : String) : Reading α := do
  throw ⟨(← get).line, ["Syntax error: " ++ message], .nothing⟩

/-- Fails where the script ends before the mark that ends what began on a line. -/
def failOpen {α : Type} (message : String) (line : Nat) (mark : String) : Reading α := do
  if ← isExtended then
    throw ⟨line, ["unexpected EOF while looking for matching \x60" ++ mark ++ "'"], .nothing⟩
  else fail message

/-- Fails at the last token in the words of the extended dialect, after other
    messages. -/
def failNear {α : Type} (messages : List String) (word : String) : Reading α := do
  let r ← get
  match r.last with
  | .finish => throw ⟨r.line, messages ++ ["syntax error: unexpected end of file"], .finish⟩
  | .newline => throw ⟨r.lastLine, messages ++ [word ++ " \x60newline'"], .line⟩
  | _ => throw ⟨r.lastLine, messages ++ [word ++ " \x60" ++ r.lastText ++ "'"], .line⟩

/-! ## Characters. -/

/-- The next character, if any. -/
def peek : Reading (Option Char) := return (← get).rest.head?

/-- Takes the next character. -/
def skip : Reading Unit := modify fun r =>
  match r.rest with
  | '\n' :: cs => { r with rest := cs, line := r.line + 1 }
  | _ :: cs => { r with rest := cs }
  | [] => r

/-- Takes the next character, where a line end does not count. -/
def drop : Reading Unit := modify fun r => { r with rest := r.rest.drop 1 }

/-- Takes so many characters. -/
def takeCount (n : Nat) : Reading Unit := modify fun r => { r with
  rest := r.rest.drop n
  line := r.line + ((r.rest.take n).filter (· = '\n')).length }

/-- Takes the characters of a class. -/
def takeWhile (p : Char → Bool) : Reading (List Char) := modifyGet fun r =>
  let cs := r.rest.takeWhile p
  (cs, { r with
    rest := r.rest.drop cs.length
    line := r.line + (cs.filter (· = '\n')).length })

/-- Takes a text if it is next. -/
def takeText (text : String) : Reading Bool := do
  let there := text.toList.isPrefixOf (← get).rest
  if there then text.toList.forM fun _ => skip
  return there

/-- Runs a reading on another text, which begins at a line, instead of the
    script. -/
def onText {α : Type} (line : Nat) (text : List Char) (x : Reading α) : Reading α := do
  let before ← get
  set { before with rest := text, line := line, pushed := none, awaited := [] }
  let a ← x
  modify fun r => { before with texts := r.texts }
  return a

/-! ## Words. -/

/-- Where a part of a word stands. -/
inductive Frame where
  | bare
  | double
  /-- Between braces, perhaps within quotes. -/
  | brace (inDouble : Bool)
  /-- In an arithmetic expression, below open parentheses. -/
  | sum (depth : Nat)
  /-- In the text of a here redirection. -/
  | text
  /-- In a regular expression, below open parentheses. -/
  | regex (depth : Nat)
  /-- In the index of an item. -/
  | index

/-- Whether a character ends a word. -/
def isMeta (c : Char) : Bool := [' ', '\t', '\n', ';', '&', '|', '<', '>', '(', ')'].contains c

/-- Whether quotes of both kinds have a meaning. -/
def Frame.isOpen : Frame → Bool
  | .bare | .regex _ | .index => true
  | .brace inDouble => !inDouble
  | _ => false

/-- The characters that a backslash makes exact where it leaves others alone. -/
def Frame.escapable : Frame → List Char
  | .text => ['$', '\x60', '\\']
  | .brace _ => ['$', '\x60', '"', '\\', '\x7d']
  | _ => ['$', '\x60', '"', '\\']

/-- What is between backquotes, which began on a line, without their escapes. -/
def readBackquoted (inDouble : Bool) (began : Nat) : Nat → Array Char → Reading (List Char)
  | 0, cs => return cs.toList
  | fuel + 1, cs => do
      match ← peek with
      | none => failOpen "EOF in backquote substitution" began "\x60"
      | some '\x60' => do
          skip
          return cs.toList
      | some '\\' => do
          skip
          match ← peek with
          | none => failOpen "EOF in backquote substitution" began "\x60"
          | some c => do
              skip
              if c = '\n' then readBackquoted inDouble began fuel cs
              else if ['\\', '\x60', '$'].contains c || (inDouble && c = '"') then
                readBackquoted inDouble began fuel (cs.push c)
              else readBackquoted inDouble began fuel ((cs.push '\\').push c)
      | some c => do
          skip
          readBackquoted inDouble began fuel (cs.push c)

/-- The commands of an expansion, after its opening. -/
def readOutput (sub : ReadCommands) : Reading (Option Command) := do
  let before ← get
  set { before with pushed := none, awaited := [] }
  let commands ← sub true
  modify fun r => { r with pushed := before.pushed, last := before.last, awaited := before.awaited }
  return commands

/-- What a treatment is called that has a word. -/
def treatmentOf (c : Char) : Option Treatment :=
  match c with
  | '-' => some .otherwise
  | '=' => some .assignOtherwise
  | '?' => some .demand
  | '+' => some .instead
  | _ => none

/-- The parameter of an expansion. -/
structure Parameter where
  /-- Its name, if there is one. -/
  name : Option String
  isLength : Bool
  /-- Whether its value is the name of the one that is meant. -/
  isIndirect : Bool

/-- The parameter after an opening brace. -/
def readParameter : Reading Parameter := do
  let named : Reading (Option String) := do
    let cs ← match ← peek with
      | some c => takeWhile (if c.isDigit then Char.isDigit else isNameChar)
      | none => pure []
    return if cs.isEmpty then none else some (String.ofList cs)
  let extended ← isExtended
  match (← get).rest with
  | '#' :: c :: cs =>
      if isNameChar c then do
        skip
        return ⟨← named, true, false⟩
      else if c != '\x7d' && isSpecial c && cs.head? = some '\x7d' then do
        skip
        skip
        return ⟨some (String.singleton c), true, false⟩
      else do
        skip
        return ⟨some "#", false, false⟩
  | c :: cs =>
      if isNameChar c then return ⟨← named, false, false⟩
      else if extended && c = '!' && cs.head?.any isNameStart then do
        skip
        return ⟨← named, false, true⟩
      else if isSpecial c then do
        skip
        return ⟨some (String.singleton c), false, false⟩
      else return ⟨none, false, false⟩
  | [] => return ⟨none, false, false⟩

/-- The treatment of the extended dialect after the name of a parameter, and how
    many characters name it. -/
def extendedTreatment? : List Char → Option (Treatment × Nat)
  | ':' :: c :: _ => if (treatmentOf c).isSome then none else some (.slice, 1)
  | '/' :: '/' :: _ => some (.replace true none, 2)
  | '/' :: c :: _ => if c = '#' || c = '%' then some (.replace false (some c), 2) else some (.replace false none, 1)
  | '^' :: '^' :: _ => some (.letters true true, 2)
  | '^' :: _ => some (.letters true false, 1)
  | ',' :: ',' :: _ => some (.letters false true, 2)
  | ',' :: _ => some (.letters false false, 1)
  | '@' :: c :: '\x7d' :: _ => some (.form c, 2)
  | _ => none

/-- How a parameter is treated, after its name: the treatment, whether an empty
    value is a missing one, and whether a word follows. -/
def readTreatment (isLength : Bool) : Reading (Treatment × Bool × Bool) := do
  let r ← get
  let more := if r.extended then extendedTreatment? r.rest else none
  match r.rest with
  | '\x7d' :: _ => do
      skip
      return (if isLength then .length else .value, false, false)
  | c :: cs =>
      match if isLength then none else more with
      | some (t, n) => do
          modify fun r => { r with rest := r.rest.drop n }
          return (t, false, true)
      | none =>
          if isLength then return (.bad "", false, true)
          else if c = '%' || c = '#' then do
            skip
            let longest := cs.head? = some c
            if longest then skip
            return (if c = '%' then .dropEnd longest else .dropStart longest, false, true)
          else if c = ':' then do
            drop
            drop
            match cs.head?.bind treatmentOf with
            | some t => return (t, true, true)
            | none => return (.bad "", false, true)
          else do
            drop
            return ((treatmentOf c).getD (.bad ""), false, true)
  | [] => return (.bad "", false, true)

/-- Whether a word so far is the beginning of a setting up to its value. -/
def isSettingStart (parts : List Part) : Bool :=
  let charOf : Part → Option Char
    | .char c => some c
    | _ => none
  match (parts.mapM charOf).map List.reverse with
  | some ('=' :: '+' :: name) | some ('=' :: name) => isName (String.ofList name.reverse)
  | _ => false

/-- Whether the characters after two opening parentheses are a sum up to two closing
    ones, below open parentheses; `none` if the script ends before. -/
def isSum? : Nat → List Char → Option Bool
  | _, [] => none
  | depth, '(' :: cs => isSum? (depth + 1) cs
  | 0, ')' :: cs => some (cs.head? = some ')')
  | depth + 1, ')' :: cs => isSum? depth cs
  | depth, _ :: cs => isSum? depth cs

/-- Skips blanks and comments. -/
def skipBlanks : Nat → Reading Unit
  | 0 => return ()
  | fuel + 1 => do
      match (← get).rest with
      | ' ' :: _ | '\t' :: _ => do
          discard <| takeWhile fun c => c = ' ' || c = '\t'
          skipBlanks fuel
      | '\\' :: '\n' :: _ => do
          skip
          skip
          skipBlanks fuel
      | '#' :: _ => discard <| takeWhile (· != '\n')
      | _ => return ()

/-- The items of a list that began on a line, after its opening, given how words and
    keys are read, and after items so far. -/
def readValues (word key : Reading Word) (began : Nat) :
    Nat → List (Option Word × Word) → Reading (List (Option Word × Word))
  | 0, items => return items.reverse
  | fuel + 1, items => do
      skipBlanks manySteps
      match (← get).rest with
      | [] => failOpen "" began ")"
      | ')' :: _ => do
          skip
          return items.reverse
      | '\n' :: _ => do
          skip
          readValues word key began fuel items
      | c :: cs =>
          if c = '[' && ("]=".toList.isPrefixOf (cs.dropWhile (· != ']'))) then do
            skip
            let k ← key
            skip
            let value ← word
            readValues word key began fuel ((some k, value) :: items)
          else if isMeta c then
            throw ⟨began, ["syntax error near unexpected token \x60" ++ String.singleton c ++ "'"], .line⟩
          else do
            let value ← word
            readValues word key began fuel ((none, value) :: items)

/-- The failure where the script ends within a word, in a frame that began on a
    line. -/
def unfinished (frame : Frame) (began : Nat) : Reading Unit :=
  match frame with
  | .bare | .text | .regex _ => return ()
  | .double => failOpen "Unterminated quoted string" began "\""
  | .brace true => failOpen "Unterminated quoted string" began "\x7d"
  | .brace false => failOpen "Missing '\x7d'" began "\x7d"
  | .sum _ => failOpen "Missing '))'" began ")"
  | .index => failOpen "" began "]"

/-- Reads the parts of a word up to the end of the frame, which began on a line. -/
def readParts (sub : ReadCommands) (began : Nat) :
    Nat → Frame → Array Part → Reading (List Part)
  | 0, _, parts => return parts.toList
  | fuel + 1, frame, parts => do
      let goOn (part : Part) : Reading (List Part) := readParts sub began fuel frame (parts.push part)
      let same : Reading (List Part) := readParts sub began fuel frame parts
      let extended ← isExtended
      let line := (← get).line
      match (← get).rest with
      | [] => do
          unfinished frame began
          return parts.toList
      | c :: cs =>
          match frame, c with
          | .double, '"' => do
              skip
              return parts.toList
          | .brace _, '\x7d' => do
              skip
              return parts.toList
          | .sum 0, ')' => do
              skip
              if cs.head? = some ')' then
                skip
                return parts.toList
              else goOn (.char c)
          | .sum (depth + 1), ')' => do
              skip
              readParts sub began fuel (.sum depth) (parts.push (.char c))
          | .sum depth, '(' => do
              skip
              readParts sub began fuel (.sum (depth + 1)) (parts.push (.char c))
          | .index, ']' => do
              skip
              return parts.toList
          | .regex 0, ')' | .regex 0, ' ' | .regex 0, '\t' | .regex _, '\n' => return parts.toList
          | .regex (depth + 1), ')' => do
              skip
              readParts sub began fuel (.regex depth) (parts.push (.char c))
          | .regex depth, '(' => do
              skip
              readParts sub began fuel (.regex (depth + 1)) (parts.push (.char c))
          | _, '\\' =>
              match cs with
              | '\n' :: _ => do
                  skip
                  skip
                  same
              | d :: _ =>
                  if frame.isOpen || frame.escapable.contains d then do
                    skip
                    skip
                    goOn (.exact (String.singleton d))
                  else do
                    skip
                    goOn (.exact "\\")
              | [] => do
                  skip
                  goOn (.exact "\\")
          | _, '\x60' => do
              skip
              let inDouble := !frame.isOpen
              let text ← readBackquoted inDouble line manySteps #[]
              goOn (.output (← onText 1 text (sub false)))
          | _, '$' => do
              skip
              match cs with
              | '(' :: '(' :: ds =>
                  match if extended then isSum? 0 ds else some true with
                  | none => failOpen "" line ")"
                  | some false => do
                      skip
                      goOn (.output (← readOutput sub))
                  | some true => do
                      skip
                      skip
                      goOn (.sum (← readParts sub line fuel (.sum 0) #[]))
              | '(' :: _ => do
                  skip
                  goOn (.output (← readOutput sub))
              | '\x7b' :: _ => do
                  let before := (← get).rest
                  skip
                  let p ← readParameter
                  let index ←
                    if extended && p.name.any isName && (← peek) = some '[' then do
                      skip
                      pure (some (← readParts sub line fuel .index #[]))
                    else pure none
                  let (treatment, orEmpty, hasWord) ←
                    if p.name.isNone then pure (.bad "", false, true) else readTreatment p.isLength
                  let word ←
                    if hasWord then
                      let inDouble := match treatment with
                        | .dropStart _ | .dropEnd _ | .replace .. => false
                        | _ => !frame.isOpen
                      readParts sub line fuel (.brace inDouble) #[]
                    else pure []
                  let isAll := match index with
                    | some [.char c] => c = '@' || c = '*'
                    | _ => false
                  let after := (← get).rest
                  let treatment := match treatment with
                    | .bad _ => .bad (String.ofList ('$' :: before.take (before.length - after.length)))
                    | .value => if !p.isIndirect then .value else if isAll then .keys else .indirect
                    | t => t
                  goOn (.param (p.name.getD "") index treatment orEmpty word)
              | d :: ds =>
                  if isNameStart d then do
                    let name ← takeWhile isNameChar
                    goOn (.param (String.ofList name) none .value false [])
                  else if isSpecial d then do
                    skip
                    goOn (.param (String.singleton d) none .value false [])
                  else if extended && frame.isOpen && d = '"' then same
                  else if extended && frame.isOpen && d = '\'' then
                    match Printing.upToQuote manySteps #[] ds with
                    | some (text, rest) => do
                        skip
                        takeCount (ds.length - rest.length)
                        goOn (.exact text)
                    | none => do
                        failOpen "" line "'"
                  else goOn (.char '$')
              | [] => goOn (.char '$')
          | _, '\'' =>
              if frame.isOpen then do
                skip
                let inner ← takeWhile (· != '\'')
                if (← peek).isNone then failOpen "Unterminated quoted string" line "'"
                skip
                goOn (.exact (String.ofList inner))
              else do
                skip
                goOn (.char c)
          | .text, '"' => do
              skip
              goOn (.char c)
          | .sum _, '"' => do
              skip
              same
          | _, '"' => do
              skip
              goOn (.quoted (← readParts sub line fuel .double #[]))
          | .bare, _ =>
              if extended && c = '<' && cs.head? = some '(' then do
                skip
                skip
                goOn (.feed (← readOutput sub))
              else if extended && c = '(' && isSettingStart parts.toList then do
                skip
                goOn (.items (← readValues (readParts sub line fuel .bare #[])
                  (readParts sub line fuel .index #[]) line manySteps []))
              else if isMeta c then return parts.toList
              else do
                skip
                goOn (.char c)
          | _, _ => do
              skip
              goOn (.char c)

/-! ## Texts of here redirections. -/

/-- The lines of a text up to a delimiter, which is taken too. -/
def readLines (t : AwaitedText) : Nat → Array Char → Reading (List Char)
  | 0, text => return text.toList
  | fuel + 1, text => do
      if (← peek).isNone then return text.toList
      let line ← takeWhile (· != '\n')
      let ended := (← peek).isSome
      skip
      let ended := ended || (← isExtended)
      let line := if t.stripped then line.dropWhile (· = '\t') else line
      if String.ofList line = t.delimiter then return text.toList
      else
        let text := text ++ line.toArray
        readLines t fuel (if ended then text.push '\n' else text)

/-- Reads the texts that are awaited. -/
def readAwaited (sub : ReadCommands) : Reading Unit := do
  let awaited := (← get).awaited
  modify fun r => { r with awaited := [] }
  for t in awaited do
    let line := (← get).line
    let text ← readLines t manySteps #[]
    let word ←
      if t.literal then pure [.exact (String.ofList text)]
      else onText line text (readParts sub line manySteps .text #[])
    modify fun r => { r with texts := r.texts.setIfInBounds t.place word }

/-- The delimiter of a text, and whether it has quotes. -/
def readDelimiter : Nat → Array Char → Bool → Reading (String × Bool)
  | 0, cs, quoted => return (String.ofList cs.toList, quoted)
  | fuel + 1, cs, quoted => do
      match ← peek with
      | none => return (String.ofList cs.toList, quoted)
      | some c =>
          if isMeta c then return (String.ofList cs.toList, quoted)
          else if c = '\'' || c = '"' then do
            skip
            let inner ← takeWhile (· != c)
            if (← peek).isNone then
              failOpen "Unterminated quoted string" (← get).line (String.singleton c)
            skip
            readDelimiter fuel (cs ++ inner.toArray) true
          else if c = '\\' then do
            skip
            match ← peek with
            | none => return (String.ofList (cs.push '\\').toList, quoted)
            | some d => do
                skip
                readDelimiter fuel (cs.push d) true
          else do
            skip
            readDelimiter fuel (cs.push c) quoted

/-- Awaits the text of a redirection, which gets a place in the table. -/
def awaitText (stripped : Bool) : Reading Nat := do
  discard <| takeWhile fun c => c = ' ' || c = '\t'
  let (delimiter, literal) ← readDelimiter manySteps #[] false
  let place := (← get).texts.size
  modify fun r => { r with
    texts := r.texts.push []
    awaited := r.awaited ++ [⟨place, delimiter, stripped, literal⟩] }
  return place

/-! ## Tokens. -/

/-- The operators, longer ones first. -/
def operators : List String := ["&&", "||", ";;", "&", "|", ";", "(", ")"]

/-- More operators, in the extended dialect. -/
def moreOperators : List String := [";;&", ";&", "|&"]

/-- The symbols of redirections, longer ones first. -/
def symbols : List String := ["<<-", "<<", "<&", "<>", "<", ">>", ">&", ">|", ">"]

/-- The symbols of redirections of both outputs, in the extended dialect. -/
def symbolsOfBoth : List String := ["&>>", "&>"]

/-- The words that are keywords where a command can begin. -/
def keywords : List String :=
  ["!", "\x7b", "\x7d", "case", "do", "done", "elif", "else", "esac", "fi", "for", "if", "in",
    "then", "until", "while"]

/-- More keywords, in the extended dialect. -/
def moreKeywords : List String := ["[[", "function"]

/-- Takes the first of some texts that is next. -/
def takeFirst : List String → Reading (Option String)
  | [] => return none
  | text :: texts => do
      if ← takeText text then return some text else takeFirst texts

/-- The characters of a word without quotes and expansions. -/
def plainText? (word : Word) : Option String :=
  let charOf : Part → Option Char
    | .char c => some c
    | _ => none
  (word.mapM charOf).map String.ofList

/-- Reads a token, whatever was put back. -/
def readRaw (sub : ReadCommands) : Reading Token := do
  skipBlanks manySteps
  let r ← get
  let result ← match r.rest with
    | [] => pure .finish
    | '\n' :: _ => do
        skip
        readAwaited sub
        pure .newline
    | _ => do
        match ← if r.extended then takeFirst symbolsOfBoth else pure none with
        | some symbol => pure (.redirection 1 symbol)
        | none =>
            match ← takeFirst (if r.extended then moreOperators ++ operators else operators) with
            | some text => pure (.operator text)
            | none => do
                let word ← readParts sub r.line manySteps .bare #[]
                let next ← peek
                let stream? : Option (Option Nat) := match word, plainText? word with
                  | [], _ => some none
                  | [.char d], _ => if d.isDigit then some (some (d.toNat - 48)) else none
                  | _, some text =>
                      if r.extended && text.all Char.isDigit then some text.toNat? else none
                  | _, none => none
                match stream?, next == some '<' || next == some '>' with
                | some stream, true => do
                    let known := if r.extended then "<<<" :: symbols else symbols
                    let symbol := (← takeFirst known).getD ""
                    let standard := if symbol.startsWith "<" then 0 else 1
                    pure (.redirection (stream.getD standard) symbol)
                | _, _ => pure (.word word)
  modify fun after => { after with
    lastLine := r.line
    lastText :=
      if r.extended then String.ofList (r.rest.take (r.rest.length - after.rest.length)) else "" }
  return result

/-- Skips line ends after a token. -/
def skipNewlines (sub : ReadCommands) : Nat → Token → Reading Token
  | fuel + 1, .newline => do skipNewlines sub fuel (← readRaw sub)
  | _, t => return t

/-- Reads a token: after line ends if `newlines`, and as a keyword where it is
    one if `keyed`. -/
def token (sub : ReadCommands) (newlines keyed : Bool) : Reading Token := do
  let extended ← isExtended
  let t ← match (← get).pushed with
    | some t => do
        modify fun r => { r with pushed := none }
        pure t
    | none => readRaw sub
  let t ← if newlines then skipNewlines sub manySteps t else pure t
  let t := match t with
    | .word word =>
        match plainText? word with
        | some text =>
            let isKeyword := keywords.contains text || (extended && moreKeywords.contains text)
            if keyed && isKeyword then .keyword text else t
        | none => t
    | _ => t
  modify fun r => { r with last := t }
  return t

/-- Puts a token back. -/
def pushBack (t : Token) : Reading Unit := modify fun r => { r with pushed := some t }

end Reader

/-- What a token is called in messages. -/
def Token.name : Token → String
  | .finish => "end of file"
  | .newline => "newline"
  | .operator text => "\"" ++ text ++ "\""
  | .keyword text => "\"" ++ text ++ "\""
  | .word _ => "word"
  | .redirection .. => "redirection"

/-- Whether a token ends a list of commands. -/
def Token.isEnd : Token → Bool
  | .finish => true
  | .operator text => text = ")" || text.startsWith ";;" || text = ";&"
  | .keyword text =>
      ["do", "done", "elif", "else", "esac", "fi", "then", "\x7d"].contains text
  | _ => false

end GuardedCnf.Script
