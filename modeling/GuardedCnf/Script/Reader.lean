import GuardedCnf.Script.Token
/-! # Reading commands of scripts

    A script is read and run one line at a time, or more exactly one list of
    commands at a time, which ends with a line unless it is within a compound
    command. -/

namespace GuardedCnf.Script

/-- What ends a list of commands. -/
inductive ListKind where
  /-- A line end. -/
  | line
  /-- A keyword or symbol, after at least one command. -/
  | body
  /-- A keyword or symbol. -/
  | block
deriving DecidableEq

/-- A reader of lists of commands. -/
abbrev ReadList := ListKind → Reading (Option Command)

namespace Reader

/-- Fails at an unexpected token. -/
def unexpected {α : Type} (expected : Option String) : Reading α := do
  if ← isExtended then failNear [] "syntax error near unexpected token"
  let name := (← get).last.name
  match expected with
  | some e => fail (name ++ " unexpected (expecting " ++ e ++ ")")
  | none => fail (name ++ " unexpected")

/-- Commands as one command; without any the empty one. -/
def joined : List Command → Option Command
  | [] => none
  | [c] => some c
  | cs => some (.sequence cs)

/-- The commands in a word. -/
def commandsOf (self : ReadList) : ReadCommands := fun closed => do
  let commands ← self .block
  if closed then
    match ← token (fun _ => return none) false false, ← isExtended with
    | .operator ")", _ => return commands
    | .finish, true =>
        throw ⟨(← get).line, ["unexpected EOF while looking for matching \x60)'"], .finish⟩
    | _, _ => unexpected (some "\")\"")
  else return commands

section
variable (self : ReadList)

/-- The next token. -/
def next (newlines keyed : Bool) : Reading Token := token (commandsOf self) newlines keyed

/-- Takes a keyword that has to be next. -/
def expectKeyword (text : String) (newlines : Bool) : Reading Unit := do
  match ← next self newlines true with
  | .keyword t => if t = text then return () else unexpected (some ("\"" ++ text ++ "\""))
  | _ => unexpected (some ("\"" ++ text ++ "\""))

/-- The list of commands in a compound command. -/
def body : Reading Command := do
  match ← self .body with
  | some c => return c
  | none => return .sequence []

/-- The target of a redirection. -/
def readTarget (stream : Nat) (symbol : String) : Reading (Redirection Word) := do
  if symbol.startsWith "<<" && symbol != "<<<" then
    discard <| takeWhile fun c => c = ' ' || c = '\t'
    if (← peek).all isMeta then
      discard <| next self false false
      unexpected none
    return ⟨stream, .here (← awaitText (symbol = "<<-")), []⟩
  match ← next self false false with
  | .word word =>
      let direction := match symbol with
        | "<<<" => .line
        | "&>" => .writeBoth false
        | "&>>" => .writeBoth true
        | "<" => .read
        | ">>" => .append
        | "<>" => .update
        | ">|" => .overwrite
        | ">&" | "<&" => .duplicate
        | _ => .write
      let isNumber (text : String) : Bool := text = "-" || (text.length = 1 && text.all Char.isDigit)
      match direction, plainText? word, ← isExtended with
      | .duplicate, some text, true =>
          if symbol = ">&" && stream = 1 && !isNumber text then return ⟨1, .writeBoth false, word⟩
      | _, _, _ => pure ()
      return ⟨stream, direction, word⟩
  | _ => unexpected none

/-- The redirections after a compound command. -/
def readRedirections : Nat → List (Redirection Word) → Reading (List (Redirection Word))
  | 0, rs => return rs
  | fuel + 1, rs => do
      match ← next self false true with
      | .redirection stream symbol => do
          let r ← readTarget self stream symbol
          readRedirections fuel (rs ++ [r])
      | t => do
          pushBack t
          return rs

/-- What a word sets. -/
def setting? (extended : Bool) (word : Word) : Option (Setting Word) :=
  let isNamePart : Part → Bool
    | .char c => isNameChar c
    | _ => false
  let isClosing : Part → Bool
    | .char ']' => true
    | _ => false
  let name := word.takeWhile isNamePart
  match (plainText? name).filter isName, word.drop name.length with
  | some text, .char '=' :: value => some ⟨text, none, false, value⟩
  | some text, rest =>
      if !extended then none
      else match rest with
        | .char '+' :: .char '=' :: value => some ⟨text, none, true, value⟩
        | .char '[' :: inner =>
            let index := inner.takeWhile (!isClosing ·)
            match inner.drop index.length with
            | .char ']' :: .char '=' :: value => some ⟨text, some index, false, value⟩
            | .char ']' :: .char '+' :: .char '=' :: value => some ⟨text, some index, true, value⟩
            | _ => none
        | _ => none
  | none, _ => none

/-- The commands that scripts cannot define. -/
def specialNames : List String :=
  [".", ":", "break", "continue", "eval", "exec", "exit", "export", "local", "readonly",
    "return", "set", "shift", "times", "trap", "unset"]

/-- A simple command, or the definition of a function, read so far. -/
structure Simple where
  line : Nat
  settings : List (Setting Word)
  words : List Word
  redirections : List (Redirection Word)

/-- The name of the function that is defined here, if a parenthesis follows. -/
def Simple.functionName? (s : Simple) : Option Word :=
  match s.settings, s.words, s.redirections with
  | [], [word], [] => some word
  | _, _, _ => none

/-- Reads a simple command or the definition of a function, whose body is read
    as told. -/
def readSimple (readBody : Reading Command) : Nat → Simple → Reading Command
  | 0, s => return .simple s.line s.settings s.words s.redirections
  | fuel + 1, s => do
      let done : Reading Command :=
        return .simple s.line s.settings s.words.reverse s.redirections
      match ← next self false false with
      | .word word =>
          match s.words, setting? (← isExtended) word with
          | [], some setting =>
              readSimple readBody fuel { s with settings := s.settings ++ [setting] }
          | words, _ => readSimple readBody fuel { s with words := word :: words }
      | .redirection stream symbol => do
          let r ← readTarget self stream symbol
          readSimple readBody fuel { s with redirections := s.redirections ++ [r] }
      | .operator "(" =>
          match s.functionName? with
          | some word => do
              match ← next self false false with
              | .operator ")" => pure ()
              | _ => unexpected (some "\")\"")
              let extended ← isExtended
              match plainText? word with
              | some name =>
                  if extended || (isName name && !specialNames.contains name) then
                    return .function name (← readBody)
                  else fail "Bad function name"
              | none => fail "Bad function name"
          | none => do
              pushBack (.operator "(")
              done
      | t => do
          pushBack t
          done

/-- The parts of a condition after its keyword. -/
def readChoice : Nat → Reading Command
  | 0 => return .sequence []
  | fuel + 1 => do
      let condition ← body self
      expectKeyword self "then" false
      let yes ← body self
      match ← next self false true with
      | .keyword "elif" => return .choice condition yes (some (← readChoice fuel))
      | .keyword "else" => return .choice condition yes (some (← body self))
      | t => do
          pushBack t
          return .choice condition yes none

/-- The words of a repetition, up to the end of the line. -/
def readWords : Nat → List Word → Reading (List Word)
  | 0, words => return words.reverse
  | fuel + 1, words => do
      match ← next self false false with
      | .word word => readWords fuel (word :: words)
      | .newline | .operator ";" => return words.reverse
      | _ => unexpected none

/-- The parts of a word between semicolons. -/
def splitParts : Word → List Word
  | [] => [[]]
  | .char ';' :: rest => [] :: splitParts rest
  | part :: rest =>
      match splitParts rest with
      | first :: others => (part :: first) :: others
      | [] => [[part]]

/-- A sum after its opening parentheses. -/
def readSum : Reading Word := do
  readParts (commandsOf self) (← get).line manySteps (.sum 0) #[]

/-- A repetition with sums, after its opening parentheses. -/
def readCount (line : Nat) : Reading Command := do
  match splitParts (← readSum self) with
  | [start, condition, after] => do
      match ← next self true true with
      | .operator ";" => expectKeyword self "do" true
      | .keyword "do" => pure ()
      | _ => unexpected none
      return .count line start condition after (← body self)
  | _ => throw ⟨line, ["syntax error: arithmetic expression required"], .line⟩

/-- A repetition for words after its keyword. -/
def readEach (line : Nat) : Reading Command := do
  if ← isExtended then
    skipBlanks manySteps
    if ← takeText "((" then return (← readCount self line)
  let badName (text : String) : Reading String := do
    if ← isExtended then
      throw ⟨(← get).lastLine, ["\x60" ++ text ++ "': not a valid identifier"], .nothing⟩
    else fail "Bad for loop variable"
  let name ← match ← next self false false with
    | .word word =>
        match plainText? word with
        | some name => if isName name then pure name else badName name
        | none => badName (← get).lastText
    | _ => if ← isExtended then unexpected none else badName ""
  let words ← match ← next self true true with
    | .keyword "in" => some <$> readWords self manySteps []
    | .operator ";" => pure none
    | t => do
        pushBack t
        pure none
  expectKeyword self "do" true
  let inner ← body self
  return .each line name words inner

/-- The word that a token is among the patterns of a case. -/
def patternWord : Token → Word
  | .word word => word
  | .keyword text => text.toList.map .char
  | _ => []

/-- The patterns of a case, after the first one. -/
def readPatterns : Nat → List Word → Reading (List Word)
  | 0, patterns => return patterns.reverse
  | fuel + 1, patterns => do
      match ← next self false false with
      | .operator "|" => do
          let t ← next self false false
          readPatterns fuel (patternWord t :: patterns)
      | .operator ")" => return patterns.reverse
      | _ => unexpected (some "\")\"")

/-- The cases of a selection. -/
def readCases : Nat → List (List Word × Option Command × AfterCase) →
    Reading (List (List Word × Option Command × AfterCase))
  | 0, cases => return cases.reverse
  | fuel + 1, cases => do
      match ← next self true true with
      | .keyword "esac" => return cases.reverse
      | t => do
          let first ← match t with
            | .operator "(" => next self false false
            | t => pure t
          match first with
          | .word _ | .keyword _ => pure ()
          | _ => unexpected (some "\")\"")
          let patterns ← readPatterns self manySteps [patternWord first]
          let commands ← self .block
          let goOn (after : AfterCase) := readCases fuel ((patterns, commands, after) :: cases)
          match ← next self true true with
          | .keyword "esac" => return ((patterns, commands, .stop) :: cases).reverse
          | .operator ";;" => goOn .stop
          | .operator ";&" => goOn .through
          | .operator ";;&" => goOn .again
          | _ => unexpected (some "\";;\"")

/-- A selection after its keyword. -/
def readSelect (line : Nat) : Reading Command := do
  match ← next self false false with
  | .word word => do
      expectKeyword self "in" true
      return .select line word (← readCases self manySteps [])
  | _ => unexpected (some "word")

/-! ## Conditions as commands. -/

/-- The operators of conditions with one operand. -/
def unaryChecks : List String :=
  ["-a", "-b", "-c", "-d", "-e", "-f", "-g", "-h", "-k", "-n", "-o", "-p", "-r", "-s", "-t", "-u",
    "-v", "-w", "-x", "-z", "-G", "-L", "-N", "-O", "-R", "-S"]

/-- The operators of conditions with two operands. -/
def binaryChecks : List String :=
  ["=", "==", "!=", "=~", "-eq", "-ne", "-lt", "-le", "-gt", "-ge", "-nt", "-ot", "-ef"]

/-- The word that a token is in a condition, unless it ends the condition. -/
def checkWord? : Token → Option Word
  | .word word => if plainText? word = some "]]" then none else some word
  | .keyword text => some (text.toList.map .char)
  | _ => none

/-- What a condition is read as. -/
inductive CheckLevel where
  | either
  | both
  | not

/-- The second operand of an operator in a condition. -/
def readOperand (operator : String) : Reading Word := do
  if operator = "=~" then
    skipBlanks manySteps
    readParts (commandsOf self) (← get).line manySteps (.regex 0) #[]
  else match checkWord? (← next self false false) with
    | some word => return word
    | none => do
        let text := (← get).lastText
        discard <| next self false false
        failNear ["unexpected argument \x60" ++ text ++ "' to conditional binary operator"]
          "syntax error near"

/-- Reads a condition. -/
def readCheck : Nat → CheckLevel → Reading Check
  | 0, _ => unexpected none
  | fuel + 1, .either => do
      let a ← readCheck fuel .both
      match ← next self true false with
      | .operator "||" => return .either a (← readCheck fuel .either)
      | t => do
          pushBack t
          return a
  | fuel + 1, .both => do
      let a ← readCheck fuel .not
      match ← next self true false with
      | .operator "&&" => return .both a (← readCheck fuel .both)
      | t => do
          pushBack t
          return a
  | fuel + 1, .not => do
      match ← next self true true with
      | .keyword "!" => return .not (← readCheck fuel .not)
      | .operator "(" => do
          let a ← readCheck fuel .either
          match ← next self true false with
          | .operator ")" => return a
          | _ => failNear [] "syntax error near"
      | t =>
          match checkWord? t with
          | none => failNear [] "syntax error near"
          | some a => do
              let t ← next self false false
              match (plainText? a).filter unaryChecks.contains, t with
              | some operator, t =>
                  match checkWord? t with
                  | some b => return .unary operator b
                  | none => do
                      let text := (← get).lastText
                      discard <| next self false false
                      failNear
                        ["unexpected argument \x60" ++ text ++ "' to conditional unary operator"]
                        "syntax error near"
              | none, .redirection _ "<" => return .binary "<" a (← readOperand self "<")
              | none, .redirection _ ">" => return .binary ">" a (← readOperand self ">")
              | none, t =>
                  match checkWord? t with
                  | some o =>
                      match (plainText? o).filter binaryChecks.contains with
                      | some operator => return .binary operator a (← readOperand self operator)
                      | none => failNear ["conditional binary operator expected"] "syntax error near"
                  | none => do
                      pushBack t
                      return .unary "-n" a

/-- A condition after its opening brackets. -/
def readChecks (line : Nat) : Reading Command := do
  let c ← readCheck self manySteps .either
  match ← next self true false with
  | .word word =>
      if plainText? word = some "]]" then return .check line c
      else failNear [] "syntax error near"
  | _ => failNear [] "syntax error near"

/-! ## Commands. -/

/-- Takes the token that has to end a compound command. -/
def expectEnd (text : String) : Reading Unit := do
  match ← next self false true with
  | .keyword t | .operator t => if t = text then return () else unexpected (some ("\"" ++ text ++ "\""))
  | _ => unexpected (some ("\"" ++ text ++ "\""))

/-- Reads a command: after line ends if `newlines`. -/
def readCommand : Nat → (newlines : Bool) → Reading Command
  | 0, _ => return .sequence []
  | fuel + 1, newlines => do
      let t ← next self newlines true
      let line := (← get).line
      let compound (final : String) (x : Reading Command) : Reading (Option Command) := do
        let c ← x
        if final != "" then expectEnd self final
        return some c
      let command ← match t with
        | .keyword "if" => compound "fi" (readChoice self manySteps)
        | .keyword "while" => compound "done" do
            let condition ← body self
            expectKeyword self "do" false
            return .loop false condition (← body self)
        | .keyword "until" => compound "done" do
            let condition ← body self
            expectKeyword self "do" false
            return .loop true condition (← body self)
        | .keyword "for" => compound "done" (readEach self line)
        | .keyword "case" => compound "" (readSelect self line)
        | .keyword "\x7b" => compound "\x7d" (body self)
        | .keyword "[[" => compound "" (readChecks self line)
        | .keyword "function" => compound "" do
            let name ← match ← next self false false with
              | .word word => pure ((plainText? word).getD "")
              | _ => unexpected none
            match ← next self false false with
            | .operator "(" => expectEnd self ")"
            | t => pushBack t
            return .function name (← readCommand fuel true)
        | .operator "(" => do
            let r ← get
            if r.extended && r.rest.head? = some '(' && isSum? 0 (r.rest.drop 1) = some true then
              skip
              compound "" (return .sum line (← readSum self))
            else compound ")" (return .subshell line (← body self) [])
        | .word _ | .redirection .. => do
            pushBack t
            pure none
        | _ => unexpected none
      match command with
      | some c@(.function ..) => return c
      | none => readSimple self (readCommand fuel true) manySteps ⟨line, [], [], []⟩
      | some c => do
          match c, ← readRedirections self manySteps [] with
          | c, [] => return c
          | .subshell line c _, rs => return .subshell line c rs
          | c, rs => return .redirected line c rs

/-- The commands of a pipe after the first one. -/
def readPipe : Nat → List Command → Reading (List Command)
  | 0, commands => return commands.reverse
  | fuel + 1, commands => do
      match ← next self false true with
      | .operator "|" => do
          let c ← readCommand self manySteps true
          readPipe fuel (c :: commands)
      | .operator "|&" => do
          let line := (← get).line
          let both : Redirection Word := ⟨2, .duplicate, [.char '1']⟩
          let c ← readCommand self manySteps true
          let sources := match commands with
            | source :: others => .redirected line source [both] :: others
            | [] => []
          readPipe fuel (c :: sources)
      | t => do
          pushBack t
          return commands.reverse

/-- Commands that pipes join. -/
def readPiped : Reading Command := do
  let first ← readCommand self manySteps false
  match ← readPipe self manySteps [first] with
  | [c] => return c
  | cs => return .pipe cs

/-- A pipe, negated or not. -/
def readPipeline (newlines : Bool) : Reading Command := do
  match ← next self newlines true with
  | .keyword "!" => do
      let command ← readPiped self
      return .negated command
  | t => do
      pushBack t
      readPiped self

/-- The pipes that conditions join to a first one. -/
def readJoined : Nat → Command → Reading Command
  | 0, first => return first
  | fuel + 1, first => do
      match ← next self false true with
      | .operator "&&" => do
          let second ← readPipeline self true
          readJoined fuel (.both first second)
      | .operator "||" => do
          let second ← readPipeline self true
          readJoined fuel (.either first second)
      | t => do
          pushBack t
          return first

/-- The commands of a list, after those so far, which are reversed. -/
def readItems (kind : ListKind) : Nat → List Command → Reading (List Command)
  | 0, commands => return commands.reverse
  | fuel + 1, commands => do
      let t ← next self (kind ≠ .line) true
      match t with
      | .newline => return commands.reverse
      | .finish => do
          pushBack t
          return commands.reverse
      | _ => do
          pushBack t
          let mayEnd := kind = .block || (kind = .body && !commands.isEmpty)
          if mayEnd && t.isEnd then return commands.reverse
          let first ← readPipeline self false
          let command ← readJoined self manySteps first
          let ending ← next self false false
          let commands := match ending with
            | .operator "&" => .background command :: commands
            | _ => command :: commands
          match ending with
          | .finish => do
              pushBack ending
              return commands.reverse
          | .newline => do
              pushBack ending
              readItems kind fuel commands
          | .operator "&" | .operator ";" => readItems kind fuel commands
          | _ => do
              if kind = .line then unexpected none
              pushBack ending
              return commands.reverse

end

/-- Reads a list of commands; `fuel` bounds the depth. -/
def readList : Nat → ReadList
  | 0, _ => return none
  | fuel + 1, kind => return joined (← readItems (readList fuel) kind manySteps [])

/-- How deep commands may be nested. -/
def depth : Nat := 2000

/-- Reads the commands of the next line; `none` at the end of the script. -/
def readLine : Reading (Option (Option Command)) := do
  let self := readList depth
  match ← next self false true with
  | .finish => return none
  | t => do
      pushBack t
      return some (← self .line)

end Reader

end GuardedCnf.Script
