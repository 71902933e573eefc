import GuardedCnf.Utility.Regex
/-! # The plain spellings of patterns

    In the extended spelling parentheses, braces, bars, plus signs and question
    marks have a meaning; in the basic one they have it after a backslash.  A
    strict spelling refuses what has no meaning where it stands. -/

namespace GuardedCnf.Regex

/-- What a pattern is read in. -/
structure Spelling where
  extended : Bool
  /-- Whether letters match in both cases. -/
  caseless : Bool
  strict : Bool
  /-- Whether anchors are for lines in the text. -/
  multiline : Bool
  /-- Whether a line end parts alternatives. -/
  lineBars : Bool
  /-- Whether a closing parenthesis may stand alone. -/
  loose : Bool

/-- The spelling of a line editor. -/
def Spelling.editing (extended caseless multiline : Bool) : Spelling :=
  ⟨extended, caseless, true, multiline, false, false⟩

/-- The spelling for a search in lines. -/
def Spelling.searching (extended caseless : Bool) : Spelling :=
  ⟨extended, caseless, false, false, true, extended⟩

/-- The spelling of conditions. -/
def Spelling.testing : Spelling := ⟨true, false, true, false, false, true⟩

namespace Plain

/-- A token of a pattern. -/
inductive Token where
  | finish
  | char (c : Char)
  /-- A backslash at the end. -/
  | backslash
  | any
  | bracket
  | star
  | plus
  | question
  | openBrace
  | closeBrace
  | openGroup
  | closeGroup
  | bar
  | back (n : Nat)
  | anchor (a : Anchor)
  | set (s : CharSet)
deriving BEq

/-- A pattern that is being read. -/
structure Reader where
  /-- What comes after the token. -/
  rest : List Char
  token : Token
  /-- What begins with the token. -/
  from_ : List Char
  /-- How many groups have begun. -/
  groups : Nat
  /-- The groups that have ended. -/
  ended : List Nat

/-- A reading of a part of a pattern. -/
abbrev Reading := EStateM String Reader

/-- The token that a symbol is, if it has a meaning; in basic patterns it has one
    after a backslash. -/
def symbol? : Char → Option Token
  | '+' => some .plus
  | '?' => some .question
  | '\x7b' => some .openBrace
  | '\x7d' => some .closeBrace
  | '(' => some .openGroup
  | ')' => some .closeGroup
  | '|' => some .bar
  | _ => none

/-- The token of a character after a backslash. -/
def escaped (s : Spelling) (c : Char) : Token :=
  match c with
  | '<' => .anchor .wordStart
  | '>' => .anchor .wordEnd
  | 'b' => .anchor .wordEdge
  | 'B' => .anchor .noWordEdge
  | '\x60' => .anchor .textStart
  | '\'' => .anchor .textEnd
  | 'w' => .set (wordSet false)
  | 'W' => .set (wordSet true)
  | 's' => .set (spaceSet false)
  | 'S' => .set (spaceSet true)
  | c =>
      if '1' ≤ c && c ≤ '9' then .back (c.toNat - 48)
      else if s.extended then .char c
      else (symbol? c).getD (.char c)

/-- Whether a basic pattern has an anchor for the end of the line before this. -/
def isLast (s : Spelling) : List Char → Bool
  | [] => true
  | '\n' :: _ => s.lineBars
  | '\\' :: '|' :: _ | '\\' :: ')' :: _ => true
  | _ => false

/-- The token at the beginning of a text, and what comes after it; `first` tells
    whether a caret is an anchor. -/
def tokenOf (s : Spelling) (first : Bool) : List Char → Token × List Char
  | [] => (.finish, [])
  | ['\\'] => (.backslash, [])
  | '\\' :: c :: cs => (escaped s c, cs)
  | c :: cs =>
      let token : Token := match c with
        | '\n' => if s.lineBars then .bar else .char c
        | '*' => .star
        | '[' => .bracket
        | '.' => .any
        | '^' =>
            if s.extended || first then .anchor (if s.multiline then .lineStart else .textStart)
            else .char c
        | '$' =>
            if s.extended || isLast s cs then .anchor (if s.multiline then .lineEnd else .textEnd)
            else .char c
        | _ => if s.extended then (symbol? c).getD (.char c) else .char c
      (token, cs)

/-- Takes the next token. -/
def fetch (s : Spelling) (first : Bool) : Reading Unit := modify fun r =>
  let (token, rest) := tokenOf s first r.rest
  { r with rest := rest, token := token, from_ := r.rest }

/-! ## Sets. -/

/-- A member of a set. -/
inductive Member where
  | char (c : Char)
  | named (ranges : List (Char × Char))
  /-- A character with a name of its own. -/
  | symbol (name : List Char)
  | alike (name : List Char)

/-- A token within a set. -/
inductive SetToken where
  | finish
  | char (c : Char)
  | close
  | hyphen
  | caret
  /-- The beginning of a name. -/
  | opening (mark : Char)

/-- The token at the beginning of a part of a set, and how many characters it
    has. -/
def setToken : List Char → SetToken × Nat
  | [] => (.finish, 0)
  | '[' :: '.' :: _ => (.opening '.', 2)
  | '[' :: '=' :: _ => (.opening '=', 2)
  | '[' :: ':' :: _ => (.opening ':', 2)
  | ']' :: _ => (.close, 1)
  | '^' :: _ => (.caret, 1)
  | '-' :: '-' :: '-' :: _ => (.char '-', 3)
  | '-' :: _ => (.hyphen, 1)
  | c :: _ => (.char c, 1)

/-- Why a set is refused when it does not end. -/
def openSet : String := "Unmatched [, [^, [:, [., or [="

/-- The name up to a mark and a bracket, and what comes after it. -/
def setName (mark : Char) : List Char → List Char → Except String (List Char × List Char)
  | [], _ | [_], _ => .error openSet
  | c :: d :: cs, name =>
      if 32 ≤ name.length then .error openSet
      else if c = mark && d = ']' then .ok (name.reverse, cs)
      else setName mark (d :: cs) (c :: name)

/-- The names of classes. -/
def classNames : List String :=
  ["alpha", "upper", "lower", "digit", "xdigit", "space", "punct", "alnum", "print", "graph", "cntrl",
    "blank"]

/-- Reads a member, given its token. -/
def readMember (s : Spelling) (hyphens : Bool) (t : SetToken) (cs : List Char) :
    Except String (Member × List Char) := do
  match t with
  | .opening ':' => do
      let (name, rest) ← setName ':' cs []
      let name := String.ofList name
      if !classNames.contains name then throw "Invalid character class name"
      let cased := s.caseless && (name = "upper" || name = "lower")
      return (.named (CharSet.classRanges (if cased then "alpha" else name)), rest)
  | .opening mark => do
      let (name, rest) ← setName mark cs []
      return (if mark = '.' then .symbol name else .alike name, rest)
  | .hyphen =>
      if !hyphens && !((setToken cs).1 matches .close) then throw "Invalid range end"
      return (.char '-', cs)
  | .char c => return (.char c, cs)
  | .close => return (.char ']', cs)
  | .caret => return (.char '^', cs)
  | .finish => throw openSet

/-- The character that a member is. -/
def memberChar (m : Member) : Except String Char :=
  match m with
  | .char c | .symbol [c] => .ok c
  | .symbol _ => .error "Invalid collation character"
  | .named _ | .alike _ => .error "Invalid range end"

/-- The ranges that a member stands for. -/
def memberRanges (m : Member) : Except String (List (Char × Char)) :=
  match m with
  | .char c | .symbol [c] | .alike [c] => .ok [(c, c)]
  | .symbol _ | .alike _ => .error "Invalid collation character"
  | .named ranges => .ok ranges

/-- Reads the members of a set, given the first token. -/
def readMembers (s : Spelling) : Nat → Bool → SetToken × Nat → List Char → List (Char × Char) →
    Except String (List (Char × Char) × List Char)
  | 0, _, _, _, _ => .error openSet
  | fuel + 1, isFirst, (t, size), cs, ranges => do
      let (m, rest) ← readMember s isFirst t (cs.drop size)
      let (next, nextSize) := setToken rest
      let goOn (more : List (Char × Char)) (rest : List Char) :
          Except String (List (Char × Char) × List Char) := do
        match setToken rest with
        | (.finish, _) => throw openSet
        | (.close, n) => return (ranges ++ more, rest.drop n)
        | t => readMembers s fuel false t rest (ranges ++ more)
      let mayRange := match m with
        | .char _ | .symbol _ => true
        | _ => false
      match next, mayRange with
      | .finish, true => throw openSet
      | .hyphen, true =>
          let after := rest.drop nextSize
          match setToken after with
          | (.finish, _) => throw openSet
          | (.close, _) => readMembers s fuel false (.char '-', nextSize) rest (ranges ++ (← memberRanges m))
          | (last, lastSize) => do
              let (e, rest) ← readMember s true last (after.drop lastSize)
              let low ← memberChar m
              let high ← memberChar e
              if high < low then throw "Invalid range end"
              goOn [(low, high)] rest
      | _, _ => goOn (← memberRanges m) rest

/-- Reads a set after its opening bracket. -/
def readSet (s : Spelling) (cs : List Char) : Except String (CharSet × List Char) := do
  let first := setToken cs
  let (negated, cs) := match first.1 with
    | .caret => (true, cs.drop 1)
    | _ => (false, cs)
  let first := setToken cs
  match first.1 with
  | .finish => throw "Invalid regular expression"
  | _ => do
      let (ranges, rest) ← readMembers s (cs.length + 1) true first cs []
      let set : CharSet := ⟨negated, ranges⟩
      return (if s.caseless then set.withBothCases else set, rest)

/-- Whether a set of a text looks like the name of a class without its own
    brackets. -/
def hasBareClass (cs : List Char) : Bool :=
  (List.range cs.length).any fun n =>
    let rest := cs.drop n
    ['[', ':'].isPrefixOf rest && !(rest.drop 1).isEmpty && (n = 0 || cs[n - 1]? != some '[')
      && (let inner := (rest.drop 1).takeWhile (· != ']')
          1 < inner.length && inner.getLast? = some ':' && rest.length != inner.length + 1)

/-- What is told about a bare class. -/
def bareClassMessage : String := "character class syntax is [[:space:]], not [:space:]"

/-! ## Patterns. -/

/-- Whether a token repeats what is before it. -/
def Token.repeats : Token → Bool
  | .star | .plus | .question | .openBrace => true
  | _ => false

/-- What a number in braces is. -/
inductive Bound where
  | missing
  | invalid
  | number (n : Nat)

/-- The largest bound of a repetition. -/
def maxBound : Nat := 32767

/-- Reads a number in braces. -/
def readBound (s : Spelling) : Nat → Bound → Reading Bound
  | 0, b => return b
  | fuel + 1, b => do
      fetch s false
      match (← get).token with
      | .finish => return .invalid
      | .closeBrace | .char ',' => return b
      | .char c =>
          if c.isDigit then
            match b with
            | .missing => readBound s fuel (.number (c.toNat - 48))
            | .number n => readBound s fuel (.number (min (maxBound + 1) (n * 10 + (c.toNat - 48))))
            | .invalid => readBound s fuel .invalid
          else readBound s fuel .invalid
      | _ => readBound s fuel .invalid

/-- Reads bounds in braces after a pattern; `none` if they are no bounds. -/
def readBounds (s : Spelling) : Reading (Option (Nat × Option Nat)) := do
  let before ← get
  let size := before.rest.length + 1
  let low ← readBound s size .missing
  let comma := (← get).token == .char ','
  let low ← match low with
    | .missing => if comma then pure (.number 0) else throw "Invalid content of \\\x7b\\\x7d"
    | b => pure b
  let high ← match low with
    | .invalid => pure .invalid
    | _ =>
        match (← get).token with
        | .closeBrace => pure low
        | .char ',' => readBound s size .missing
        | _ => pure .invalid
  match low, high with
  | .number n, .number m => do
      if m < n || !((← get).token == .closeBrace) then throw "Invalid content of \\\x7b\\\x7d"
      if maxBound < m then throw "Regular expression too big"
      return some (n, some m)
  | .number n, .missing => do
      if !((← get).token == .closeBrace) then throw "Invalid content of \\\x7b\\\x7d"
      if maxBound < n then throw "Regular expression too big"
      return some (n, none)
  | _, _ =>
      if s.strict || !s.extended then
        throw (if (← get).token == .finish then "Unmatched \\\x7b" else "Invalid content of \\\x7b\\\x7d")
      else
        set { before with token := .char '\x7b' }
        return none

/-- What is read of a pattern. -/
inductive Level where
  | alternatives (inGroup : Bool)
  | branch (inGroup : Bool)
  /-- The rest of a branch. -/
  | more (inGroup : Bool) (sofar : Regex)
  | part (inGroup : Bool)
  /-- The repetitions after a part. -/
  | repetitions (r : Regex)

/-- Reads a part of a pattern. -/
def read (s : Spelling) : Nat → Level → Reading Regex
  | 0, _ => throw "Regular expression too big"
  | fuel + 1, .alternatives inGroup => do
      let first ← read s fuel (.branch inGroup)
      if (← get).token == .bar then
        fetch s true
        let t := (← get).token
        if t == .bar then return .either first (← read s fuel (.alternatives inGroup))
        else if t == .finish || (inGroup && t == .closeGroup) then return .either first .empty
        else return .either first (← read s fuel (.alternatives inGroup))
      else return first
  | fuel + 1, .branch inGroup => do
      let first ← read s fuel (.part inGroup)
      read s fuel (.more inGroup first)
  | fuel + 1, .more inGroup sofar => do
      let t := (← get).token
      if t == .bar || t == .finish || (inGroup && t == .closeGroup) then return sofar
      else
        let next ← read s fuel (.part inGroup)
        let joined := match sofar, next with
          | .empty, r | r, .empty => r
          | a, b => .both a b
        read s fuel (.more inGroup joined)
  | fuel + 1, .part inGroup => do
      let r ← get
      let literally (c : Char) : Reading Regex := do
        fetch s false
        read s fuel (.repetitions (literal s.caseless c))
      let single (a : Regex) : Reading Regex := do
        fetch s false
        read s fuel (.repetitions a)
      let leading (c : Char) : Reading Regex := do
        if s.extended then
          if s.strict then throw "Invalid preceding regular expression"
          fetch s false
          read s fuel (.part inGroup)
        else if s.strict && c = '\x7b' then throw "Invalid preceding regular expression"
        else literally c
      match r.token with
      | .char c => literally c
      | .any => single .any
      | .set set => single (.oneOf set)
      | .back n => do
          if !r.ended.contains n then throw "Invalid back reference"
          single (.back n s.caseless)
      | .bracket =>
          match readSet s r.rest with
          | .error message => throw message
          | .ok (members, rest) => do
              set { r with rest := rest }
              single (.oneOf members)
      | .openGroup => do
          let n := r.groups + 1
          set { r with groups := n }
          fetch s true
          let inner ← if (← get).token == .closeGroup then pure .empty
            else read s fuel (.alternatives true)
          if (← get).token != .closeGroup then throw "Unmatched ( or \\("
          modify fun r => { r with ended := n :: r.ended }
          single (.group n inner)
      | .anchor a => do
          fetch s true
          return .anchor a
      | .backslash => throw "Trailing backslash"
      | .bar | .finish => return .empty
      | .closeGroup => if s.loose then literally ')' else throw "Unmatched ) or \\)"
      | .closeBrace => literally '\x7d'
      | .star => leading '*'
      | .plus => leading '+'
      | .question => leading '?'
      | .openBrace =>
          if s.strict || !s.extended then leading '\x7b'
          else match ← readBounds s with
            | some _ => single .empty
            | none => literally '\x7b'
  | fuel + 1, .repetitions r => do
      let t := (← get).token
      if !t.repeats then return r
      else
        let bounds ← match t with
          | .openBrace => readBounds s
          | .plus => pure (some (1, none))
          | .question => pure (some (0, some 1))
          | _ => pure (some (0, none))
        match bounds with
        | none => return r
        | some (least, most) => do
            fetch s false
            let next := (← get).token
            if s.strict && !s.extended && (next == .star || next == .openBrace) then
              throw "Invalid preceding regular expression"
            let repeated : Regex := match least, most with
              | 0, some 0 => .empty
              | _, _ => .repeated r least most true
            read s fuel (.repetitions repeated)

end Plain

/-- The pattern of a text. -/
def ofText (s : Spelling) (text : String) : Except String Regex :=
  let reading : Plain.Reading Regex := do
    Plain.fetch s true
    let r ← Plain.read s (16 * text.length + 16) (.alternatives false)
    if (← get).token != .finish then throw "Unmatched ) or \\)"
    return r
  match reading.run ⟨text.toList, .finish, [], 0, []⟩ with
  | .ok r _ => .ok r
  | .error message _ => .error message

end GuardedCnf.Regex
