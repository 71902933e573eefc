import GuardedCnf.Utility.Regex
/-! # The rich spelling of patterns

    Besides groups, sets and repetitions this spelling has lazy and possessive
    repetitions, conditions on what is before and after a place, options within
    a pattern and names for groups. -/

namespace GuardedCnf.Regex.Rich

/-- The options that a part of a pattern is read with. -/
structure Options where
  caseless : Bool
  multiline : Bool
  /-- Whether a point matches line ends. -/
  dotAll : Bool
  /-- Whether blanks and comments are skipped. -/
  spaced : Bool

/-- A pattern that is being read. -/
structure Reader where
  rest : List Char
  options : Options
  groups : Nat
  names : List (String × Nat)
  /-- The groups that are referred to. -/
  wanted : List Nat

/-- A reading of a part of a pattern. -/
abbrev Reading := EStateM String Reader

/-- The next character. -/
def peek : Reading (Option Char) := return (← get).rest.head?

/-- Takes so many characters. -/
def skip (n : Nat) : Reading Unit := modify fun r => { r with rest := r.rest.drop n }

/-- Takes a text if it is next. -/
def take (text : String) : Reading Bool := do
  if text.toList.isPrefixOf (← get).rest then
    skip text.length
    return true
  else return false

/-- Takes the characters of a class. -/
def takeWhile (p : Char → Bool) : Reading String := modifyGet fun r =>
  let cs := r.rest.takeWhile p
  (String.ofList cs, { r with rest := r.rest.drop cs.length })

/-- The value of digits. -/
def valueOf (base : Nat) (digits : String) : Nat :=
  digits.toList.foldl (fun n c =>
    base * n + (if c.isDigit then c.toNat - 48 else c.toLower.toNat - 87)) 0

/-- Whether a character is an octal digit. -/
def isOctal (c : Char) : Bool := '0' ≤ c && c ≤ '7'

/-- Whether a character is a hexadecimal digit. -/
def isHex (c : Char) : Bool := c.isDigit || ('a' ≤ c.toLower && c.toLower ≤ 'f')

/-- The characters that are not in a set. -/
def outside (s : CharSet) : CharSet := { s with negated := !s.negated }

/-- The set with a property. -/
def propertySet? (name : String) : Option CharSet :=
  let named (names : List String) : Option CharSet := some ⟨false, names.flatMap CharSet.classRanges⟩
  match name with
  | "L" | "L&" => named ["alpha"]
  | "Lu" => named ["upper"]
  | "Ll" => named ["lower"]
  | "N" | "Nd" => named ["digit"]
  | "Xan" => named ["alnum"]
  | "Xwd" => some (wordSet false)
  | "Xsp" | "Xps" => named ["space"]
  | "P" => some ⟨false, "!\"#%&'()*,-./:;?@[\\]_\x7b\x7d".toList.map fun c => (c, c)⟩
  | "S" => some ⟨false, "$+<=>^\x60|~".toList.map fun c => (c, c)⟩
  | "Z" | "Zs" => some ⟨false, [(' ', ' '), ('\xa0', '\xa0')]⟩
  | "Cc" | "C" => named ["cntrl"]
  | "Any" => some ⟨true, []⟩
  | _ => none

/-- The set that a letter after a backslash stands for. -/
def letterSet? (c : Char) : Option CharSet :=
  let ofName (name : String) : CharSet := ⟨false, CharSet.classRanges name⟩
  let horizontal : CharSet := ⟨false, [('\t', '\t'), (' ', ' '), ('\xa0', '\xa0')]⟩
  let vertical : CharSet := ⟨false, [('\n', '\r'), ('\x85', '\x85')]⟩
  match c with
  | 'd' => some (ofName "digit")
  | 'D' => some (outside (ofName "digit"))
  | 'w' => some (wordSet false)
  | 'W' => some (wordSet true)
  | 's' => some (spaceSet false)
  | 'S' => some (spaceSet true)
  | 'h' => some horizontal
  | 'H' => some (outside horizontal)
  | 'v' => some vertical
  | 'V' => some (outside vertical)
  | 'N' => some ⟨true, [('\n', '\n')]⟩
  | _ => none

/-- Reads the character after a backslash whose letter was taken, if the letter
    stands for one character. -/
def readCode (c : Char) : Reading (Option Char) := do
  let inBraces (base : Nat) (isDigit : Char → Bool) : Reading (Option Char) := do
    let digits ← takeWhile isDigit
    if !(← take "\x7d") || digits.isEmpty then throw "missing terminating brace"
    return some (Char.ofNat (valueOf base digits))
  match c with
  | 'a' => return some (Char.ofNat 7)
  | 'e' => return some (Char.ofNat 27)
  | 'f' => return some (Char.ofNat 12)
  | 'n' => return some '\n'
  | 'r' => return some '\r'
  | 't' => return some '\t'
  | 'x' =>
      if ← take "\x7b" then inBraces 16 isHex
      else
        let digits := (← get).rest.take 2 |>.takeWhile isHex
        skip digits.length
        return some (Char.ofNat (valueOf 16 (String.ofList digits)))
  | 'o' => if ← take "\x7b" then inBraces 8 isOctal else throw "missing opening brace after \\o"
  | '0' => do
      let digits := (← get).rest.take 2 |>.takeWhile isOctal
      skip digits.length
      return some (Char.ofNat (valueOf 8 (String.ofList digits)))
  | 'c' =>
      match ← peek with
      | some d => do
          skip 1
          return some (Char.ofNat (d.toUpper.toNat ^^^ 64))
      | none => throw "\\c at end of pattern"
  | _ => return if c.isAlpha || c.isDigit then none else some c

/-- Reads the name of a property after its letter. -/
def readProperty (negated : Bool) : Reading CharSet := do
  let (name, negated) ←
    if ← take "\x7b" then
      let flipped ← take "^"
      let name ← takeWhile (· != '\x7d')
      skip 1
      pure (name, negated != flipped)
    else do
      let c := (← peek).getD ' '
      skip 1
      pure (String.singleton c, negated)
  match propertySet? name with
  | some s => return if negated then outside s else s
  | none => throw "unknown property after \\P or \\p"

/-! ## Sets. -/

/-- A member of a set. -/
inductive Member where
  | char (c : Char)
  | set (s : CharSet)

/-- Reads a member of a set. -/
def readMember (c : Char) : Reading Member := do
  match c with
  | '\\' =>
      match ← peek with
      | none => throw "\\ at end of pattern"
      | some d => do
          skip 1
          if d = 'b' then return .char (Char.ofNat 8)
          else if d = 'p' || d = 'P' then return .set (← readProperty (d = 'P'))
          else match letterSet? d with
            | some s => return .set s
            | none =>
                if isOctal d && d != '0' then
                  let digits := (← get).rest.take 2 |>.takeWhile isOctal
                  skip digits.length
                  return .char (Char.ofNat (valueOf 8 (String.ofList (d :: digits))))
                else match ← readCode d with
                  | some e => return .char e
                  | none =>
                      if d.isAlpha then throw "unrecognized character follows \\" else return .char d
  | '[' => do
      let rest := (← get).rest
      match rest with
      | ':' :: cs =>
          let negated := cs.head? = some '^'
          let cs := if negated then cs.drop 1 else cs
          let name := cs.takeWhile Char.isAlpha
          match cs.drop name.length with
          | ':' :: ']' :: after => do
              modify fun r => { r with rest := after }
              let name := String.ofList name
              let ranges := if name = "word" then (wordSet false).ranges else CharSet.classRanges name
              if ranges.isEmpty then throw "unknown POSIX class name"
              return .set ⟨negated, ranges⟩
          | _ => return .char '['
      | _ => return .char '['
  | c => return .char c

/-- The characters of a set that may be negated, as ranges. -/
def rangesOf (s : CharSet) : List (Char × Char) :=
  if s.negated then
    ((List.range 256).map Char.ofNat).filterMap fun c => if s.contains c then some (c, c) else none
  else s.ranges

/-- Reads the members of a set up to its end. -/
def readMembers : Nat → Bool → List (Char × Char) → Reading (List (Char × Char))
  | 0, _, _ => throw "missing terminating ] for character class"
  | fuel + 1, isFirst, ranges => do
      match ← peek with
      | none => throw "missing terminating ] for character class"
      | some c => do
          skip 1
          if c = ']' && !isFirst then return ranges
          else if c = '\\' && (← take "E") then readMembers fuel isFirst ranges
          else
            match ← readMember c with
            | .set s => readMembers fuel false (ranges ++ rangesOf s)
            | .char low =>
                match (← get).rest with
                | '-' :: d :: _ =>
                    if d = ']' then readMembers fuel false (ranges ++ [(low, low)])
                    else do
                      skip 2
                      match ← readMember d with
                      | .char high => do
                          if high < low then throw "range out of order in character class"
                          readMembers fuel false (ranges ++ [(low, high)])
                      | .set s => readMembers fuel false (ranges ++ [(low, low), ('-', '-')] ++ rangesOf s)
                | _ => readMembers fuel false (ranges ++ [(low, low)])

/-- Reads a set after its opening bracket. -/
def readSet : Reading CharSet := do
  let negated ← take "^"
  let ranges ← readMembers ((← get).rest.length + 1) true []
  let s : CharSet := ⟨negated, ranges⟩
  return if (← get).options.caseless then s.withBothCases else s

/-! ## Repetitions. -/

/-- Bounds in braces; `none` if the text is none. -/
def bounds? (cs : List Char) : Option (Nat × Option Nat × List Char) :=
  let low := cs.takeWhile Char.isDigit
  match low, cs.drop low.length with
  | [], _ => none
  | _, '\x7d' :: rest => some (valueOf 10 (String.ofList low), some (valueOf 10 (String.ofList low)), rest)
  | _, ',' :: more =>
      let high := more.takeWhile Char.isDigit
      match more.drop high.length with
      | '\x7d' :: rest =>
          some (valueOf 10 (String.ofList low),
            if high.isEmpty then none else some (valueOf 10 (String.ofList high)), rest)
      | _ => none
  | _, _ => none

/-- Takes a repetition if one is next. -/
def takeBounds : Reading (Option (Nat × Option Nat)) := do
  match (← get).rest with
  | '*' :: _ => do
      skip 1
      return some (0, none)
  | '+' :: _ => do
      skip 1
      return some (1, none)
  | '?' :: _ => do
      skip 1
      return some (0, some 1)
  | '\x7b' :: cs =>
      match bounds? cs with
      | some (least, most, rest) => do
          if 65535 < least || most.any (65535 < ·) then throw "number too big in \x7b\x7d quantifier"
          if most.any (· < least) then throw "numbers out of order in \x7b\x7d quantifier"
          modify fun r => { r with rest := rest }
          return some (least, most)
      | none => return none
  | _ => return none

/-- Takes blanks and comments if they are skipped. -/
def skipBlanks : Nat → Reading Unit
  | 0 => return ()
  | fuel + 1 => do
      if (← take "(?#") then
        discard <| takeWhile (· != ')')
        if !(← take ")") then throw "missing ) after (?# comment"
        skipBlanks fuel
      else if (← get).options.spaced then
        match ← peek with
        | some '#' => do
            discard <| takeWhile (· != '\n')
            skipBlanks fuel
        | some c =>
            if (spaceSet false).contains c then
              skip 1
              skipBlanks fuel
        | none => return ()

/-! ## Patterns. -/

/-- Reads the letters of options. -/
def readOptions : Nat → Bool → Options → Reading Options
  | 0, _, o => return o
  | fuel + 1, on, o => do
      match ← peek with
      | some 'i' => do
          skip 1
          readOptions fuel on { o with caseless := on }
      | some 'm' => do
          skip 1
          readOptions fuel on { o with multiline := on }
      | some 's' => do
          skip 1
          readOptions fuel on { o with dotAll := on }
      | some 'x' => do
          skip 1
          readOptions fuel on { o with spaced := on }
      | some '-' => do
          skip 1
          readOptions fuel false o
      | some ')' | some ':' => return o
      | _ => throw "unrecognized character after (? or (?-"

/-- Reads a name up to its end. -/
def readName (close : String) : Reading String := do
  let name ← takeWhile fun c => c.isAlphanum || c = '_'
  if !(← take close) || name.isEmpty then throw "syntax error in subpattern name (missing terminator?)"
  return name

/-- The group with a name. -/
def groupNamed (name : String) : Reading Nat := do
  match (← get).names.lookup name with
  | some n => return n
  | none => throw "reference to non-existent subpattern"

/-- What is read of a pattern. -/
inductive Level where
  | alternatives
  | branch (sofar : Regex)
  | part
  | group

/-- Whether the matches of a pattern have one size, and which. -/
def size? : Regex → Option Nat
  | .empty | .anchor _ | .look .. | .keep => some 0
  | .char _ | .any | .oneOf _ => some 1
  | .group _ r | .atomic r => size? r
  | .both a b => return (← size? a) + (← size? b)
  | .either a b =>
      match size? a, size? b with
      | some n, some m => if n = m then some n else none
      | _, _ => none
  | .repeated r least most _ =>
      if most = some least then (size? r).map (· * least) else none
  | .back .. => none

/-- Whether a look behind has alternatives of one size each. -/
def isBounded : Regex → Bool
  | .either a b => isBounded a && isBounded b
  | r => (size? r).isSome

/-- Adds a pattern after another one. -/
def joined (a b : Regex) : Regex :=
  match a, b with
  | .empty, r | r, .empty => r
  | a, b => .both a b

mutual

/-- Reads a part of a pattern. -/
def read : Nat → Level → Reading Regex
  | 0, _ => throw "regular expression is too large"
  | fuel + 1, .alternatives => do
      let before := (← get).options
      let first ← read fuel (.branch .empty)
      if ← take "|" then
        let others ← read fuel .alternatives
        modify fun r => { r with options := before }
        return .either first others
      else
        modify fun r => { r with options := before }
        return first
  | fuel + 1, .branch sofar => do
      skipBlanks fuel
      match ← peek with
      | none | some '|' | some ')' => return sofar
      | _ => do
          let part ← read fuel .part
          read fuel (.branch (joined sofar part))
  | fuel + 1, .part => do
      let o := (← get).options
      let c := (← peek).getD ' '
      match ← takeBounds with
      | some _ => throw "quantifier does not follow a repeatable item"
      | none => do
          skip 1
          match c with
          | '(' => read fuel .group
          | '[' => repeated fuel (.oneOf (← readSet))
          | '.' => repeated fuel (if o.dotAll then .any else .oneOf ⟨true, [('\n', '\n')]⟩)
          | '^' => repeated fuel (.anchor (if o.multiline then .lineStart else .textStart))
          | '$' => repeated fuel (.anchor (if o.multiline then .lineEnd else .lastEnd))
          | '\\' => escaped fuel
          | c => repeated fuel (literal o.caseless c)
  | fuel + 1, .group => do
      let finish (f : Regex → Regex) : Reading Regex := do
        let before := (← get).options
        let inner ← read fuel .alternatives
        modify fun r => { r with options := before }
        if !(← take ")") then throw "missing closing parenthesis"
        repeated fuel (f inner)
      let named (close : String) : Reading Regex := do
        let name ← readName close
        let n := (← get).groups + 1
        if (← get).names.any (·.1 = name) then
          throw "two named subpatterns have the same name (PCRE2_DUPNAMES not set)"
        modify fun r => { r with groups := n, names := (name, n) :: r.names }
        finish (.group n)
      if ← take "?:" then finish id
      else if ← take "?=" then finish (.look true false)
      else if ← take "?!" then finish (.look true true)
      else if ← take "?<=" then finish (.look false false)
      else if ← take "?<!" then finish (.look false true)
      else if ← take "?>" then finish .atomic
      else if ← take "?P<" then named ">"
      else if ← take "?P=" then do
        let n ← groupNamed (← readName ")")
        repeated fuel (.back n (← get).options.caseless)
      else if ← take "?<" then named ">"
      else if ← take "?'" then named "'"
      else if ← take "?" then do
        let options ← readOptions fuel true (← get).options
        if ← take ")" then
          modify fun r => { r with options := options }
          return .empty
        else do
          skip 1
          let before := (← get).options
          modify fun r => { r with options := options }
          let inner ← read fuel .alternatives
          modify fun r => { r with options := before }
          if !(← take ")") then throw "missing closing parenthesis"
          repeated fuel inner
      else do
        let n := (← get).groups + 1
        modify fun r => { r with groups := n }
        finish (.group n)

/-- Reads what comes after a backslash. -/
def escaped : Nat → Reading Regex
  | 0 => throw "regular expression is too large"
  | fuel + 1 => do
      let o := (← get).options
      let back (n : Nat) : Reading Regex := do
        modify fun r => { r with wanted := n :: r.wanted }
        repeated fuel (.back n o.caseless)
      match ← peek with
      | none => throw "\\ at end of pattern"
      | some c => do
          skip 1
          match c with
          | 'A' | 'G' => repeated fuel (.anchor .textStart)
          | 'z' => repeated fuel (.anchor .textEnd)
          | 'Z' => repeated fuel (.anchor .lastEnd)
          | 'b' => repeated fuel (.anchor .wordEdge)
          | 'B' => repeated fuel (.anchor .noWordEdge)
          | 'K' => return .keep
          | 'E' => return .empty
          | 'R' =>
              let pair : Regex := .both (.char '\r') (.char '\n')
              let single : Regex := .oneOf ⟨false, [('\n', '\r'), ('\x85', '\x85')]⟩
              repeated fuel (.atomic (.either pair single))
          | 'X' => repeated fuel .any
          | 'Q' => do
              let rest := (← get).rest
              let size := (List.range rest.length).find? fun n => ['\\', 'E'].isPrefixOf (rest.drop n)
              let quoted := rest.take (size.getD rest.length)
              skip (quoted.length + (if size.isSome then 2 else 0))
              match quoted.reverse with
              | [] => return .empty
              | last :: before => do
                  let start := exactly o.caseless (String.ofList before.reverse)
                  return joined start (← repeated fuel (literal o.caseless last))
          | 'p' | 'P' => repeated fuel (.oneOf (← readProperty (c = 'P')))
          | 'k' => do
              let start := (← peek).getD ' '
              let close := if start = '\x7b' then "\x7d" else if start = '<' then ">" else "'"
              skip 1
              back (← groupNamed (← readName close))
          | 'g' => do
              let braced ← take "\x7b"
              let relative ← take "-"
              let digits ← takeWhile Char.isDigit
              if digits.isEmpty then back (← groupNamed (← readName "\x7d"))
              else
                if braced then skip 1
                let n := valueOf 10 digits
                let known := (← get).groups
                back (if relative then known + 1 - n else n)
          | 'N' => do
              if ((← get).rest.take 3) = ['\x7b', 'U', '+'] then
                throw "\\N\x7bU+dddd\x7d is supported only in Unicode (UTF) mode"
              else repeated fuel (.oneOf ⟨true, [('\n', '\n')]⟩)
          | c =>
              if '1' ≤ c && c ≤ '9' then do
                let digits := String.ofList (c :: (← get).rest.takeWhile Char.isDigit)
                let n := valueOf 10 digits
                let octal := (c :: ((← get).rest.take 2)).takeWhile isOctal
                if n < 10 || n ≤ (← get).groups then
                  skip (digits.length - 1)
                  back n
                else if octal.isEmpty then throw "reference to non-existent subpattern"
                else
                  skip (octal.length - 1)
                  repeated fuel (literal o.caseless (Char.ofNat (valueOf 8 (String.ofList octal))))
              else match letterSet? c with
                | some s => repeated fuel (.oneOf s)
                | none =>
                    match ← readCode c with
                    | some d => repeated fuel (literal o.caseless d)
                    | none => throw "unrecognized character follows \\"

/-- Reads the repetitions of a pattern. -/
def repeated : Nat → Regex → Reading Regex
  | 0, r => return r
  | fuel + 1, r => do
      match r with
      | .look false _ inner => if !isBounded inner then throw "lookbehind assertion is not fixed length"
      | _ => pure ()
      skipBlanks fuel
      match ← takeBounds with
      | none => return r
      | some (least, most) => do
          let made : Regex ←
            if ← take "?" then pure (.repeated r least most false)
            else if ← take "+" then pure (.atomic (.repeated r least most true))
            else pure (.repeated r least most true)
          match ← takeBounds with
          | some _ => throw "quantifier does not follow a repeatable item"
          | none => return made

end

end Rich

/-- The pattern of a text in the rich spelling. -/
def ofRichText (caseless : Bool) (text : String) : Except String Regex :=
  let reading : Rich.Reading Regex := do
    let r ← Rich.read (16 * text.length + 16) .alternatives
    let s ← get
    if !s.rest.isEmpty then throw "unmatched closing parenthesis"
    if s.wanted.any (s.groups < ·) then throw "reference to non-existent subpattern"
    return r
  match reading.run ⟨text.toList, ⟨caseless, false, false, false⟩, 0, [], []⟩ with
  | .ok r _ => .ok r
  | .error message _ => .error message

end GuardedCnf.Regex
