import GuardedCnf.Script.Basic
/-! # Arithmetic expressions of scripts

    Numbers have 64 bits and wrap around.  Operators have the usual precedence;
    the operands of conditions are evaluated only as needed, and variables can be
    assigned.  A variable without value counts as zero.  In the extended dialect
    there are powers, steps and sequences too, and numbers of all bases. -/

namespace GuardedCnf.Script

/-- What an expression can assign: a variable or one of its items, with the text of
    its index. -/
structure Place where
  name : String
  index : Option String
deriving DecidableEq

/-- An arithmetic expression. -/
inductive Sum where
  | number (n : Int)
  | variable (place : Place)
  | unary (operator : String) (a : Sum)
  /-- Two operands, and the text from the second one on, for messages. -/
  | binary (operator : String) (a b : Sum) (text : String)
  | choice (condition a b : Sum)
  | assign (place : Place) (operator : String) (a : Sum)
  /-- Adds to a variable; the value is the one before or after that. -/
  | advance (place : Place) (amount : Int) (before : Bool)

namespace Sum

/-! ## Numbers. -/

/-- How many numbers there are: those of 64 bits. -/
def size : Nat := Nat.pow 2 64

/-- The number that an integer stands for. -/
def wrap (n : Int) : Int := n.bmod size

/-- The value of a digit. -/
def digitValue (c : Char) : Nat :=
  if c.isDigit then c.toNat - 48
  else if 'a' ≤ c && c ≤ 'z' then c.toNat - 87
  else if 'A' ≤ c && c ≤ 'Z' then c.toNat - 55
  else 99

/-- The number that digits of a base write. -/
def ofDigits (base : Nat) (cs : List Char) : Nat :=
  cs.foldl (fun n c => base * n + digitValue c) 0

/-- Reads a natural number, where `0x` is a mark of hexadecimal digits and `0` of
    octal ones. -/
def readNatural (cs : List Char) : Nat × List Char :=
  let digits (base : Nat) (cs : List Char) : Nat × List Char :=
    let ds := cs.takeWhile fun c => digitValue c < base
    (ofDigits base ds, cs.drop ds.length)
  match cs with
  | '0' :: x :: d :: rest =>
      if (x = 'x' || x = 'X') && digitValue d < 16 then digits 16 (d :: rest) else digits 8 cs
  | '0' :: _ => digits 8 cs
  | _ => digits 10 cs

/-- The largest number. -/
def largest : Nat := Nat.pow 2 63 - 1

/-- The integer of a text, `none` if it is none: blanks, a sign, and digits.
    Marks of bases count if `marked`, and so does a text without digits. -/
def ofText? (marked : Bool) (text : String) : Option Int :=
  let isBlank (c : Char) : Bool := c = ' ' || ('\t' ≤ c && c ≤ '\r')
  let cs := text.toList.dropWhile isBlank
  let (negative, ds) := match cs with
    | '-' :: ds => (true, ds)
    | '+' :: ds => (false, ds)
    | ds => (false, ds)
  let hasDigits := ds.head?.any Char.isDigit
  if !hasDigits then if marked && cs.isEmpty then some 0 else none
  else
    let (n, rest) :=
      if marked then readNatural ds
      else
        let digits := ds.takeWhile Char.isDigit
        (ofDigits 10 digits, ds.drop digits.length)
    if !(rest.dropWhile isBlank).isEmpty then none
    else if (if negative then largest + 1 else largest) < n then none
    else some (if negative then -(n : Int) else n)

/-- The value of a digit in a base of the extended dialect. -/
def digitIn (base : Nat) (c : Char) : Nat :=
  if c = '@' then 62
  else if c = '_' then 63
  else if 'A' ≤ c && c ≤ 'Z' && 36 < base then c.toNat - 29
  else digitValue c

/-- The number of a text in the extended dialect: octal after `0`, hexadecimal after
    `0x`, and of any base that is written before `#`; `none` if a digit is too
    large. -/
def numberIn? (cs : List Char) : Option Nat :=
  let digits (base : Nat) (cs : List Char) : Option Nat :=
    if cs.all fun c => digitIn base c < base then
      some (cs.foldl (fun n c => base * n + digitIn base c) 0)
    else none
  let base := cs.takeWhile Char.isDigit
  match cs, cs.drop base.length with
  | _, '#' :: ds => if base.length ≤ 2 then digits (ofDigits 10 base) ds else none
  | '0' :: 'x' :: ds, _ | '0' :: 'X' :: ds, _ => digits 16 ds
  | '0' :: ds, _ => digits 8 ds
  | ds, _ => digits 10 ds

/-! ## Tokens. -/

/-- A token of an expression. -/
inductive Token where
  | number (n : Int)
  | name (place : Place)
  | operator (text : String)
  /-- Something else, and what is wrong with it in the extended dialect. -/
  | bad (message : String)
deriving DecidableEq

/-- The operators, longer ones first. -/
def operators : List String :=
  ["<<=", ">>=", "<<", ">>", "<=", ">=", "==", "!=", "&&", "||", "+=", "-=", "*=", "/=", "%=", "&=",
    "^=", "|=", "+", "-", "*", "/", "%", "&", "^", "|", "<", ">", "!", "~", "?", ":", "(", ")", "="]

/-- More operators, in the extended dialect. -/
def moreOperators : List String := ["**", "++", "--", ","]

/-- A token, and the text from it on. -/
structure Located where
  token : Token
  text : String

/-- The characters of an index up to its closing bracket, below open ones. -/
def indexText : Nat → List Char → List Char
  | _, [] => []
  | 0, ']' :: _ => []
  | depth + 1, ']' :: cs => ']' :: indexText depth cs
  | depth, '[' :: cs => '[' :: indexText (depth + 1) cs
  | depth, c :: cs => c :: indexText depth cs

/-- Whether two signs after a token, before these characters, are one operator. -/
def isAdvance (before : Option Token) (cs : List Char) : Bool :=
  match before with
  | some (.name _) => true
  | _ => (cs.dropWhile fun c => c = ' ' || c = '\t').head?.any isNameStart

/-- The tokens of an expression after a first one. -/
def tokens (extended : Bool) : Nat → Option Token → List Char → List Located
  | 0, _, _ => []
  | _, _, [] => []
  | fuel + 1, before, c :: cs =>
      let located (t : Token) (rest : List Char) : List Located :=
        ⟨t, String.ofList (c :: cs)⟩ :: tokens extended fuel (some t) rest
      if c = ' ' || c = '\t' || c = '\n' then tokens extended fuel before cs
      else if c.isDigit then
        if extended then
          let ds := (c :: cs).takeWhile fun d => d.isAlphanum || ['#', '@', '_'].contains d
          match numberIn? ds with
          | some n => located (.number (wrap n)) ((c :: cs).drop ds.length)
          | none => located (.bad "value too great for base") []
        else
          let (n, rest) := readNatural (c :: cs)
          located (.number (min n largest)) rest
      else if isNameStart c then
        let name := (c :: cs).takeWhile isNameChar
        let rest := (c :: cs).drop name.length
        match extended, rest with
        | true, '[' :: inner =>
            let index := indexText 0 inner
            located (.name ⟨String.ofList name, some (String.ofList index)⟩) (inner.drop (index.length + 1))
        | _, _ => located (.name ⟨String.ofList name, none⟩) rest
      else
        let isNext (o : String) : Bool := o.toList.isPrefixOf (c :: cs)
        let isAllowed (o : String) : Bool :=
          (o != "++" && o != "--") || isAdvance before ((c :: cs).drop 2)
        let more := if extended then moreOperators.find? fun o => isNext o && isAllowed o else none
        match more.or (operators.find? isNext) with
        | some o => located (.operator o) ((c :: cs).drop o.length)
        | none => located (.bad (if extended && before.isSome then "syntax error: invalid arithmetic operator"
            else "syntax error: operand expected")) []

/-! ## Reading. -/

/-- How strongly a binary operator binds. -/
def strength (operator : String) : Option Nat :=
  match operator with
  | "||" => some 1
  | "&&" => some 2
  | "|" => some 3
  | "^" => some 4
  | "&" => some 5
  | "==" | "!=" => some 6
  | "<" | ">" | "<=" | ">=" => some 7
  | "<<" | ">>" => some 8
  | "+" | "-" => some 9
  | "*" | "/" | "%" => some 10
  | "**" => some 11
  | _ => none

/-- The operators that assign, and the ones that they combine with. -/
def assignments : List (String × String) :=
  [("=", ""), ("+=", "+"), ("-=", "-"), ("*=", "*"), ("/=", "/"), ("%=", "%"), ("&=", "&"),
    ("^=", "^"), ("|=", "|"), ("<<=", "<<"), (">>=", ">>")]

/-- Why an expression cannot be read, in the words of the two dialects, and the text
    where that is noticed. -/
structure Misreading where
  portable : String
  extended : String
  text : String

/-- An expression that is being read. -/
structure Reader where
  tokens : List Located
  /-- The text from the last token on. -/
  last : String

/-- A reading of a part of an expression. -/
abbrev Reading := EStateM Misreading Reader

/-- Fails at the next token, or at the last one if there is none. -/
def fail {α : Type} (portable extended : String) : Reading α := do
  let r ← get
  match r.tokens with
  | ⟨.bad message, text⟩ :: _ => throw ⟨portable, message, text⟩
  | t :: _ => throw ⟨portable, extended, t.text⟩
  | [] => throw ⟨portable, extended, r.last⟩

/-- The next token. -/
def next? : Reading (Option Token) := return ((← get).tokens.head?).map (·.token)

/-- Takes the next token. -/
def skip : Reading Unit := modify fun r =>
  match r.tokens with
  | t :: rest => ⟨rest, t.text⟩
  | [] => r

/-- Takes an operator if it is next. -/
def take (operator : String) : Reading Bool := do
  if (← next?) = some (.operator operator) then do
    skip
    return true
  else return false

/-- What an expression is read as. -/
inductive Level where
  | sequence
  /-- The rest of a sequence. -/
  | following (first : Sum)
  | assignment
  | choice
  /-- Operators that bind at least this strongly. -/
  | binary (strength : Nat)
  /-- The same, after a first operand. -/
  | after (strength : Nat) (first : Sum)
  | unary

/-- What two signs add. -/
def advances : List (String × Int) := [("++", 1), ("--", -1)]

/-- Reads an expression. -/
def read : Nat → Level → Reading Sum
  | 0, _ => fail "expecting primary" "syntax error: operand expected"
  | fuel + 1, .sequence => do read fuel (.following (← read fuel .assignment))
  | fuel + 1, .following first => do
      if ← take "," then read fuel (.following (.binary "," first (← read fuel .assignment) ""))
      else return first
  | fuel + 1, .assignment => do
      let ts : List Token := (← get).tokens.map (·.token)
      match ts with
      | .name place :: .operator o :: _ =>
          match assignments.lookup o with
          | some operator => do
              skip
              skip
              return .assign place operator (← read fuel .assignment)
          | none => read fuel .choice
      | _ => read fuel .choice
  | fuel + 1, .choice => do
      let condition ← read fuel (.binary 1)
      if ← take "?" then
        let a ← read fuel .assignment
        if !(← take ":") then fail "expecting ':'" "\x60:' expected for conditional expression"
        return .choice condition a (← read fuel .choice)
      else return condition
  | fuel + 1, .binary strength => do read fuel (.after strength (← read fuel .unary))
  | fuel + 1, .after least first => do
      match ← next? with
      | some (.operator o) =>
          match strength o with
          | some s =>
              if s < least then return first
              else do
                skip
                let text := ((← get).tokens.head?.map (·.text)).getD ""
                let second ← read fuel (.binary (if o = "**" then s else s + 1))
                read fuel (.after least (.binary o first second text))
          | none => return first
      | _ => return first
  | fuel + 1, .unary => do
      match ← next? with
      | some (.operator "(") => do
          skip
          let inner ← read fuel .sequence
          if !(← take ")") then fail "expecting ')'" "missing \x60)'"
          return inner
      | some (.operator o) =>
          if ["!", "~", "-", "+"].contains o then do
            skip
            return .unary o (← read fuel .unary)
          else match advances.lookup o with
            | some amount => do
                skip
                match ← next? with
                | some (.name place) => do
                    skip
                    return .advance place amount false
                | _ => fail "expecting primary" "syntax error: operand expected"
            | none => fail "expecting primary" "syntax error: operand expected"
      | some (.number n) => do
          skip
          return .number n
      | some (.name place) => do
          skip
          match ← next? with
          | some (.operator o) =>
              match advances.lookup o with
              | some amount => do
                  skip
                  return .advance place amount true
              | none => return .variable place
          | _ => return .variable place
      | _ => fail "expecting primary" "syntax error: operand expected"

/-- Reads a whole expression. -/
def readAll (fuel : Nat) : Reading Sum := do
  let e ← read fuel .sequence
  match ← next? with
  | none => return e
  | some (.operator o) =>
      fail "expecting EOF" (if (assignments.lookup o).isSome then "attempted assignment to non-variable"
        else "syntax error in expression")
  | some _ => fail "expecting EOF" "syntax error in expression"

/-- The expression of a text. -/
def ofText (extended : Bool) (text : String) : Except Misreading Sum :=
  let cs := text.toList
  let ts := tokens extended (cs.length + 1) none cs
  if ts.isEmpty then .ok (.number 0)
  else match (readAll (20 * ts.length + 20)).run ⟨ts, ""⟩ with
    | .ok e _ => .ok e
    | .error e _ => .error e

/-! ## Values. -/

/-- Why an expression has no value. -/
inductive Failure where
  /-- A division by zero, in an expression, and the text of the divisor. -/
  | divisionByZero (expression text : String)
  /-- A variable is no number. -/
  | noNumber (text : String)
  /-- A variable has no value although it must have one. -/
  | unset (name : String)
  /-- The value of a variable is an expression that cannot be read. -/
  | misread (expression : String) (e : Misreading)
  | negativePower (expression text : String)

/-- An evaluation, with the places that were assigned, the last one first. -/
abbrev Evaluation := StateT (List (Place × Int)) (Except Failure)

/-- The bits of a number as a natural number. -/
def bits (n : Int) : Nat := (n.emod size).toNat

/-- A power, of which the exponent has at most so many bits. -/
def power (a : Int) : Nat → Nat → Int
  | 0, _ => 1
  | bits + 1, n =>
      if n = 0 then 1
      else
        let half := power a bits (n / 2)
        let square := wrap (half * half)
        if n % 2 = 1 then wrap (square * a) else square

/-- The value of an operator in an expression, with the text of the second operand. -/
def apply (expression operator : String) (a b : Int) (text : String) : Except Failure Int :=
  let truth (b : Bool) : Except Failure Int := .ok (if b then 1 else 0)
  match operator with
  | "|" => .ok (wrap (bits a ||| bits b))
  | "^" => .ok (wrap (bits a ^^^ bits b))
  | "&" => .ok (wrap (bits a &&& bits b))
  | "==" => truth (a = b)
  | "!=" => truth (a ≠ b)
  | "<" => truth (a < b)
  | ">" => truth (b < a)
  | "<=" => truth (a ≤ b)
  | ">=" => truth (b ≤ a)
  | "<<" => .ok (wrap (a * (Nat.pow 2 (bits b % 64) : Nat)))
  | ">>" => .ok (a / (Nat.pow 2 (bits b % 64) : Nat))
  | "+" => .ok (wrap (a + b))
  | "-" => .ok (wrap (a - b))
  | "*" => .ok (wrap (a * b))
  | "**" => if b < 0 then .error (.negativePower expression text)
      else .ok (power a 64 b.toNat)
  | "/" => if b = 0 then .error (.divisionByZero expression text) else .ok (wrap (a.tdiv b))
  | "%" => if b = 0 then .error (.divisionByZero expression text) else .ok (a.tmod b)
  | _ => .ok b

/-- The value of an expression that is written as told, given the values of places
    and which place is meant by one that is assigned. -/
def eval (expression : String) (value : Place → Evaluation Int) (resolve : Place → Evaluation Place) :
    Sum → Evaluation Int
  | .number n => return n
  | .variable place => value place
  | .unary operator a => do
      let n ← eval expression value resolve a
      return match operator with
        | "!" => if n = 0 then 1 else 0
        | "~" => -n - 1
        | "-" => wrap (-n)
        | _ => n
  | .binary "||" a b _ => do
      if (← eval expression value resolve a) ≠ 0 then return 1
      return if (← eval expression value resolve b) ≠ 0 then 1 else 0
  | .binary "&&" a b _ => do
      if (← eval expression value resolve a) = 0 then return 0
      return if (← eval expression value resolve b) ≠ 0 then 1 else 0
  | .binary operator a b text => do
      let n ← eval expression value resolve a
      let m ← eval expression value resolve b
      apply expression operator n m text
  | .choice condition a b => do
      if (← eval expression value resolve condition) ≠ 0 then eval expression value resolve a
      else eval expression value resolve b
  | .assign place operator a => do
      let place ← resolve place
      let n ← eval expression value resolve a
      let n ← if operator = "" then pure n else do apply expression operator (← value place) n ""
      modify ((place, n) :: ·)
      return n
  | .advance place amount before => do
      let place ← resolve place
      let n ← value place
      let m := wrap (n + amount)
      modify ((place, m) :: ·)
      return if before then n else m

/-- What expressions know of variables. -/
structure Surroundings where
  extended : Bool
  /-- The text of a place, if it has a value. -/
  textOf : Place → Option String
  /-- Whether the items of a variable have texts as keys. -/
  isKeyed : String → Bool
  /-- Whether places without value are errors. -/
  strict : Bool

/-- The value of the text of an expression; `fuel` bounds how often the value of a
    variable leads to another one. -/
def evalText (s : Surroundings) : Nat → String → Evaluation Int
  | 0, text => throw (.noNumber text)
  | fuel + 1, text => do
      let resolve (place : Place) : Evaluation Place := do
        match place.index with
        | some index =>
            if s.isKeyed place.name then return place
            else return { place with index := some (toString (← evalText s fuel index)) }
        | none => return place
      let value (place : Place) : Evaluation Int := do
        let place ← if s.extended then resolve place else pure place
        match (← get).lookup place with
        | some n => return n
        | none =>
            match s.extended, s.textOf place with
            | true, none => if s.strict then throw (.unset place.name) else return 0
            | true, some text => evalText s fuel text
            | false, text =>
                match ofText? true (text.getD "") with
                | some n => return n
                | none => throw (.noNumber (text.getD ""))
      match ofText s.extended text with
      | .error e => throw (.misread text e)
      | .ok e => eval text value resolve e

/-- How often the value of a variable may lead to another one. -/
def maxDepth : Nat := 100

/-- The value of the text of an expression, and the places that were assigned, the
    last one first. -/
def valueOf (s : Surroundings) (text : String) : Except Failure (Int × List (Place × Int)) :=
  (evalText s maxDepth text).run []

end Sum

end GuardedCnf.Script
