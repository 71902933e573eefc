import GuardedCnf.Utility.Awk.Pattern
/-! # Programs on records

    A program is a list of rules: a pattern and what to do for the records that
    it is for.  It is read from tokens: operators have strengths, and operands
    that stand side by side are joined. -/

namespace GuardedCnf.Utility.Awk

open Script

/-! ## Programs. -/

/-- An expression. -/
inductive Expr where
  | number (x : Float)
  | string (s : String)
  | regex (s : String)
  | var (name : String)
  | index (name : String) (keys : List Expr)
  | field (e : Expr)
  | assign (op : String) (target value : Expr)
  | cond (c a b : Expr)
  | both (a b : Expr)
  | either (a b : Expr)
  | isIn (keys : List Expr) (name : String)
  | isMatch (negated : Bool) (e r : Expr)
  | binary (op : String) (a b : Expr)
  | concat (a b : Expr)
  | unary (op : String) (e : Expr)
  /-- Changes a variable by one; the value is the one after that if `before`. -/
  | step (amount : Float) (before : Bool) (target : Expr)
  /-- A function that every program has. -/
  | call (name : String) (args : List Expr)
  /-- A function of the program. -/
  | invoke (name : String) (args : List Expr)
  | group (es : List Expr)
  /-- Reads a record from a file or a command. -/
  | getline (target : Option Expr) (isCommand : Bool) (source : Option Expr)

/-- A statement. -/
inductive Stmt where
  | expr (e : Expr)
  | print (args : List Expr) (format : Bool) (into : Option (String × Expr))
  | choice (c : Expr) (yes : Stmt) (no : Option Stmt)
  | loop (c : Option Expr) (body : Stmt) (after : Option Stmt) (first : Bool)
  | forIn (name array : String) (body : Stmt)
  | block (ss : List Stmt)
  | next
  | nextFile
  | exit (e : Option Expr)
  | return (e : Option Expr)
  | break
  | continue
  | delete (name : String) (keys : List Expr)

/-- What a rule is for. -/
inductive Scope where
  | begin
  | finish
  | always
  | when (e : Expr)
  | range (a b : Expr)

/-- A rule; without an action it writes the record. -/
structure Rule where
  scope : Scope
  action : Option Stmt

/-- A function. -/
structure Function where
  name : String
  params : List String
  body : Stmt
  /-- The parameters that are tables. -/
  tables : List String

/-- A program. -/
structure Program where
  rules : List Rule
  functions : List Function

/-! ## Readers. -/

/-- A call of a function with a variable as an argument. -/
structure Passing where
  /-- The function that calls, if there is one. -/
  caller : Option String
  callee : String
  /-- The place of the argument. -/
  place : Nat
  name : String

/-- A program that is being read. -/
structure Reader where
  rest : List Placed
  /-- How many parentheses and braces are open. -/
  parens : Nat
  braces : Nat
  /-- Whether an angle bracket or a bar is a redirection here. -/
  redirects : Bool
  /-- The functions that were defined or called. -/
  functions : List String
  /-- The functions that were called, the last ones first. -/
  called : List String
  /-- Whether variables are tables, for those that were used. -/
  globals : List (String × Bool)
  /-- The function that is being read. -/
  current : Option String
  params : List String
  locals : List (String × Bool)
  passings : List Passing
  /-- How many loops are open. -/
  loops : Nat
  /-- Whether records can be left here. -/
  hasRecord : Bool

/-- A reading of a part of a program. -/
abbrev Reading := EStateM (List Problem) Reader

/-- The next token. -/
def peek : Reading Token := return ((← get).rest.head?.map (·.1)).getD .finish

/-- The line of the next token. -/
def lineHere : Reading Nat := return ((← get).rest.head?.map (·.2)).getD 1

/-- Takes the next token. -/
def skip : Reading Unit := do
  let t ← peek
  modify fun r =>
    let r := { r with rest := r.rest.drop 1 }
    match t with
    | .op "(" => { r with parens := r.parens + 1 }
    | .op ")" => { r with parens := r.parens - 1 }
    | .op "\x7b" => { r with braces := r.braces + 1 }
    | .op "\x7d" => { r with braces := r.braces - 1 }
    | _ => r

/-- Fails with a message. -/
def fail {α : Type} (message : String) : Reading α := do throw [⟨← lineHere, true, message⟩]

/-- Fails at the next token. -/
def unexpected {α : Type} : Reading α := do
  let r ← get
  let t ← peek
  let ends := t == .finish || t == .newline || t == .op ";" || t == .op "\x7d"
  if t == .op ")" && r.parens = 0 then fail "extra ')'"
  else if t == .op "\x7d" && r.braces = 0 then
    let line ← lineHere
    throw [⟨line, true, "extra '\x7d'"⟩, ⟨line, true, "syntax error at or near end of line"⟩]
  else if ends && 0 < r.parens then fail ("missing ) near " ++ t.shown)
  else if t == .finish && 0 < r.braces then fail ("missing \x7d near " ++ t.shown)
  else fail ("syntax error at or near " ++ t.shown)

/-- Takes an operator if it is next. -/
def takeOp (s : String) : Reading Bool := do
  if (← peek) == .op s then
    skip
    return true
  else return false

/-- Takes an operator that has to be next. -/
def expectOp (s : String) : Reading Unit := do
  if !(← takeOp s) then unexpected

/-- Takes a keyword if it is next. -/
def takeKeyword (s : String) : Reading Bool := do
  if (← peek) == .keyword s then
    skip
    return true
  else return false

/-- Takes line ends. -/
def skipLines : Reading Unit := modify fun r =>
  { r with rest := r.rest.dropWhile fun t => t.1 == .newline }

/-- Takes a name that has to be next. -/
def takeName : Reading String := do
  match ← peek with
  | .name n => do
      skip
      return n
  | _ => unexpected

/-- Runs a reading where redirections can be or not. -/
def redirecting {α : Type} (redirects : Bool) (x : Reading α) : Reading α := do
  let before := (← get).redirects
  modify fun r => { r with redirects := redirects }
  let a ← x
  modify fun r => { r with redirects := before }
  return a

/-- The variables that every program has, and whether they are tables. -/
def standardVariables : List (String × Bool) :=
  [("NR", false), ("FNR", false), ("NF", false), ("FS", false), ("OFS", false), ("RS", false),
    ("ORS", false), ("FILENAME", false), ("SUBSEP", false), ("RSTART", false), ("RLENGTH", false),
    ("CONVFMT", false), ("OFMT", false), ("ARGC", false), ("ARGV", true), ("ENVIRON", true)]

/-- Notes whether a variable is a table. -/
def use (name : String) (isTable : Bool) : Reading Unit := do
  let r ← get
  let isLocal := r.params.contains name
  let known := if isLocal then r.locals.lookup name else r.globals.lookup name <|> standardVariables.lookup name
  match known with
  | some b =>
      if b != isTable then
        fail ("illegal reference to " ++ (if isLocal then "local " else "")
          ++ (if b then "array " else "variable ") ++ name)
  | none =>
      set (if isLocal then { r with locals := (name, isTable) :: r.locals }
        else { r with globals := (name, isTable) :: r.globals })

/-- Fails if a text is no pattern. -/
def checkPattern (text : String) : Reading Unit :=
  match Pattern.ofText text with
  | .error e => fail ("regular expression compile failed (" ++ e.message ++ ")\n" ++ text)
  | .ok _ => return ()

/-! ## Expressions. -/

/-- Whether an expression can be assigned to. -/
def Expr.isTarget : Expr → Bool
  | .var _ | .index .. | .field _ => true
  | _ => false

/-- Whether a token begins an operand that is joined to the one before. -/
def Token.beginsOperand : Token → Bool
  | .number .. | .string _ | .regex _ | .name _ | .call _ => true
  | .keyword s => s = "length" || s = "getline"
  | .op s => ["$", "!", "(", "-", "+", "++", "--"].contains s
  | _ => false

/-- The operators that assign. -/
def assignments : List String := ["=", "+=", "-=", "*=", "/=", "%=", "^="]

/-- The strengths of operators that are not arithmetic. -/
def strength? : String → Option Nat
  | "?" => some 2
  | "||" => some 3
  | "&&" => some 4
  | "~" | "!~" => some 6
  | "<" | "<=" | "==" | "!=" | ">" | ">=" => some 7
  | _ => none

/-- The strengths of arithmetic operators. -/
def power? : String → Option Nat
  | "+" | "-" => some 10
  | "*" | "/" | "%" => some 11
  | "^" => some 14
  | _ => none

/-- The strength of signs, above that of a product. -/
def signStrength : Nat := 13

mutual

/-- Reads an expression whose operators are at least so strong. -/
def readExpr : Nat → Nat → Reading Expr
  | 0, _ => fail "expression too deep"
  | fuel + 1, least => do
      let e ← readMore fuel (← readTerm fuel 8)
      let e ← match ← peek with
        | .op o =>
            if assignments.contains o && e.isTarget then do
              match e with
              | .var n => use n false
              | _ => pure ()
              skip
              let value ← readExpr fuel 1
              pure (Expr.assign (String.ofList o.toList.dropLast) e value)
            else pure e
        | _ => pure e
      readOperators fuel least e

/-- Reads the operators after an operand. -/
def readOperators : Nat → Nat → Expr → Reading Expr
  | 0, _, e => return e
  | fuel + 1, least, e => do
      match ← peek with
      | .keyword "in" =>
          if 5 < least then return e
          else do
            skip
            let n ← takeName
            use n true
            readOperators fuel least (.isIn [e] n)
      | .op o =>
          match strength? o with
          | none => return e
          | some n =>
              if n < least || (o = ">" && (← get).redirects) then return e
              else do
                skip
                if o = "&&" || o = "||" then skipLines
                if o = "?" then
                  let a ← readExpr fuel 1
                  expectOp ":"
                  let b ← readExpr fuel 2
                  readOperators fuel least (.cond e a b)
                else
                  let b ← readExpr fuel (n + 1)
                  match b with
                  | .string s => if o = "~" || o = "!~" then checkPattern s
                  | _ => pure ()
                  readOperators fuel least (match o with
                    | "||" => .either e b
                    | "&&" => .both e b
                    | "~" => .isMatch false e b
                    | "!~" => .isMatch true e b
                    | o => .binary o e b)
      | _ => return e

/-- Reads operands that are joined to the one before. -/
def readMore : Nat → Expr → Reading Expr
  | 0, e => return e
  | fuel + 1, e => do
      if (← peek).beginsOperand then readMore fuel (.concat e (← readTerm fuel 8)) else return e

/-- Reads an operand with arithmetic operators that are at least so strong. -/
def readTerm : Nat → Nat → Reading Expr
  | 0, _ => fail "expression too deep"
  | fuel + 1, least => do
      match ← peek with
      | .op o =>
          if ["!", "-", "+"].contains o then do
            skip
            readOps fuel least (.unary o (← readTerm fuel signStrength))
          else if o = "++" || o = "--" then do
            skip
            let target ← readTarget fuel
            readOps fuel least (.step (if o = "++" then 1 else -1) true target)
          else readOps fuel least (← readOperand fuel)
      | _ => readOps fuel least (← readOperand fuel)

/-- Reads the arithmetic operators after an operand. -/
def readOps : Nat → Nat → Expr → Reading Expr
  | 0, _, e => return e
  | fuel + 1, least, e => do
      match ← peek with
      | .op "|" =>
          let isGetline := match (← get).rest.drop 1 with
            | (.keyword "getline", _) :: _ => true
            | _ => false
          if isGetline && least ≤ 13 && !(← get).redirects then do
            skip
            skip
            let target ← readTarget? fuel
            readOps fuel least (.getline target true (some e))
          else return e
      | .op o =>
          match power? o with
          | none => return e
          | some n =>
              if n < least then return e
              else do
                skip
                let b ← readTerm fuel (if o = "^" then n else n + 1)
                readOps fuel least (.binary o e b)
      | _ => return e

/-- Reads what can be assigned to. -/
def readTarget : Nat → Reading Expr
  | 0 => fail "expression too deep"
  | fuel + 1 => do
      match ← peek with
      | .op "(" => do
          skip
          let e ← readTarget fuel
          expectOp ")"
          return e
      | .op "$" => do
          skip
          match ← peek with
          | .name n =>
              if n = "NF" || (← get).functions.contains n then return .field (← readOperand fuel)
              else return .field (← readTarget fuel)
          | _ => return .field (← readTerm fuel 16)
      | .name n => do
          if (← get).functions.contains n then unexpected
          skip
          if ← takeOp "[" then
            use n true
            let keys ← redirecting false (readList fuel)
            expectOp "]"
            return .index n keys
          else
            use n false
            return .var n
      | _ => unexpected

/-- Reads what a record goes to, if that is told. -/
def readTarget? : Nat → Reading (Option Expr)
  | 0 => return none
  | fuel + 1 => do
      match ← peek with
      | .name n => if (← get).functions.contains n then return none else some <$> readTarget fuel
      | .op "$" => some <$> readTarget fuel
      | _ => return none

/-- Reads a step after a variable, if there is one. -/
def readStep (e : Expr) : Reading Expr := do
  if ← takeOp "++" then return .step 1 false e
  else if ← takeOp "--" then return .step (-1) false e
  else return e

/-- Reads an operand. -/
def readOperand : Nat → Reading Expr
  | 0 => fail "expression too deep"
  | fuel + 1 => do
      match ← peek with
      | .number x _ => do
          skip
          return .number x
      | .string s => do
          skip
          return .string s
      | .regex s => do
          checkPattern s
          skip
          return .regex s
      | .op "$" => do
          let e ← readTarget fuel
          readStep e
      | .op "(" => do
          skip
          let es ← redirecting false (readList fuel)
          expectOp ")"
          match es with
          | [e] => if e.isTarget then readStep e else return e
          | es =>
              match ← peek with
              | .keyword "in" => do
                  skip
                  let n ← takeName
                  use n true
                  return .isIn es n
              | .finish | .newline | .op ";" | .op "\x7d" | .op ">" | .op ">>" | .op "|" => return .group es
              | _ => unexpected
      | .op "++" | .op "--" | .op "-" | .op "+" | .op "!" => readTerm fuel signStrength
      | .keyword "getline" => do
          skip
          let target ← readTarget? fuel
          if ← takeOp "<" then return .getline target false (some (← readTerm fuel 14))
          else return .getline target false none
      | .keyword "length" => do
          skip
          if ← takeOp "(" then
            if ← takeOp ")" then return .call "length" []
            else match (← get).rest with
              | (.name n, _) :: (.op ")", _) :: _ => do
                  skip
                  skip
                  return .call "length" [.var n]
              | _ => do
                  let e ← redirecting false (readExpr fuel 1)
                  expectOp ")"
                  return .call "length" [e]
          else return .call "length" []
      | .call f =>
          match builtins.lookup f with
          | some (least, most) => do
              skip
              expectOp "("
              let args ← redirecting false (readArgs fuel f)
              expectOp ")"
              if args.length < least || most < args.length then
                fail ("wrong number of arguments in call to " ++ f)
              return .call f args
          | none => do
              skip
              readInvoke fuel f
      | .name n => do
          if (← get).functions.contains n then
            skip
            readInvoke fuel n
          else
            let e ← readName fuel
            readStep e
      | _ => unexpected

/-- Reads a variable by its name; whether it is a table may be told later. -/
def readName : Nat → Reading Expr
  | 0 => fail "expression too deep"
  | fuel + 1 => do
      let n ← takeName
      if ← takeOp "[" then
        use n true
        let keys ← redirecting false (readList fuel)
        expectOp "]"
        return .index n keys
      else
        use n false
        return .var n

/-- Reads the arguments of a function that every program has. -/
def readArgs : Nat → String → Reading (List Expr)
  | 0, _ => return []
  | fuel + 1, f => do
      match f with
      | "split" => do
          let e ← readExpr fuel 1
          expectOp ","
          let n ← takeName
          use n true
          if ← takeOp "," then return [e, .var n, ← readExpr fuel 1] else return [e, .var n]
      | "sub" | "gsub" => do
          let r ← readExpr fuel 1
          expectOp ","
          let new ← readExpr fuel 1
          if ← takeOp "," then return [r, new, ← readTarget fuel] else return [r, new]
      | _ => if (← peek) == .op ")" then return [] else readList fuel

/-- Reads the arguments of a call of a function of the program. -/
def readInvoke : Nat → String → Reading Expr
  | 0, _ => fail "expression too deep"
  | fuel + 1, f => do
      modify fun r => { r with
        functions := if r.functions.contains f then r.functions else f :: r.functions
        called := if r.called.contains f then r.called else f :: r.called }
      expectOp "("
      let args ← redirecting false do
        if (← peek) == .op ")" then return [] else readPassed fuel f 0
      expectOp ")"
      return .invoke f args

/-- Reads the arguments of a call, of which names may be tables. -/
def readPassed : Nat → String → Nat → Reading (List Expr)
  | 0, _, _ => return []
  | fuel + 1, f, place => do
      skipLines
      let e ← match (← get).rest with
        | (.name n, _) :: (t, _) :: _ =>
            if (t == .op "," || t == .op ")") && !(← get).functions.contains n then do
              skip
              modify fun r => { r with passings := ⟨r.current, f, place, n⟩ :: r.passings }
              pure (Expr.var n)
            else readExpr fuel 1
        | _ => readExpr fuel 1
      if ← takeOp "," then return e :: (← readPassed fuel f (place + 1)) else return [e]

/-- Reads expressions with commas between them. -/
def readList : Nat → Reading (List Expr)
  | 0 => return []
  | fuel + 1 => do
      let e ← readExpr fuel 1
      if ← takeOp "," then
        skipLines
        return e :: (← readList fuel)
      else return [e]

end

/-- How deep expressions and statements may be nested. -/
def depth : Nat := 2000

/-- Reads an expression as a whole. -/
def wholeExpr : Reading Expr := readExpr depth 1

/-! ## Statements. -/

/-- Takes what ends a simple statement. -/
def endStatement : Reading Unit := do
  match ← peek with
  | .newline => skipLines
  | .op ";" => do
      skip
      skipLines
  | .op "\x7d" => if (← get).braces = 0 then unexpected
  | _ => unexpected

/-- Reads the arguments of an output statement. -/
def readOutput (format : Bool) : Reading Stmt := do
  let t ← peek
  let isEnd := t == .newline || t == .op ";" || t == .op "\x7d" || t == .op ">" || t == .op ">>"
    || t == .op "|" || t == .finish
  let args ← match (← get).rest with
    | (.op "(", _) :: (.op ")", _) :: _ => do
        skip
        skip
        pure []
    | _ => if isEnd then pure [] else redirecting true (readList depth)
  let args := match args with
    | [.group es] => es
    | args => args
  if format && args.isEmpty then fail "no arguments in call to printf"
  match ← peek with
  | .op o =>
      if [">", ">>", "|"].contains o then do
        skip
        let target ← redirecting false wholeExpr
        return .print args format (some (o, target))
      else return .print args format none
  | _ => return .print args format none

/-- Reads a statement without its end. -/
def readSimple : Reading Stmt := do
  match ← peek with
  | .keyword "print" => do
      skip
      readOutput false
  | .keyword "printf" => do
      skip
      readOutput true
  | .keyword "delete" => do
      skip
      let n ← takeName
      use n true
      if ← takeOp "[" then
        let keys ← redirecting false (readList depth)
        expectOp "]"
        return .delete n keys
      else return .delete n []
  | _ => return .expr (← wholeExpr)

/-- Runs a reading of the body of a loop. -/
def inLoop {α : Type} (x : Reading α) : Reading α := do
  modify fun r => { r with loops := r.loops + 1 }
  let a ← x
  modify fun r => { r with loops := r.loops - 1 }
  return a

/-- Reads a condition in parentheses. -/
def readCondition : Reading Expr := do
  expectOp "("
  let c ← redirecting false wholeExpr
  expectOp ")"
  return c

/-- Reads a statement with its end. -/
def readStmt : Nat → Reading Stmt
  | 0 => fail "statement too deep"
  | fuel + 1 => do
      let optionalExpr : Reading (Option Expr) := do
        match ← peek with
        | .newline | .op ";" | .op "\x7d" | .finish => return none
        | _ => some <$> wholeExpr
      let body : Reading Stmt := do
        skipLines
        readStmt fuel
      let final (s : Stmt) : Reading Stmt := do
        endStatement
        return s
      match ← peek with
      | .op "\x7b" => do
          skip
          let rec statements : Nat → Array Stmt → Reading (Array Stmt)
            | 0, ss => return ss
            | n + 1, ss => do
                skipLines
                if ← takeOp "\x7d" then
                  skipLines
                  return ss
                else statements n (ss.push (← readStmt fuel))
          return .block (← statements (← get).rest.length #[]).toList
      | .op ";" => do
          skip
          skipLines
          return .block []
      | .keyword "if" => do
          skip
          let c ← readCondition
          let yes ← body
          if ← takeKeyword "else" then return .choice c yes (some (← body)) else return .choice c yes none
      | .keyword "while" => do
          skip
          let c ← readCondition
          return .loop (some c) (← inLoop body) none false
      | .keyword "do" => do
          skip
          let s ← inLoop body
          if !(← takeKeyword "while") then unexpected
          let c ← readCondition
          final (.loop (some c) s none true)
      | .keyword "for" => do
          skip
          expectOp "("
          match (← get).rest with
          | (.name n, _) :: (.keyword "in", _) :: (.name a, _) :: (.op ")", _) :: _ => do
              use n false
              use a true
              for _ in [0, 1, 2, 3] do skip
              return .forIn n a (← inLoop body)
          | _ => do
              let part (stop : String) : Reading (Option Stmt) := do
                if ← takeOp stop then return none
                else
                  let s ← redirecting false readSimple
                  expectOp stop
                  return some s
              let start ← part ";"
              let c ← if ← takeOp ";" then pure none else do
                let e ← redirecting false wholeExpr
                expectOp ";"
                pure (some e)
              let after ← part ")"
              let loop := Stmt.loop c (← inLoop body) after false
              return match start with
                | some s => .block [s, loop]
                | none => loop
      | .keyword "next" | .keyword "nextfile" => do
          let isFile := (← peek) == .keyword "nextfile"
          if !(← get).hasRecord then fail ("improper use of " ++ (← peek).shown)
          skip
          final (if isFile then .nextFile else .next)
      | .keyword "break" => do
          if (← get).loops = 0 then fail "break statement outside of loop"
          skip
          final .break
      | .keyword "continue" => do
          if (← get).loops = 0 then fail "continue statement outside of loop"
          skip
          final .continue
      | .keyword "exit" => do
          skip
          final (.exit (← optionalExpr))
      | .keyword "return" => do
          if (← get).current.isNone then fail "return outside function body"
          skip
          final (.return (← optionalExpr))
      | _ => do final (← readSimple)

/-! ## Rules and functions. -/

/-- Reads the parameters of a function. -/
def readParams : Nat → List String → Reading (List String)
  | 0, sofar => return sofar
  | fuel + 1, sofar => do
      let n ← takeName
      if sofar.contains n then fail (n ++ " is duplicated in argument list")
      let sofar := sofar ++ [n]
      if ← takeOp "," then
        skipLines
        readParams fuel sofar
      else return sofar

/-- Reads a function after its keyword. -/
def readFunction : Reading Function := do
  let n ← match ← peek with
    | .call n | .name n => do
        skip
        pure n
    | _ => unexpected
  expectOp "("
  let params ← if (← peek) == .op ")" then pure [] else readParams depth []
  expectOp ")"
  skipLines
  if (← peek) != .op "\x7b" then unexpected
  modify fun r => { r with
    functions := n :: r.functions
    current := some n
    params := params
    locals := []
    hasRecord := true }
  let body ← readStmt depth
  let r ← get
  set { r with current := none, params := [], locals := [], hasRecord := false }
  return ⟨n, params, body, params.filter fun p => r.locals.lookup p = some true⟩

/-- Reads rules and functions up to the end. -/
def readItems : Nat → Program → Reading Program
  | 0, p => return p
  | fuel + 1, p => do
      skipLines
      let action (hasRecord : Bool) : Reading Stmt := do
        modify fun r => { r with hasRecord := hasRecord }
        let s ← readStmt depth
        if ← takeOp ";" then skipLines
        return s
      let rule (scope : Scope) : Reading Program := do
        let a ← match ← peek with
          | .op "\x7b" => some <$> action true
          | .newline | .finish => pure none
          | .op ";" => do
              skip
              pure none
          | _ => unexpected
        readItems fuel { p with rules := p.rules ++ [⟨scope, a⟩] }
      match ← peek with
      | .finish => return p
      | .keyword "BEGIN" | .keyword "END" => do
          let scope : Scope := if (← peek) == .keyword "BEGIN" then .begin else .finish
          skip
          if (← peek) != .op "\x7b" then unexpected
          let s ← action false
          readItems fuel { p with rules := p.rules ++ [⟨scope, some s⟩] }
      | .keyword "function" => do
          skip
          let f ← readFunction
          if ← takeOp ";" then skipLines
          readItems fuel { p with functions := p.functions ++ [f] }
      | .op "\x7b" => rule .always
      | _ => do
          let a ← wholeExpr
          if ← takeOp "," then
            skipLines
            rule (.range a (← wholeExpr))
          else rule (.when a)

/-- The functions with those parameters as tables that are passed to tables of
    others, found in so many rounds. -/
def withTables (passings : List Passing) : Nat → List Function → List Function
  | 0, fs => fs
  | fuel + 1, fs =>
      let isTable (callee : String) (place : Nat) : Bool :=
        match fs.find? (·.name = callee) with
        | some f => (f.params[place]?).any f.tables.contains
        | none => false
      let more := fs.map fun f =>
        let new := f.params.filter fun p => !f.tables.contains p && passings.any fun passing =>
          passing.caller = some f.name && passing.name = p && isTable passing.callee passing.place
        { f with tables := f.tables ++ new }
      if (more.map (·.tables.length)) = (fs.map (·.tables.length)) then fs else withTables passings fuel more

/-- The program of a text. -/
def ofText (text : String) : Except (List Problem) Program := do
  let ended := text ++ "\n"
  let ts ← (tokens (ended.length + 2) 1 .newline ended.toList #[]).mapError ([·])
  let start : Reader :=
    { rest := ts.toList, parens := 0, braces := 0, redirects := false, functions := [], called := []
      globals := [], current := none, params := [], locals := [], passings := [], loops := 0
      hasRecord := false }
  match (readItems (ts.size + 1) ⟨[], []⟩).run start with
  | .error e _ => throw e
  | .ok p r =>
      let line := (ts.back?.map (·.2)).getD 1
      let missing := r.called.filter fun n => !p.functions.any (·.name = n)
      if !missing.isEmpty then
        throw (missing.map fun n => ⟨line, true, "function " ++ n ++ " never defined"⟩)
      let params := p.functions.foldl (fun n f => n + f.params.length) 1
      return { p with functions := withTables r.passings params p.functions }

end GuardedCnf.Utility.Awk
