import GuardedCnf.Script.Printing
/-! # Tokens of programs on records

    A slash divides after an operand, and begins a pattern elsewhere. -/

namespace GuardedCnf.Utility.Awk

open Script

/-- A token. -/
inductive Token where
  | finish
  | newline
  /-- A number, and how it is written. -/
  | number (x : Float) (text : String)
  | string (s : String)
  | regex (s : String)
  | name (s : String)
  /-- A name with a parenthesis directly after it. -/
  | call (s : String)
  | keyword (s : String)
  | op (s : String)
deriving BEq

/-- The words of the language. -/
def keywords : List String :=
  ["BEGIN", "END", "if", "else", "while", "for", "do", "break", "continue", "next", "nextfile", "exit",
    "return", "delete", "in", "function", "print", "printf", "getline", "length"]

/-- The functions that every program has, with the least and the most arguments. -/
def builtins : List (String × Nat × Nat) :=
  [("substr", 2, 3), ("index", 2, 2), ("split", 2, 3), ("sub", 2, 3), ("gsub", 2, 3), ("match", 2, 2),
    ("sprintf", 1, 255), ("sin", 1, 1), ("cos", 1, 1), ("atan2", 2, 2), ("exp", 1, 1), ("log", 1, 1),
    ("sqrt", 1, 1), ("int", 1, 1), ("rand", 0, 0), ("srand", 0, 1), ("tolower", 1, 1),
    ("toupper", 1, 1), ("system", 1, 1), ("close", 1, 1), ("fflush", 0, 1), ("strftime", 0, 3),
    ("systime", 0, 0), ("mktime", 1, 1)]

/-- The operators, the longest ones first. -/
def operators : List String :=
  ["&&", "||", "++", "--", "+=", "-=", "*=", "/=", "%=", "^=", "==", "<=", ">=", "!=", "!~", ">>",
    "\x7b", "\x7d", "(", ")", "[", "]", ";", ",", "+", "-", "*", "/", "%", "^", "!", ">", "<", "|",
    "?", ":", "~", "$", "="]

/-- How a token is named in messages. -/
def Token.shown : Token → String
  | .finish => "end of file"
  | .newline => "end of line"
  | .number _ s | .string s | .name s | .call s | .keyword s | .op s => s
  | .regex s => "/" ++ s ++ "/"

/-- Whether a slash after a token divides. -/
def Token.endsOperand : Token → Bool
  | .number .. | .string _ | .regex _ | .name _ | .keyword "getline" => true
  | .op s => [")", "]", "++", "--"].contains s
  | _ => false

/-- The characters of an escape, and what follows it. -/
def escape (cs : List Char) : List Char × List Char :=
  match cs with
  | 'n' :: r => (['\n'], r)
  | 't' :: r => (['\t'], r)
  | 'r' :: r => (['\r'], r)
  | '\\' :: r => (['\\'], r)
  | '"' :: r => (['"'], r)
  | 'a' :: r => ([Char.ofNat 7], r)
  | 'b' :: r => ([Char.ofNat 8], r)
  | 'f' :: r => ([Char.ofNat 12], r)
  | 'v' :: r => ([Char.ofNat 11], r)
  | 'x' :: r =>
      let digits := (r.take 2).takeWhile Printing.isHex
      if digits.isEmpty then (['\\', 'x'], r)
      else ([Char.ofNat (Sum.ofDigits 16 digits)], r.drop digits.length)
  | c :: r =>
      if Printing.isOctal c then
        let (d, rest) := Printing.octal 3 (c :: r)
        ([d], rest)
      else (['\\', c], r)
  | [] => (['\\'], [])

/-- The characters of a string up to its end. -/
def stringChars : Nat → List Char → Array Char → Option (String × List Char)
  | 0, _, _ => none
  | _, [], _ => none
  | _, '\n' :: _, _ => none
  | _, '"' :: rest, sofar => some (String.ofList sofar.toList, rest)
  | fuel + 1, '\\' :: '\n' :: rest, sofar => stringChars fuel rest sofar
  | fuel + 1, '\\' :: rest, sofar =>
      let (cs, rest) := escape rest
      stringChars fuel rest (sofar ++ cs.toArray)
  | fuel + 1, c :: rest, sofar => stringChars fuel rest (sofar.push c)

/-- The characters of a text with escapes. -/
def unescaped (text : String) : String :=
  let rec go : Nat → List Char → List Char
    | 0, cs => cs
    | _, [] => []
    | fuel + 1, '\\' :: rest =>
        let (cs, rest) := escape rest
        cs ++ go fuel rest
    | fuel + 1, c :: rest => c :: go fuel rest
  String.ofList (go (text.length + 1) text.toList)

/-- Where a slash is in a pattern. -/
inductive Inside where
  | nothing
  /-- In a set that has just begun. -/
  | fresh
  | set

/-- The characters of a pattern up to its end. -/
def regexChars : Nat → Inside → List Char → Array Char → Option (String × List Char)
  | 0, _, _, _ => none
  | _, _, [], _ => none
  | _, _, '\n' :: _, _ => none
  | fuel + 1, inside, '\\' :: c :: rest, sofar =>
      let next := match inside with
        | .fresh => .set
        | inside => inside
      if c = '/' then regexChars fuel next rest (sofar.push '/')
      else if c = '\n' then regexChars fuel next rest sofar
      else regexChars fuel next rest ((sofar.push '\\').push c)
  | fuel + 1, .nothing, c :: rest, sofar =>
      if c = '/' then some (String.ofList sofar.toList, rest)
      else regexChars fuel (if c = '[' then .fresh else .nothing) rest (sofar.push c)
  | fuel + 1, inside, '[' :: mark :: rest, sofar =>
      let sofar := sofar.push '['
      if [':', '.', '='].contains mark then
        let name := rest.takeWhile fun c => c != mark && c != '\n' && c != '/'
        let rest := rest.drop name.length
        let sofar := sofar.push mark ++ name.toArray
        match rest with
        | c :: ']' :: rest => regexChars fuel .set rest ((sofar.push c).push ']')
        | rest => regexChars fuel .set rest sofar
      else regexChars fuel (match inside with | .nothing => .fresh | _ => .set) (mark :: rest) sofar
  | fuel + 1, .fresh, c :: rest, sofar =>
      regexChars fuel (if c = '^' && sofar.back? = some '[' then .fresh else .set) rest (sofar.push c)
  | fuel + 1, .set, c :: rest, sofar =>
      regexChars fuel (if c = ']' then .nothing else .set) rest (sofar.push c)

/-- A message, and the line that it is about. -/
structure Problem where
  line : Nat
  /-- Whether the line is told as usual. -/
  usual : Bool
  message : String

/-- A token with its line. -/
abbrev Placed := Token × Nat

/-- The tokens of a program, with their lines. -/
def tokens : Nat → Nat → Token → List Char → Array Placed → Except Problem (Array Placed)
  | 0, _, _, _, sofar => .ok sofar
  | _, line, _, [], sofar => .ok (sofar.push (.finish, line))
  | fuel + 1, line, last, c :: cs, sofar =>
      let add (t : Token) (rest : List Char) : Except Problem (Array Placed) :=
        tokens fuel line t rest (sofar.push (t, line))
      let runaway (kind opening : String) : Except Problem (Array Placed) :=
        .error ⟨line, true, "runaway " ++ kind ++ " " ++ opening
          ++ String.ofList ((cs.takeWhile (· != '\n')).take 10) ++ " ..."⟩
      if c = '\n' then tokens fuel (line + 1) .newline cs (sofar.push (.newline, line))
      else if c = ' ' || ('\t' ≤ c && c ≤ '\r') then tokens fuel line last cs sofar
      else if c = '\\' && cs.head? = some '\n' then tokens fuel (line + 1) last (cs.drop 1) sofar
      else if c = '#' then tokens fuel line last (cs.dropWhile (· != '\n')) sofar
      else if c = '"' then
        match stringChars (cs.length + 1) cs #[] with
        | some (s, rest) => add (.string s) rest
        | none => runaway "string constant" "\""
      else if c = '/' && !last.endsOperand then
        match regexChars (cs.length + 1) .nothing cs #[] with
        | some (s, rest) => add (.regex s) rest
        | none => runaway "regular expression" "/"
      else if c.isDigit || (c = '.' && cs.head?.any Char.isDigit) then
        match Printing.leadingDecimal (c :: cs) with
        | (some x, rest) =>
            let text := String.ofList ((c :: cs).take (cs.length + 1 - rest.length))
            let isOut := x.isInf || (x < 2.2250738585072014e-308 && x != 0.0)
            if isOut then .error ⟨line, true, text ++ " : decimal overflow"⟩ else add (.number x text) rest
        | (none, rest) => add (.number 0 "0") rest
      else if isNameStart c then
        let name := (c :: cs).takeWhile isNameChar
        let rest := (c :: cs).drop name.length
        let s := String.ofList name
        if keywords.contains s then add (.keyword s) rest
        else if rest.head? = some '(' || (builtins.lookup s).isSome then add (.call s) rest
        else add (.name s) rest
      else match operators.find? fun o => o.toList.isPrefixOf (c :: cs) with
        | some o => add (.op o) ((c :: cs).drop o.length)
        | none => .error ⟨line, false, "unexpected character '" ++ String.singleton c ++ "'"⟩

end GuardedCnf.Utility.Awk
