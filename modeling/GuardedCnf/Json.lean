/-! # JSON values, as far as results and statistics need them

    Objects keep the order of their fields.  Two written forms exist: a compact
    one without blanks, and an indented one with two blanks for each level. -/

namespace GuardedCnf

/-- A JSON value without arrays and fractions. -/
inductive Json where
  | null
  | bool (b : Bool)
  | int (n : Int)
  | str (s : String)
  | obj (fields : List (String × Json))

namespace Json

/-- One hexadecimal digit. -/
def hexDigit (n : Nat) : Char := if n < 10 then Char.ofNat (48 + n) else Char.ofNat (87 + n)

/-- One character of a quoted string: quotes, backslashes and control
    characters are escaped. -/
def escape (c : Char) : List Char :=
  if c = '"' then ['\\', '"']
  else if c = '\\' then ['\\', '\\']
  else if c = '\n' then ['\\', 'n']
  else if c = '\r' then ['\\', 'r']
  else if c = '\t' then ['\\', 't']
  else if c.toNat = 8 then ['\\', 'b']
  else if c.toNat = 12 then ['\\', 'f']
  else if c.toNat < 32 then
    ['\\', 'u', '0', '0', hexDigit (c.toNat / 16), hexDigit (c.toNat % 16)]
  else [c]

/-- A string between quotes. -/
def quote (s : String) : String := "\"" ++ String.ofList (s.toList.flatMap escape) ++ "\""

mutual

/-- The compact written form. -/
def compact : Json → String
  | .null => "null"
  | .bool b => if b then "true" else "false"
  | .int n => toString n
  | .str s => quote s
  | .obj fields => "\x7b" ++ compactFields fields ++ "\x7d"

/-- The fields of an object, separated by commas. -/
def compactFields : List (String × Json) → String
  | [] => ""
  | [(k, v)] => quote k ++ ":" ++ v.compact
  | (k, v) :: rest => quote k ++ ":" ++ v.compact ++ "," ++ compactFields rest

end

/-- The blanks before a line at a level. -/
def indent (level : Nat) : String := String.ofList (List.replicate (2 * level) ' ')

mutual

/-- The indented written form of a value at a level. -/
def prettyAt (level : Nat) : Json → String
  | .obj [] => "\x7b\x7d"
  | .obj (field :: rest) =>
      "\x7b\n" ++ prettyFields (level + 1) (field :: rest) ++ "\n" ++ indent level ++ "\x7d"
  | .null => "null"
  | .bool b => if b then "true" else "false"
  | .int n => toString n
  | .str s => quote s

/-- The fields of an object, one on a line. -/
def prettyFields (level : Nat) : List (String × Json) → String
  | [] => ""
  | [(k, v)] => indent level ++ quote k ++ ": " ++ v.prettyAt level
  | (k, v) :: rest =>
      indent level ++ quote k ++ ": " ++ v.prettyAt level ++ ",\n" ++ prettyFields level rest

end

/-- The indented written form, without a line break at the end. -/
def pretty (j : Json) : String := j.prettyAt 0

end Json

end GuardedCnf
