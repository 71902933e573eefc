import GuardedCnf.Script.Places
import GuardedCnf.Script.Sum
/-! # Quoting — texts that scripts can read again

    The extended dialect shows values in quotes.  There are several ways, and each
    gives the same value when a script reads it. -/

namespace GuardedCnf.Script.Quoting

/-- The escape of a character that is not shown as itself. -/
def escapeOf (c : Char) : String :=
  match c with
  | '\n' => "\\n"
  | '\t' => "\\t"
  | '\r' => "\\r"
  | '\x07' => "\\a"
  | '\x08' => "\\b"
  | '\x0b' => "\\v"
  | '\x0c' => "\\f"
  | '\x1b' => "\\E"
  | '\'' => "\\'"
  | '\\' => "\\\\"
  | c =>
      if c < ' ' || '\x7e' < c then "\\" ++ Places.digits 3 (Sum.ofDigits 10 (Nat.toDigits 8 c.toNat))
      else String.singleton c

/-- Whether a character is shown by an escape. -/
def isControl (c : Char) : Bool := c < ' ' || c = '\x7f'

/-- A text between single quotes that scripts can read. -/
def inQuotes (text : String) : String :=
  if text.toList.any isControl then
    "$'" ++ String.join (text.toList.map escapeOf) ++ "'"
  else "'" ++ text.replace "'" "'\\''" ++ "'"

/-- The characters that need no quotes in a word. -/
def isTame (c : Char) : Bool :=
  c.isAlphanum || ['_', '-', '.', '/', ':', '=', '@', '%', '+', ','].contains c || '\x7f' < c

/-- A text in quotes, if it needs them. -/
def quotedIfNeeded (text : String) : String :=
  if text.isEmpty then "''"
  else if text.toList.all isTame then text else inQuotes text

/-- A text with a backslash before the characters that need one. -/
def withBackslashes (text : String) : String :=
  if text.isEmpty then "''"
  else if text.toList.any isControl then inQuotes text
  else String.join (text.toList.map fun c => if isTame c && c != ',' then String.singleton c
    else "\\" ++ String.singleton c)

/-- A text between double quotes, as declarations show it. -/
def declared (text : String) : String :=
  if text.toList.any isControl then inQuotes text
  else "\"" ++ String.join (text.toList.map fun c =>
    if ['"', '\\', '$', '\x60'].contains c then "\\" ++ String.singleton c else String.singleton c) ++ "\""

end GuardedCnf.Script.Quoting
