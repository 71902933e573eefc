import GuardedCnf.Text.Unprintable
/-! # Quoted texts in messages

    A quoted text stands between double quotes.  Quotes, backslashes and the
    usual controls have short escapes; other characters that cannot be printed
    are shown by their code in hexadecimal between braces. -/

namespace GuardedCnf.Text

/-- The written form of one character of a quoted text. -/
def escapeChar (c : Char) : String :=
  if c = '"' then "\\\""
  else if c = '\\' then "\\\\"
  else if c = '\n' then "\\n"
  else if c = '\r' then "\\r"
  else if c = '\t' then "\\t"
  else if c.toNat = 0 then "\\0"
  else if isUnprintable c then
    "\\u\x7b" ++ String.ofList (Nat.toDigits 16 c.toNat) ++ "\x7d"
  else String.singleton c

/-- A text between quotes. -/
def quoted (s : String) : String := "\"" ++ String.join (s.toList.map escapeChar) ++ "\""

end GuardedCnf.Text
