/-! # Tokens of expressions

    A line is cut into names, operators, parentheses and stray characters.
    Blanks, tabs and line ends between them have no meaning.  A name is as long
    as possible, and so is an arrow. -/

namespace GuardedCnf

/-- A token of an expression. -/
inductive Token where
  | name (s : String)
  | not
  | and
  | or
  | implies
  | iff
  | opening
  | closing
  /-- A character that no token has. -/
  | stray (c : Char)
deriving DecidableEq

namespace Token

/-- Whether a character separates tokens. -/
def isSpace (c : Char) : Bool := c == ' ' || c == '\t' || c == '\r' || c == '\n'

/-- Whether a character belongs to names: letters, digits, `_`, `.` and `$`. -/
def isNameChar (c : Char) : Bool := c.isAlphanum || c == '_' || c == '.' || c == '$'

/-- The token of a single character that is no name and no space. -/
def ofChar (c : Char) : Token :=
  if c = '!' || c = '~' || c = '-' then .not
  else if c = '&' then .and
  else if c = '|' then .or
  else if c = '(' then .opening
  else if c = ')' then .closing
  else .stray c

/-- The tokens of a text, each with the text from its first character on. -/
def scan : List Char → List (Token × List Char)
  | [] => []
  | '<' :: '-' :: '>' :: cs => (.iff, '<' :: '-' :: '>' :: cs) :: scan cs
  | '-' :: '>' :: cs => (.implies, '-' :: '>' :: cs) :: scan cs
  | c :: cs =>
      if isSpace c then scan cs
      else if isNameChar c then
        (.name (String.ofList (c :: cs.takeWhile isNameChar)), c :: cs)
          :: scan (cs.dropWhile isNameChar)
      else (ofChar c, c :: cs) :: scan cs
termination_by cs => cs.length
decreasing_by
  all_goals simp only [List.length_cons]
  all_goals first
    | omega
    | exact Nat.lt_succ_of_le (List.dropWhile_sublist isNameChar).length_le

end Token

end GuardedCnf
