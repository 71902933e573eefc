/-! # Sets of characters — what brackets in patterns stand for

    A set is given by ranges of characters and may be negated.  In a pattern it
    is written between brackets, where some classes have names. -/

namespace GuardedCnf

/-- A set of characters. -/
structure CharSet where
  negated : Bool
  /-- The first and last characters of ranges. -/
  ranges : List (Char × Char)
deriving BEq

namespace CharSet

/-- Whether a character is in the set. -/
def contains (s : CharSet) (c : Char) : Bool :=
  s.ranges.any (fun (first, last) => first ≤ c && c ≤ last) != s.negated

/-- The set with the same characters in the other case. -/
def withBothCases (s : CharSet) : CharSet :=
  let within (low high : Char) (f : Char → Char) (r : Char × Char) : List (Char × Char) :=
    let first := if r.1 < low then low else r.1
    let last := if high < r.2 then high else r.2
    if first ≤ last then [(f first, f last)] else []
  let swapped := s.ranges.flatMap fun r =>
    within 'a' 'z' Char.toUpper r ++ within 'A' 'Z' Char.toLower r
  { s with ranges := s.ranges ++ swapped }

/-- The ranges of a class with a name. -/
def classRanges (name : String) : List (Char × Char) :=
  match name with
  | "alpha" => [('A', 'Z'), ('a', 'z')]
  | "digit" => [('0', '9')]
  | "alnum" => [('A', 'Z'), ('a', 'z'), ('0', '9')]
  | "upper" => [('A', 'Z')]
  | "lower" => [('a', 'z')]
  | "space" => [('\t', '\r'), (' ', ' ')]
  | "blank" => [('\t', '\t'), (' ', ' ')]
  | "punct" => [('!', '/'), (':', '@'), ('[', '\x60'), ('\x7b', '\x7e')]
  | "print" => [(' ', '\x7e')]
  | "graph" => [('!', '\x7e')]
  | "cntrl" => [('\x00', '\x1f'), ('\x7f', '\x7f')]
  | "xdigit" => [('0', '9'), ('A', 'F'), ('a', 'f')]
  | _ => []

/-- A character of a pattern, and whether it can have a meaning of its own. -/
abbrev Marked := Char × Bool

/-- Reads the members of a set up to the closing bracket. -/
def readMembers : Nat → Bool → List (Char × Char) → List Marked →
    Option (List (Char × Char) × List Marked)
  | 0, _, _, _ => none
  | _, _, _, [] => none
  | fuel + 1, isFirst, ranges, (c, active) :: cs =>
      if c = ']' && active && !isFirst then some (ranges, cs)
      else match c, cs with
        | '[', (':', true) :: more =>
            let name := more.takeWhile fun m => m.1.isAlpha
            match more.drop name.length with
            | (':', _) :: (']', _) :: after =>
                let named := classRanges (String.ofList (name.map (·.1)))
                readMembers fuel false (ranges ++ named) after
            | _ => readMembers fuel false (ranges ++ [(c, c)]) cs
        | _, ('-', true) :: (last, quoted) :: after =>
            if last = ']' && quoted then readMembers fuel false (ranges ++ [(c, c)]) cs
            else readMembers fuel false (ranges ++ [(c, last)]) after
        | _, _ => readMembers fuel false (ranges ++ [(c, c)]) cs

/-- Reads a set after its opening bracket; `none` if it is not closed. -/
def read? (cs : List Marked) : Option (CharSet × List Marked) :=
  let (negated, cs) := match cs with
    | ('!', true) :: more | ('^', true) :: more => (true, more)
    | _ => (false, cs)
  (readMembers (cs.length + 1) true [] cs).map fun (ranges, rest) => (⟨negated, ranges⟩, rest)

end CharSet

end GuardedCnf
