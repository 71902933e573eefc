/-! # White space and words

    White space is the Unicode property of that name.  Words are the longest
    runs without white space. -/

namespace GuardedCnf.Text

/-- Whether a character is white space. -/
def isBlank (c : Char) : Bool :=
  let n := c.toNat
  (9 ≤ n && n ≤ 13) || n == 0x20 || n == 0x85 || n == 0xA0 || n == 0x1680
    || (0x2000 ≤ n && n ≤ 0x200A) || n == 0x2028 || n == 0x2029 || n == 0x202F
    || n == 0x205F || n == 0x3000

/-- The words of a text, in order. -/
def words : List Char → List (List Char)
  | [] => []
  | c :: cs =>
      if isBlank c then words cs
      else match cs with
        | [] => [[c]]
        | d :: _ =>
            if isBlank d then [c] :: words cs
            else match words cs with
              | [] => [[c]]
              | w :: ws => (c :: w) :: ws

/-- The words of a string. -/
def wordsOf (s : String) : List String := (words s.toList).map String.ofList

end GuardedCnf.Text
