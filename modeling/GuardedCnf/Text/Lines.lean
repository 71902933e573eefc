import GuardedCnf.Text.Utf8
/-! # Lines of bytes

    A line ends with a line feed, or with a carriage return and a line feed.
    What follows the last line end is a line too, unless it is empty. -/

namespace GuardedCnf.Text

/-- The lines of bytes, without their ends. -/
def lines : List UInt8 → List (List UInt8)
  | [] => []
  | 13 :: 10 :: bs => [] :: lines bs
  | 10 :: bs => [] :: lines bs
  | b :: bs =>
      match lines bs with
      | [] => [[b]]
      | l :: ls => (b :: l) :: ls

/-- The lines as texts, `none` for a line that is no UTF-8. -/
def textLines (bytes : List UInt8) : List (Option String) := (lines bytes).map decode?

end GuardedCnf.Text
