/-! # Reading decimal numbers

    Three readers, with the causes of their failures: signed 64-bit integers,
    unsigned 64-bit integers, and natural numbers of any size.  Digits are read
    from left to right, and the first fault met is the one reported. -/

namespace GuardedCnf.Text

/-- Why a text is not a number. -/
inductive NumberError where
  | empty
  | invalidDigit
  | tooLarge
  | tooSmall
deriving DecidableEq

/-- The wording of a failure. -/
def NumberError.message : NumberError → String
  | .empty => "cannot parse integer from empty string"
  | .invalidDigit => "invalid digit found in string"
  | .tooLarge => "number too large to fit in target type"
  | .tooSmall => "number too small to fit in target type"

/-- The value of a decimal digit. -/
def digit? (c : Char) : Option Nat := if c.isDigit then some (c.toNat - 48) else none

/-- Continues a number with digits, which must not exceed a limit. -/
def readDigits (limit : Nat) (overflow : NumberError) (sofar : Nat) :
    List Char → Except NumberError Nat
  | [] => .ok sofar
  | c :: cs =>
      match digit? c with
      | none => .error .invalidDigit
      | some d =>
          if limit < 10 * sofar + d then .error overflow
          else readDigits limit overflow (10 * sofar + d) cs

/-- Reads digits after a sign; there has to be one. -/
def readSigned (limit : Nat) (overflow : NumberError) (cs : List Char) :
    Except NumberError Nat :=
  if cs.isEmpty then .error .invalidDigit else readDigits limit overflow 0 cs

/-- Reads a signed 64-bit integer. -/
def readInt64 (s : String) : Except NumberError Int :=
  match s.toList with
  | [] => .error .empty
  | '+' :: cs => do return ((← readSigned (Nat.pow 2 63 - 1) .tooLarge cs) : Nat)
  | '-' :: cs => do return -((← readSigned (Nat.pow 2 63) .tooSmall cs) : Nat)
  | cs => do return ((← readDigits (Nat.pow 2 63 - 1) .tooLarge 0 cs) : Nat)

/-- Reads an unsigned 64-bit integer, with or without a plus sign. -/
def readNat64 (s : String) : Except NumberError Nat :=
  match s.toList with
  | [] => .error .empty
  | '+' :: cs => readSigned (Nat.pow 2 64 - 1) .tooLarge cs
  | cs => readDigits (Nat.pow 2 64 - 1) .tooLarge 0 cs

/-- Continues a natural number with digits and underscores. -/
def readSpaced (sofar : Nat) : List Char → Except NumberError Nat
  | [] => .ok sofar
  | '_' :: cs => readSpaced sofar cs
  | c :: cs =>
      match digit? c with
      | none => .error .invalidDigit
      | some d => readSpaced (10 * sofar + d) cs

/-- Reads a natural number of any size: one plus sign may come first, and
    underscores may stand after the first digit. -/
def readNatural (s : String) : Except NumberError Nat :=
  let digits := match s.toList with
    | '+' :: '+' :: cs => '+' :: '+' :: cs
    | '+' :: cs => cs
    | cs => cs
  match digits with
  | [] => .error .empty
  | '_' :: _ => .error .invalidDigit
  | cs => readSpaced 0 cs

/-- The digits of a number have its value. -/
theorem ofDigitChars_toString (n : Nat) : Nat.ofDigitChars 10 (toString n).toList 0 = n := by
  rw [Nat.toString_eq_repr, Nat.toList_repr]
  exact Nat.ofDigitChars_ten_toDigits

theorem eq_of_toString_eq {m n : Nat} (h : toString m = toString n) : m = n := by
  rw [← ofDigitChars_toString m, h, ofDigitChars_toString]

end GuardedCnf.Text
