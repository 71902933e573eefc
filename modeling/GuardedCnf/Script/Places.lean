/-! # Numbers in a form — fixed places, exponents and padding

    A form tells how a number or a text is written: with how many places, in
    which base, and how it is padded to a width.  Numbers with places are
    rounded from their exact values, and a tie goes to the even neighbour. -/

namespace GuardedCnf

/-- A nonnegative fraction. -/
structure Fraction where
  num : Nat
  den : Nat

namespace Fraction

/-- The quotient that is nearest to a fraction, the even one of two. -/
def round (x : Fraction) : Nat :=
  let q := x.num / x.den
  let r := 2 * (x.num % x.den)
  if x.den < r || (r = x.den && q % 2 = 1) then q + 1 else q

/-- A fraction times a power of ten. -/
def scale (x : Fraction) (e : Int) : Fraction :=
  if 0 ≤ e then ⟨x.num * Nat.pow 10 e.toNat, x.den⟩ else ⟨x.num, x.den * Nat.pow 10 (-e).toNat⟩

/-- The exact value of the absolute value of a finite number. -/
def ofFloat (x : Float) : Fraction :=
  let bits : Nat := x.toBits.toNat
  let exponent : Nat := bits / Nat.pow 2 52 % 2048
  let fraction := bits % Nat.pow 2 52
  let (m, e) : Nat × Int :=
    if exponent = 0 then (fraction, -1074) else (Nat.pow 2 52 + fraction, (exponent : Int) - 1075)
  if 0 ≤ e then ⟨m * Nat.pow 2 e.toNat, 1⟩ else ⟨m, Nat.pow 2 (-e).toNat⟩

/-- The exponent of the first digit of a fraction. -/
def exponent (x : Fraction) : Int :=
  if x.num = 0 then 0
  else
    let guess : Int :=
      ((toString x.num).length : Int) - ((toString x.den).length : Int)
    let y := x.scale (-guess)
    if y.num < y.den then guess - 1 else guess

end Fraction

namespace Places

/-- The digits of a number, with at least so many. -/
def digits (least n : Nat) : String :=
  let text := toString n
  String.ofList (List.replicate (least - text.length) '0') ++ text

/-- A fraction with a fixed number of places. -/
def fixed (places : Nat) (point : Bool) (x : Fraction) : String :=
  let n := (x.scale places).round
  let text := digits (places + 1) n
  let whole := String.ofList (text.toList.take (text.length - places))
  let part := String.ofList (text.toList.drop (text.length - places))
  if places = 0 then if point then whole ++ "." else whole else whole ++ "." ++ part

/-- The digits of a fraction with one before the point, and their exponent. -/
def significant (places : Nat) (x : Fraction) : Nat × Int :=
  let e := x.exponent
  let n := (x.scale ((places : Int) - e)).round
  if n < Nat.pow 10 (places + 1) then (n, e) else (n / 10, e + 1)

/-- A fraction with an exponent. -/
def scientific (places : Nat) (point : Bool) (x : Fraction) : String :=
  let (n, e) := significant places x
  let mantissa := fixed places point ⟨n, Nat.pow 10 places⟩
  mantissa ++ (if e < 0 then "e-" else "e+") ++ digits 2 e.natAbs

/-- A text without the zeros at the end of its places. -/
def dropZeros (text : String) : String :=
  let (mantissa, rest) := match text.splitOn "e" with
    | [m, e] => (m, "e" ++ e)
    | _ => (text, "")
  if !mantissa.toList.contains '.' then text
  else
    let cs := mantissa.toList.reverse.dropWhile (· = '0')
    let cs := match cs with
      | '.' :: cs => cs
      | cs => cs
    String.ofList cs.reverse ++ rest

/-- A fraction with a number of significant digits, in the shorter form. -/
def general (precision : Nat) (full : Bool) (x : Fraction) : String :=
  let p := max precision 1
  let (_, e) := significant (p - 1) x
  let text :=
    if -4 ≤ e && e < p then fixed ((p - 1 : Int) - e).toNat full x
    else scientific (p - 1) full x
  if full then text else dropZeros text

end Places

/-- How a value is written. -/
structure Form where
  /-- Whether the value is at the left of its width. -/
  left : Bool
  /-- Whether a sign is always written. -/
  plus : Bool
  /-- Whether a blank takes the place of a plus sign. -/
  space : Bool
  /-- Whether bases and points are always shown. -/
  full : Bool
  /-- Whether zeros fill the width. -/
  zeros : Bool
  width : Nat
  precision : Option Nat

namespace Form

/-- The form without demands. -/
def plain : Form := ⟨false, false, false, false, false, 0, none⟩

/-- A text in its width: the zeros come after the sign. -/
def pad (f : Form) (sign body : String) (zeros : Bool) : String :=
  let missing := f.width - (sign.length + body.length)
  if f.left then sign ++ body ++ String.ofList (List.replicate missing ' ')
  else if zeros then sign ++ String.ofList (List.replicate missing '0') ++ body
  else String.ofList (List.replicate missing ' ') ++ sign ++ body

/-- The sign of a number. -/
def sign (f : Form) (negative : Bool) : String :=
  if negative then "-" else if f.plus then "+" else if f.space then " " else ""

/-- A text. -/
def text (f : Form) (s : String) : String :=
  let s := match f.precision with
    | some n => String.ofList (s.toList.take n)
    | none => s
  f.pad "" s false

/-- The digits of a natural number, at least as many as the precision. -/
def natural (f : Form) (base : Nat) (n : Nat) : String :=
  let cs := if n = 0 && f.precision = some 0 then [] else Nat.toDigits base n
  String.ofList (List.replicate (f.precision.getD 1 - cs.length) '0' ++ cs)

/-- An integer. -/
def integer (f : Form) (n : Int) : String :=
  f.pad (f.sign (n < 0)) (f.natural 10 n.natAbs) (f.zeros && f.precision.isNone)

/-- A natural number by the letter of its base. -/
def unsigned (f : Form) (letter : Char) (n : Nat) : String :=
  let zeros := f.zeros && f.precision.isNone
  match letter with
  | 'o' =>
      let body := f.natural 8 n
      f.pad "" (if f.full && !body.startsWith "0" then "0" ++ body else body) zeros
  | 'x' => f.pad (if f.full && n != 0 then "0x" else "") (f.natural 16 n) zeros
  | 'X' => f.pad (if f.full && n != 0 then "0X" else "") (f.natural 16 n).toUpper zeros
  | _ => f.pad "" (f.natural 10 n) zeros

/-- A text in capitals if a letter is one. -/
def cased (letter : Char) (s : String) : String := if letter.isUpper then s.toUpper else s

/-- A fraction with a sign, by the letter of its form. -/
def fraction (f : Form) (letter : Char) (negative : Bool) (v : Fraction) : String :=
  let precision := f.precision.getD 6
  let body := match letter.toLower with
    | 'f' => Places.fixed precision f.full v
    | 'e' => Places.scientific precision f.full v
    | _ => Places.general precision f.full v
  f.pad (f.sign negative) (cased letter body) f.zeros

/-- A number with places, by the letter of its form. -/
def float (f : Form) (letter : Char) (x : Float) : String :=
  let negative := Nat.pow 2 63 ≤ x.toBits.toNat
  if x.isNaN then f.pad (f.sign negative) (cased letter "nan") false
  else if x.isInf then f.pad (f.sign negative) (cased letter "inf") false
  else f.fraction letter negative (Fraction.ofFloat x)

end Form

end GuardedCnf
