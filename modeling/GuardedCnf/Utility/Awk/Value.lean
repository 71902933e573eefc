import GuardedCnf.Script.Places
import GuardedCnf.Script.Printing
/-! # Values of programs on records

    A value is a number or a text, and a text from the input that looks like a
    number is both. -/

namespace GuardedCnf.Utility.Awk

open Script

/-- A value. -/
inductive Value where
  | missing
  | number (x : Float)
  /-- What is no number, with its sign. -/
  | nan (negative : Bool)
  | text (s : String)
  /-- A text that looks like a number. -/
  | both (s : String) (x : Float)

namespace Value

/-! ## Numbers. -/

/-- The value of a number; an invalid one is negative. -/
def ofFloat (x : Float) : Value := if x.isNaN then .nan true else .number x

/-- The value of a natural number. -/
def ofNat (n : Nat) : Value := .number n.toFloat

/-- The value of an integer. -/
def ofInt (n : Int) : Value := .number (Float.ofInt n)

/-- The value of a condition. -/
def ofBool (b : Bool) : Value := .number (if b then 1.0 else 0.0)

/-- The number that a text begins with. -/
def leading (s : String) : Float := (Printing.leadingFloat s.toList).1.getD 0.0

/-- The value of a text from the input: it looks like a number if that fills it up
    to blanks, and begins and ends as numbers do. -/
def ofInput (s : String) : Value :=
  let cs := s.toList.dropWhile Printing.isBlank
  let cs := (cs.reverse.dropWhile Printing.isBlank).reverse
  let begins := cs.head?.any fun c => c.isDigit || c = '+' || c = '-' || c = '.'
  let ends := cs.getLast?.any fun c => c.isDigit || c = '.'
  if begins && ends then
    match Printing.leadingFloat cs with
    | (some x, []) => .both s x
    | _ => .text s
  else .text s

/-- The number that a value is. -/
def toNumber : Value → Float
  | .missing => 0.0
  | .number x | .both _ x => x
  | .nan _ => 0.0 / 0.0
  | .text s => leading s

/-- The sign of a value that is no number, if it is none. -/
def invalid? : Value → Option Bool
  | .nan negative => some negative
  | .text s => if (leading s).isNaN then some (s.toList.dropWhile Printing.isBlank |>.head? |> (· == some '-'))
      else none
  | _ => none

/-- The largest integer. -/
def largest : Float := 2147483647.0

/-- The integer before the places of a number, within the range of integers. -/
def toInt (x : Float) : Int :=
  if x.isNaN then -2147483647
  else if largest ≤ x then 2147483647
  else if x ≤ -largest then -2147483647
  else if x < 0.0 then -(Int.ofNat (-x).toUInt64.toNat) else Int.ofNat x.toUInt64.toNat

/-- The integer before the places of a number, within a longer range. -/
def toLong (x : Float) : Int :=
  if x.isNaN then -9223372036854775807
  else if 9.2233720368547758e18 ≤ x then 9223372036854775807
  else if x ≤ -9.2233720368547758e18 then -9223372036854775807
  else if x < 0.0 then -(Int.ofNat (-x).toUInt64.toNat) else Int.ofNat x.toUInt64.toNat

/-- The integer that a number is, if it is one. -/
def integer? (x : Float) : Option Int :=
  let n := toInt x
  if Float.ofInt n == x then some n else none

/-! ## Texts. -/

/-- A directive of a format. -/
structure Directive where
  form : Form
  letter : Char

/-- How a number is written by a directive. -/
def Directive.show (d : Directive) (v : Value) : Option String :=
  match d.letter with
  | 'd' | 'i' => some (d.form.integer (toLong v.toNumber))
  | 'o' | 'u' | 'x' | 'X' => some (d.form.unsigned d.letter ((toLong v.toNumber).emod (Nat.pow 2 64)).toNat)
  | 'e' | 'E' | 'f' | 'F' | 'g' | 'G' =>
      match v.invalid? with
      | some negative =>
          let body := if d.letter.isUpper then "NAN" else "nan"
          some (d.form.pad (d.form.sign negative) body false)
      | none => some (d.form.float d.letter v.toNumber)
  | _ => none

/-- The flags of a directive. -/
def flags : List Char := ['#', '-', '+', ' ', '0']

/-- A number in a format with one directive. -/
def format (spec : String) (v : Value) : String :=
  let cs := spec.toList
  let before := cs.takeWhile (· != '%')
  let cs := cs.drop (before.length + 1)
  let marks := cs.takeWhile flags.contains
  let cs := cs.drop marks.length
  let width := cs.takeWhile Char.isDigit
  let cs := cs.drop width.length
  let (precision, cs) : Option Nat × List Char := match cs with
    | '.' :: rest =>
        let digits := rest.takeWhile Char.isDigit
        (some (Sum.ofDigits 10 digits), rest.drop digits.length)
    | _ => (none, cs)
  match cs with
  | [] => String.ofList before
  | letter :: after =>
      let form : Form := ⟨marks.contains '-', marks.contains '+', marks.contains ' ', marks.contains '#',
        marks.contains '0', Sum.ofDigits 10 width, precision⟩
      let shown := ((⟨form, letter⟩ : Directive).show v).getD ""
      String.ofList before ++ shown ++ String.ofList after

/-- The text of a number. -/
def showNumber (spec : String) (v : Value) : String :=
  match v.invalid?, integer? v.toNumber with
  | none, some n => toString n
  | _, _ => format spec v

/-- The text of a value. -/
def toText (spec : String) : Value → String
  | .missing => ""
  | .text s | .both s _ => s
  | v => showNumber spec v

/-- Whether a value counts as true. -/
def isTrue : Value → Bool
  | .missing => false
  | .number x | .both _ x => x != 0.0
  | .nan _ => true
  | .text s => !s.isEmpty

/-! ## Operators. -/

/-- Whether a value is compared as a number. -/
def isNumeric : Value → Bool
  | .text _ => false
  | _ => true

/-- Whether a comparison holds.  What is no number is equal to each number. -/
def compare (spec op : String) (a b : Value) : Bool :=
  let holds (less greater : Bool) : Bool := match op with
    | "<" => less
    | "<=" => !greater
    | "==" => !less && !greater
    | "!=" => less || greater
    | ">" => greater
    | _ => !less
  if a.isNumeric && b.isNumeric then
    let x := a.toNumber
    let y := b.toNumber
    holds (x < y) (y < x)
  else
    let x := a.toText spec
    let y := b.toText spec
    holds (x < y) (y < x)

/-- The remainder of a division that goes towards zero. -/
def remainder (a b : Float) : Float :=
  if a.isNaN || b.isNaN || a.isInf || b == 0.0 then 0.0 / 0.0
  else if b.isInf then a
  else
    let x := Fraction.ofFloat a
    let y := Fraction.ofFloat b
    let whole := max x.den y.den
    let rest := (x.num * (whole / x.den)) % (y.num * (whole / y.den))
    let extra := rest.log2 - 63
    let size := (rest >>> extra).toFloat.scaleB ((extra : Int) - (whole.log2 : Int))
    if a < 0.0 then -size else size

/-- The value of an arithmetic operator.  What is no number stays what it is. -/
def arithmetic (op : String) (a b : Value) : Value :=
  let x := a.toNumber
  let y := b.toNumber
  let z := match op with
    | "+" => x + y
    | "-" => x - y
    | "*" => x * y
    | "/" => x / y
    | "^" => x.pow y
    | _ => remainder x y
  if z.isNaN then .nan ((a.invalid? <|> b.invalid?).getD true) else .number z

/-- The value with the other sign. -/
def negated (v : Value) : Value :=
  match v.invalid? with
  | some negative => .nan !negative
  | none => .number (-v.toNumber)

/-- The value as a number. -/
def numeric (v : Value) : Value :=
  match v.invalid? with
  | some negative => .nan negative
  | none => .number v.toNumber

end Value

end GuardedCnf.Utility.Awk
