import GuardedCnf.Script.Printing
import GuardedCnf.Utility.Basic
/-! # Sequences of numbers

    A sequence goes from a number in steps up to another one.  Numbers are exact,
    and are shown with as many places as the first one or the step has. -/

namespace GuardedCnf.Utility

open Script

namespace Sequence

/-- A number of a sequence, as it is given. -/
structure Operand where
  /-- The value, unless it is infinite. -/
  value : Option Rat
  negative : Bool
  /-- How many characters the number takes. -/
  width : Int
  /-- How many places it has, if that is known. -/
  places : Option Nat

/-- Why a number is refused. -/
inductive Refusal where
  | noNumber
  /-- A value that is no number. -/
  | undefined

/-- The value of digits times a power of a base. -/
def scaled (digits base : Nat) (exponent : Int) : Option Rat :=
  if digits = 0 then some 0
  else if 5000 < exponent then none
  else if exponent < -5000 then some 0
  else if 0 ≤ exponent then some ((digits * Nat.pow base exponent.toNat : Nat) : Rat)
  else some (mkRat digits (Nat.pow base (-exponent).toNat))

/-- The value of a text without a sign. -/
def readValue (cs : List Char) : Except Refusal (Option Rat) :=
  let lower := String.ofList (cs.map Char.toLower)
  if lower = "inf" || lower = "infinity" then .ok none
  else if lower = "nan" then .error .undefined
  else
    let isHex := lower.startsWith "0x"
    let digits := if isHex then cs.drop 2 else cs
    match Printing.leadingDigits (if isHex then Printing.isHex else Char.isDigit) digits with
    | ([], [], _) => .error .noNumber
    | (whole, part, rest) =>
        let (e, rest) := Printing.leadingExponent (if isHex then 'p' else 'e') rest
        if !rest.isEmpty then .error .noNumber
        else if isHex then .ok (scaled (Sum.ofDigits 16 (whole ++ part)) 2 (e - 4 * (part.length : Int)))
        else .ok (scaled (Sum.ofDigits 10 (whole ++ part)) 10 (e - (part.length : Int)))

/-- The width and the places of a decimal number that is shown in full. -/
def extent (cs : List Char) : Int × Nat :=
  let mantissa := cs.takeWhile fun c => c.toLower != 'e'
  let exponent : Option Int := match cs.drop mantissa.length with
    | _ :: e => some (Printing.leadingExponent 'e' ('e' :: e)).1
    | [] => none
  let point := mantissa.idxOf? '.'
  let part : Nat := match point with
    | some n => mantissa.length - (n + 1)
    | none => 0
  let width : Int := cs.length
  let width := match point with
    | none => width
    | some n =>
        if part = 0 then width - 1
        else if n = 0 || !(mantissa.getD (n - 1) ' ').isDigit then width + 1 else width
  match exponent with
  | none => (width, part)
  | some e =>
      let width := width - ((cs.length - mantissa.length : Nat) : Int)
      if e < 0 then
        let more : Int := if point.isNone || part = 0 then 1 else 0
        (width + more - e, part + e.natAbs)
      else
        let places := part - e.natAbs
        let less : Int := if point.isSome && places = 0 && part != 0 then 1 else 0
        (width - less + (e - ((min part e.natAbs : Nat) : Int)), places)

/-- Reads a number. -/
def Operand.ofText (text : String) : Except Refusal Operand := do
  let cs := text.toList.dropWhile Printing.isBlank
  let (negative, digits) := Printing.leadingSign cs
  let value ← readValue digits
  let shown := text.toList.dropWhile fun c => Printing.isBlank c || c = '+'
  let isPlain : Bool := !shown.any ['x', 'X'].contains && value.isSome
  let (width, places) : Int × Option Nat :=
    if isPlain then ((extent shown).1, some (extent shown).2)
    else (0, if shown.contains '.' || shown.contains 'p' then none else some 0)
  return ⟨value.map fun q => if negative then -q else q, negative, width, places⟩

/-- How the numbers of a sequence are written. -/
structure Layout where
  before : String
  form : Form
  letter : Char
  after : String

/-- A number as it is written. -/
def Layout.text (l : Layout) (negative : Bool) (q : Rat) : String :=
  l.before ++ l.form.fraction l.letter negative ⟨q.num.natAbs, q.den⟩ ++ l.after

/-- The layout with as many places as the numbers have. -/
def Layout.standard (equal : Bool) (first step last : Operand) : Layout :=
  match first.places, step.places, last.places with
  | some p, some q, some r =>
      let places := max p q
      let firstWidth := first.width + (places - p : Int) + (if p = 0 && places != 0 then 1 else 0)
      let lastWidth := last.width + (places - r : Int)
        + (if r != 0 && places = 0 then -1 else if r = 0 && places != 0 then 1 else 0)
      let width := if equal then (max firstWidth lastWidth).toNat else 0
      ⟨"", { Form.plain with zeros := equal, width := width, precision := some places }, 'f', ""⟩
  | _, _, _ => ⟨"", .plain, 'g', ""⟩

/-- The text up to a directive, and the directive; two percent signs stand for one. -/
def plainText : Nat → List Char → List Char × List Char
  | 0, cs => ([], cs)
  | _, [] => ([], [])
  | fuel + 1, '%' :: '%' :: cs =>
      let (text, rest) := plainText fuel cs
      ('%' :: text, rest)
  | fuel + 1, c :: cs =>
      if c = '%' then ([], c :: cs)
      else
        let (text, rest) := plainText fuel cs
        (c :: text, rest)

/-- The layout of a format. -/
def Layout.ofFormat (format : String) : Except String Layout :=
  let fail (what : String) : Except String Layout := .error ("format " ++ inQuotes format ++ " " ++ what)
  let (before, rest) := plainText (format.length + 1) format.toList
  match rest.drop 1 with
  | cs =>
      if rest.isEmpty then fail "has no % directive"
      else
        let flags := cs.takeWhile ['-', '+', '#', '0', ' ', '\''].contains
        let cs := cs.drop flags.length
        let width := cs.takeWhile Char.isDigit
        let (precision, cs) : Option Nat × List Char := match cs.drop width.length with
          | '.' :: cs =>
              let ds := cs.takeWhile Char.isDigit
              (some (Sum.ofDigits 10 ds), cs.drop ds.length)
          | cs => (none, cs)
        let cs := if cs.head? = some 'L' then cs.drop 1 else cs
        match cs with
        | [] => fail "ends in %"
        | letter :: cs =>
            if ! ['e', 'f', 'g', 'a', 'E', 'F', 'G', 'A'].contains letter then
              fail ("has unknown %" ++ String.singleton letter ++ " directive")
            else
              let (after, rest) := plainText (cs.length + 1) cs
              if !rest.isEmpty then fail "has too many % directives"
              else
                let form : Form :=
                  ⟨flags.contains '-', flags.contains '+', flags.contains ' ', flags.contains '#',
                    flags.contains '0', Sum.ofDigits 10 width, precision⟩
                .ok ⟨String.ofList before, form, letter, String.ofList after⟩

/-- How many numbers there are up to a bound. -/
def count (first step last : Rat) : Nat :=
  if (0 < step && last < first) || (step < 0 && first < last) then 0
  else ((last - first) / step).floor.toNat + 1

/-- Whether the number after the last one is shown too, because it is written like
    the bound. -/
def Layout.goesOn (l : Layout) (previous next last : Rat) : Bool :=
  let text (q : Rat) : String := { l with before := "", after := "" }.text (q < 0) q
  match Operand.ofText (text next) with
  | .ok o => o.value = some last && text previous != text next
  | .error _ => false

/-- How many numbers are written at once. -/
def chunk : Nat := 4096

/-- Writes numbers from one on, at most so many if there is a bound. -/
def writeFrom (number : Nat → String) (joint : String) : Nat → Nat → Option Nat → Step (Except FileError Unit)
  | 0, _, _ => return .ok ()
  | fuel + 1, start, most => do
      let size := match most with
        | some n => min chunk (n - start)
        | none => chunk
      if size = 0 then return .ok ()
      let text := String.join ((List.range' start size).map fun i =>
        (if i = 0 then "" else joint) ++ number i)
      match ← write 1 text with
      | .ok () => writeFrom number joint fuel (start + size) most
      | .error e => return .error e

end Sequence

open Sequence in
/-- Writes a sequence of numbers. -/
def seq : Utility := fun args => do
  let isNegative (arg : String) : Bool := match arg.toList with
    | '-' :: c :: _ => c = '.' || c.isDigit
    | _ => false
  let rec optionCount : Nat → List String → Nat
    | 0, _ | _, [] => 0
    | fuel + 1, arg :: rest =>
        if isNegative arg || !arg.startsWith "-" || arg = "-" then 0
        else if arg = "--" then 1
        else if ["-s", "-f", "-ws", "-wf", "--separator", "--format"].contains arg then
          1 + (rest.take 1).length + optionCount fuel (rest.drop 1)
        else 1 + optionCount fuel rest
  let n := optionCount (args.length + 1) args
  withArgs "seq" 1 (.of "w" "sf" [("equal-width", 'w'), ("format", 'f'), ("separator", 's')]) (args.take n)
    fun a => do
    let operands := args.drop n
    let refuse (e : Refusal) (text : String) : Step Nat := refuseUse "seq" ((match e with
      | .noNumber => "invalid floating point argument: "
      | .undefined => "invalid 'not-a-number' argument: ") ++ inQuotes text) 1
    match operands with
    | [] => missingOperand "seq" 1
    | _ :: _ :: _ :: extra :: _ => extraOperand "seq" extra 1
    | operands => do
        let format := (a.value? 'f').map Layout.ofFormat
        match format with
        | some (.error message) => do
            warn "seq" message
            return 1
        | _ => pure ()
        if a.has 'f' && a.has 'w' then
          return ← refuseUse "seq" "format string may not be specified when printing equal width strings" 1
        let mut numbers : Array Operand := #[]
        for operand in operands do
          match Operand.ofText operand with
          | .error e => return ← refuse e operand
          | .ok o =>
              numbers := numbers.push o
              if numbers.size = 2 && operands.length = 3 && o.value = some 0 then
                return ← refuseUse "seq" ("invalid Zero increment value: " ++ inQuotes operand) 1
        let one : Operand := ⟨some 1, false, 1, some 0⟩
        let (first, step, last) := match numbers.toList with
          | [first, step, last] => (first, step, last)
          | [first, last] => (first, one, last)
          | ns => (one, one, ns.headD one)
        let layout := match format with
          | some (.ok layout) => layout
          | _ => Layout.standard (a.has 'w') first step last
        match first.value, step.value with
        | some x, some d => do
            let number (i : Nat) : String :=
              let q := x + i * d
              layout.text (if i = 0 then first.negative else q < 0) q
            let size : Option Nat := match last.value with
              | some y => some (count x d y)
              | none => if last.negative = (d < 0) then none else some 0
            let size : Option Nat := match size, last.value with
              | some n, some y =>
                  let isMore := 0 < n && layout.goesOn (x + (n - 1 : Nat) * d) (x + n * d) y
                  some (if isMore then n + 1 else n)
              | size, _ => size
            if size = some 0 then return 0
            match ← writeFrom number ((a.value? 's').getD "\n") (size.getD (Nat.pow 2 30) / chunk + 1) 0 size with
            | .ok () => output "seq" "\n" 0
            | .error e => do
                warn "seq" ("write error: " ++ cause e)
                return 1
        | _, _ => return 0

end GuardedCnf.Utility
