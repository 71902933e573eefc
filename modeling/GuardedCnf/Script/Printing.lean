import GuardedCnf.Script.Places
import GuardedCnf.Script.Quoting
import GuardedCnf.Text.Octets
/-! # Printing — escapes and formats

    A format is a text with directives, each of which takes an argument.  It is
    used again as long as arguments are left.  Missing arguments are empty, or
    zero. -/

namespace GuardedCnf.Script.Printing

/-! ## Escapes. -/

/-- Whether a character is an octal digit. -/
def isOctal (c : Char) : Bool := '0' ≤ c && c ≤ '7'

/-- The character of at most so many octal digits. -/
def octal (most : Nat) (cs : List Char) : Char × List Char :=
  let ds := (cs.take most).takeWhile isOctal
  (Char.ofNat (Sum.ofDigits 8 ds % 256), cs.drop ds.length)

/-- The character of an escape, after its backslash. -/
def escaped? (cs : List Char) : Option (Char × List Char) :=
  match cs with
  | '\\' :: rest => some ('\\', rest)
  | 'a' :: rest => some ('\x07', rest)
  | 'b' :: rest => some ('\x08', rest)
  | 'f' :: rest => some ('\x0c', rest)
  | 'n' :: rest => some ('\n', rest)
  | 'r' :: rest => some ('\r', rest)
  | 't' :: rest => some ('\t', rest)
  | 'v' :: rest => some ('\x0b', rest)
  | c :: _ => if isOctal c then some (octal 3 cs) else none
  | [] => none

/-- The octets of an escape of the extended dialect, after its backslash. -/
def escapedMore? (cs : List Char) : Option (List Char × List Char) :=
  let hexadecimal (most : Nat) (cs : List Char) : List Char :=
    (cs.take most).takeWhile fun c => Sum.digitValue c < 16
  let octetsOf (code : Nat) : List Char := (Octets.ofText (String.singleton (Char.ofNat code))).toList
  match cs with
  | 'e' :: rest | 'E' :: rest => some (['\x1b'], rest)
  | 'x' :: rest =>
      let ds := hexadecimal 2 rest
      if ds.isEmpty then none
      else some ([Char.ofNat (Sum.ofDigits 16 ds)], rest.drop ds.length)
  | 'u' :: rest =>
      let ds := hexadecimal 4 rest
      if ds.isEmpty then none else some (octetsOf (Sum.ofDigits 16 ds), rest.drop ds.length)
  | 'U' :: rest =>
      let ds := hexadecimal 8 rest
      if ds.isEmpty then none else some (octetsOf (Sum.ofDigits 16 ds), rest.drop ds.length)
  | cs => (escaped? cs).map fun (c, rest) => ([c], rest)

/-- What is up to a single quote, with escapes, after those characters so far, and
    what comes after the quote; `none` if there is none. -/
def upToQuote : Nat → Array Char → List Char → Option (String × List Char)
  | 0, _, _ => none
  | _, _, [] => none
  | _, sofar, '\'' :: rest => some (String.ofList sofar.toList, rest)
  | fuel + 1, sofar, '\\' :: '\'' :: rest => upToQuote fuel (sofar.push '\'') rest
  | fuel + 1, sofar, '\\' :: '"' :: rest => upToQuote fuel (sofar.push '"') rest
  | fuel + 1, sofar, '\\' :: '?' :: rest => upToQuote fuel (sofar.push '?') rest
  | fuel + 1, sofar, '\\' :: rest =>
      match escapedMore? rest with
      | some (cs, rest) => upToQuote fuel (sofar ++ cs.toArray) rest
      | none => upToQuote fuel (sofar.push '\\') rest
  | fuel + 1, sofar, c :: rest => upToQuote fuel (sofar.push c) rest

/-- A text with the escapes of the extended dialect replaced, and whether it stops
    there; octal digits come after a zero, and without one only if `plain`. -/
def unescapeMore (plain : Bool) : Nat → Array Char → List Char → String × Bool
  | 0, sofar, _ => (String.ofList sofar.toList, false)
  | _, sofar, [] => (String.ofList sofar.toList, false)
  | _, sofar, '\\' :: 'c' :: _ => (String.ofList sofar.toList, true)
  | fuel + 1, sofar, '\\' :: '0' :: cs =>
      let (c, rest) := octal 3 cs
      unescapeMore plain fuel (sofar.push c) rest
  | fuel + 1, sofar, '\\' :: cs =>
      match if !plain && cs.head?.any isOctal then none else escapedMore? cs with
      | some (octets, rest) => unescapeMore plain fuel (sofar ++ octets.toArray) rest
      | none => unescapeMore plain fuel (sofar.push '\\') cs
  | fuel + 1, sofar, c :: cs => unescapeMore plain fuel (sofar.push c) cs

/-- A text with the escapes of the extended dialect replaced, and whether it stops
    there. -/
def unescapedMore (plain : Bool) (text : String) : String × Bool :=
  unescapeMore plain (text.length + 1) #[] text.toList

/-- A text with its escapes replaced, and whether it stops there. -/
def unescape : Nat → Array Char → List Char → String × Bool
  | 0, sofar, _ => (String.ofList sofar.toList, false)
  | _, sofar, [] => (String.ofList sofar.toList, false)
  | _, sofar, '\\' :: 'c' :: _ => (String.ofList sofar.toList, true)
  | fuel + 1, sofar, '\\' :: '0' :: cs =>
      let (c, rest) := octal 3 cs
      unescape fuel (sofar.push c) rest
  | fuel + 1, sofar, '\\' :: cs =>
      match escaped? cs with
      | some (c, rest) => unescape fuel (sofar.push c) rest
      | none => unescape fuel (sofar.push '\\') cs
  | fuel + 1, sofar, c :: cs => unescape fuel (sofar.push c) cs

/-- A text with its escapes replaced, and whether it stops there. -/
def unescaped (text : String) : String × Bool :=
  unescape (text.length + 1) #[] text.toList

/-! ## Numbers. -/

/-- Whether a character is a blank of the system. -/
def isBlank (c : Char) : Bool := c = ' ' || ('\t' ≤ c && c ≤ '\r')

/-- An integer at the beginning of a text, if there is one, and the rest. -/
def leadingInteger (cs : List Char) : Option Int × List Char :=
  let ds := cs.dropWhile isBlank
  let (negative, ds) := match ds with
    | '-' :: ds => (true, ds)
    | '+' :: ds => (false, ds)
    | ds => (false, ds)
  if ds.head?.any Char.isDigit then
    let (n, rest) := Sum.readNatural ds
    (some (if negative then -(n : Int) else n), rest)
  else (none, cs)

/-- A sign, and what follows it. -/
def leadingSign : List Char → Bool × List Char
  | '-' :: cs => (true, cs)
  | '+' :: cs => (false, cs)
  | cs => (false, cs)

/-- The digits of a number before and after its point, and what follows them. -/
def leadingDigits (isDigit : Char → Bool) (cs : List Char) : List Char × List Char × List Char :=
  let whole := cs.takeWhile isDigit
  let rest := cs.drop whole.length
  match rest with
  | '.' :: more =>
      let part := more.takeWhile isDigit
      if whole.isEmpty && part.isEmpty then ([], [], cs) else (whole, part, more.drop part.length)
  | _ => (whole, [], rest)

/-- The exponent after a letter, and what follows it. -/
def leadingExponent (letter : Char) (cs : List Char) : Int × List Char :=
  match cs with
  | c :: more =>
      let (negative, digits) := leadingSign more
      let exponent := digits.takeWhile Char.isDigit
      if c.toLower != letter || exponent.isEmpty then (0, cs)
      else
        let n : Int := Sum.ofDigits 10 exponent
        (if negative then -n else n, digits.drop exponent.length)
  | [] => (0, [])

/-- The decimal number that a text without a sign begins with. -/
def leadingDecimal (cs : List Char) : Option Float × List Char :=
  match leadingDigits Char.isDigit cs with
  | ([], [], _) => (none, cs)
  | (whole, part, rest) =>
      let (e, rest) := leadingExponent 'e' rest
      let m := Sum.ofDigits 10 (whole ++ part)
      let e := e - (part.length : Int)
      (some (if m = 0 then 0.0 else Float.ofScientific m (e < 0) e.natAbs), rest)

/-- Whether a character is a hexadecimal digit. -/
def isHex (c : Char) : Bool := c.isDigit || ('a' ≤ c.toLower && c.toLower ≤ 'f')

/-- The number that a text without a sign begins with: a decimal or hexadecimal
    one, an infinite one or none at all. -/
def leadingPositive (cs : List Char) : Option Float × List Char :=
  let begins (word : String) : Bool := (cs.take word.length).map Char.toLower = word.toList
  if begins "infinity" then (some (1.0 / 0.0), cs.drop 8)
  else if begins "inf" then (some (1.0 / 0.0), cs.drop 3)
  else if begins "nan" then
    let rest := cs.drop 3
    let inner := rest.takeWhile fun c => c.isAlphanum || c = '_' || c = '('
    let isCall := rest.head? = some '(' && (rest.drop inner.length).head? = some ')'
    (some (0.0 / 0.0), if isCall then rest.drop (inner.length + 1) else rest)
  else if begins "0x" then
    match leadingDigits isHex (cs.drop 2) with
    | ([], [], _) => leadingDecimal cs
    | (whole, part, rest) =>
        let (e, rest) := leadingExponent 'p' rest
        let m := Sum.ofDigits 16 (whole ++ part)
        (some ((Float.ofNat m).scaleB (e - 4 * (part.length : Int))), rest)
  else leadingDecimal cs

/-- The number that a text begins with after blanks, and what follows it. -/
def leadingFloat (cs : List Char) : Option Float × List Char :=
  let (negative, digits) := leadingSign (cs.dropWhile isBlank)
  match leadingPositive digits with
  | (some x, rest) => (some (if negative then -x else x), rest)
  | (none, _) => (none, cs)

/-! ## Formats. -/

/-- What is wrong with a format or an argument. -/
inductive Failure where
  | noNumber (text : String)
  | halfNumber (text : String)
  | outOfRange (text : String)
  /-- The format has a directive that does not exist. -/
  | directive (text : String)
  /-- The format ends within a directive. -/
  | unfinished

/-- How far a format was filled. -/
structure Filling where
  /-- Whether the format is in the extended dialect. -/
  extended : Bool
  args : List String
  output : Array Char
  failures : List Failure
  /-- Whether an argument or a failure ends the output. -/
  stopped : Bool

/-- A filling of a format. -/
abbrev Fill := StateM Filling

/-- Takes the next argument. -/
def nextArg : Fill (Option String) := modifyGet fun f => (f.args.head?, { f with args := f.args.drop 1 })

/-- Adds to the output. -/
def add (text : String) : Fill Unit := modify fun f => { f with output := f.output ++ text.toList.toArray }

/-- Notes a failure. -/
def note (e : Failure) : Fill Unit := modify fun f => { f with failures := f.failures ++ [e] }

/-- Takes an argument that is an integer. -/
def integerArg (signed : Bool) : Fill Int := do
  match ← nextArg with
  | none => return 0
  | some text =>
      match text.toList with
      | '"' :: cs | '\'' :: cs => return ((cs.headD '\x00').toNat : Int)
      | cs => do
          match leadingInteger cs with
          | (none, rest) => do
              if !rest.isEmpty then note (.noNumber text)
              return 0
          | (some n, rest) => do
              if !rest.isEmpty then note (.halfNumber text)
              let low : Int := if signed then -(Sum.largest + 1) else -(2 * Sum.largest + 1)
              let high : Int := if signed then Sum.largest else 2 * Sum.largest + 1
              if n < low || high < n then
                note (.outOfRange text)
                return if signed then max low (min high n) else high
              return n

/-- Takes an argument that is a number with places. -/
def floatArg : Fill Float := do
  match ← nextArg with
  | none => return 0.0
  | some text =>
      match text.toList with
      | '"' :: cs | '\'' :: cs => return (cs.headD '\x00').toNat.toFloat
      | cs => do
          match leadingFloat cs with
          | (none, rest) => do
              if !rest.isEmpty then note (.noNumber text)
              return 0.0
          | (some x, rest) => do
              if !rest.isEmpty then note (.halfNumber text)
              return x

/-- Reads a number in a directive, or takes it from an argument. -/
def readSize (cs : List Char) : Fill (Int × List Char) := do
  match cs with
  | '*' :: rest => return (← integerArg true, rest)
  | _ =>
      let ds := cs.takeWhile Char.isDigit
      return ((Sum.ofDigits 10 ds : Nat), cs.drop ds.length)

/-- Reads a directive up to its letter. -/
def readForm (cs : List Char) : Fill (Form × List Char) := do
  let flags := cs.takeWhile ['#', '-', '+', ' ', '0'].contains
  let (width, cs) ← readSize (cs.drop flags.length)
  let (precision, cs) ← match cs with
    | '.' :: more => do
        let (n, rest) ← readSize more
        pure (if 0 ≤ n then some n.toNat else none, rest)
    | _ => pure (none, cs)
  let form : Form :=
    { left := flags.contains '-' || width < 0
      plus := flags.contains '+'
      space := flags.contains ' '
      full := flags.contains '#'
      zeros := flags.contains '0'
      width := width.natAbs
      precision := precision }
  return (form, cs)

/-- Writes an argument by the letter of a directive; `false` if there is no such
    letter. -/
def fillOne (form : Form) (letter : Char) : Fill Bool := do
  match letter with
  | 'b' => do
      let arg := (← nextArg).getD ""
      let (text, stops) := if (← get).extended then unescapedMore true arg else unescaped arg
      add (form.text text)
      if stops then modify fun f => { f with stopped := true }
  | 'c' => add (form.text (String.ofList (((← nextArg).getD "").toList.take 1)))
  | 's' => add (form.text ((← nextArg).getD ""))
  | 'd' | 'i' => add (form.integer (← integerArg true))
  | 'o' | 'u' | 'x' | 'X' => add (form.unsigned letter ((← integerArg false).emod Sum.size).toNat)
  | 'e' | 'E' | 'f' | 'F' | 'g' | 'G' => add (form.float letter (← floatArg))
  | 'q' => do
      if !(← get).extended then return false
      add (form.text (Quoting.withBackslashes ((← nextArg).getD "")))
  | _ => return false
  return true

/-- Fills a format once. -/
def fillFormat : Nat → List Char → Fill Unit
  | 0, _ => return ()
  | _, [] => return ()
  | fuel + 1, c :: cs => do
      if (← get).stopped then return ()
      match c, cs with
      | '\\', cs =>
          match if (← get).extended then escapedMore? cs else (escaped? cs).map fun (d, rest) => ([d], rest) with
          | some (octets, rest) => do
              add (String.ofList octets)
              fillFormat fuel rest
          | none => do
              add "\\"
              fillFormat fuel cs
      | '%', '%' :: rest => do
          add "%"
          fillFormat fuel rest
      | '%', cs => do
          let (form, rest) ← readForm cs
          match rest with
          | [] => do
              note .unfinished
              modify fun f => { f with stopped := true }
          | letter :: rest =>
              if ← fillOne form letter then fillFormat fuel rest
              else do
                note (.directive (String.ofList ('%' :: cs.take (cs.length - rest.length))))
                modify fun f => { f with stopped := true }
      | _, _ => do
          add (String.singleton c)
          fillFormat fuel cs

/-- Fills a format as long as arguments are left. -/
def fillAgain (format : List Char) : Nat → Fill Unit
  | 0 => return ()
  | fuel + 1 => do
      let before := (← get).args.length
      fillFormat (format.length + 1) format
      let f ← get
      if !f.stopped && !f.args.isEmpty && f.args.length < before then fillAgain format fuel

/-- A format filled with arguments. -/
def filled (extended : Bool) (format : String) (args : List String) : Filling :=
  ((fillAgain format.toList (args.length + 1)).run ⟨extended, args, #[], [], false⟩).2

/-- The output of a filling. -/
def Filling.text (f : Filling) : String := String.ofList f.output.toList

/-- Whether a failure ends the command. -/
def Failure.isFatal : Failure → Bool
  | .directive _ | .unfinished => true
  | _ => false

end GuardedCnf.Script.Printing
