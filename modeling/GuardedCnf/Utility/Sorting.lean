import GuardedCnf.Script.Printing
import GuardedCnf.Utility.Basic
import GuardedCnf.Utility.Version
/-! # Sorting lines

    Lines are compared by keys, which are parts of them, and at last as they are.
    What a key compares may be a text, a number, a month or a version. -/

namespace GuardedCnf.Utility

open Script

namespace Sorting

/-! ## Keys. -/

/-- The characters that do not count in a comparison. -/
inductive Ignored where
  | nothing
  /-- All but letters, digits and blanks. -/
  | marks
  /-- Those that cannot be printed. -/
  | controls
deriving BEq

/-- How the parts of lines are compared. -/
structure Order where
  numeric : Bool
  general : Bool
  human : Bool
  month : Bool
  version : Bool
  random : Bool
  ignored : Ignored
  caseless : Bool
  reverse : Bool
  /-- Whether blanks are skipped where a part begins. -/
  startBlanks : Bool
  /-- Whether blanks are skipped before characters are counted up to its end. -/
  endBlanks : Bool

/-- The order of bytes. -/
def Order.plain : Order :=
  ⟨false, false, false, false, false, false, .nothing, false, false, false, false⟩

/-- Whether an order is that of bytes, maybe the other way round. -/
def Order.isPlain (o : Order) : Bool :=
  !(o.numeric || o.general || o.human || o.month || o.version || o.random || o.ignored != .nothing
    || o.caseless || o.startBlanks || o.endBlanks)

/-- An order after a letter; `atStart` and `atEnd` tell which blanks the letter for
    blanks is about. -/
def Order.add (o : Order) (atStart atEnd : Bool) (letter : Char) : Option Order :=
  match letter with
  | 'b' => some { o with startBlanks := o.startBlanks || atStart, endBlanks := o.endBlanks || atEnd }
  | 'd' => some { o with ignored := .marks }
  | 'f' => some { o with caseless := true }
  | 'g' => some { o with general := true }
  | 'h' => some { o with human := true }
  | 'i' => some { o with ignored := if o.ignored == .marks then .marks else .controls }
  | 'M' => some { o with month := true }
  | 'n' => some { o with numeric := true }
  | 'R' => some { o with random := true }
  | 'r' => some { o with reverse := true }
  | 'V' => some { o with version := true }
  | _ => none

/-- The letters of orders that exclude each other, if there are such. -/
def Order.conflict? (o : Order) : Option String :=
  let others := o.version || o.random || o.ignored != .nothing
  let kinds := [o.numeric, o.general, o.human, o.month, others].filter id
  if kinds.length ≤ 1 then none
  else
    let letters : List (Bool × String) :=
      [(o.ignored == .marks, "d"), (o.caseless, "f"), (o.general, "g"), (o.human, "h"),
        (o.ignored == .controls, "i"), (o.month, "M"), (o.numeric, "n"), (o.random, "R"), (o.version, "V")]
    some (String.join ((letters.filter (·.1)).map (·.2)))

/-- A part of lines that is compared. -/
structure Key where
  /-- The fields and characters before its beginning. -/
  firstField : Nat
  firstChar : Nat
  /-- The field in which it ends, and how many of its characters belong to it; all of
      them if there are 0. -/
  last : Option (Nat × Nat)
  order : Order

/-- Reads a number that has to be there. -/
def readNumber (wording : String) (cs : List Char) : Except String (Nat × List Char) :=
  let digits := (cs.dropWhile Printing.isBlank)
  let ds := (if digits.head? = some '+' then digits.drop 1 else digits).takeWhile Char.isDigit
  if ds.isEmpty then .error (wording ++ ": invalid count at start of " ++ inQuotes (String.ofList cs))
  else
    let start := cs.length - digits.length + (if digits.head? = some '+' then 1 else 0)
    .ok (min (Sum.ofDigits 10 ds) (Nat.pow 2 64), cs.drop (start + ds.length))

/-- Reads the letters of an order. -/
def readLetters (atStart atEnd : Bool) (o : Order) : List Char → Order × List Char
  | [] => (o, [])
  | c :: cs =>
      match o.add atStart atEnd c with
      | some o => readLetters atStart atEnd o cs
      | none => (o, c :: cs)

/-- Reads a key. -/
def Key.ofText (text : String) : Except String Key := do
  let bad (what : String) : Except String Key :=
    .error (what ++ ": invalid field specification " ++ inQuotes text)
  let (field, rest) ← readNumber "invalid number at field start" text.toList
  if field = 0 then bad "field number is zero"
  else
    let (char, rest) ← match rest with
      | '.' :: rest => readNumber "invalid number after '.'" rest
      | rest => pure (1, rest)
    if char = 0 then bad "character offset is zero"
    else
      let (order, rest) := readLetters true false .plain rest
      match rest with
      | ',' :: rest => do
          let (lastField, rest) ← readNumber "invalid number after ','" rest
          if lastField = 0 then bad "field number is zero"
          else
            let (lastChar, rest) ← match rest with
              | '.' :: rest => readNumber "invalid number after '.'" rest
              | rest => pure (0, rest)
            let (order, rest) := readLetters false true order rest
            if rest.isEmpty then return ⟨field - 1, char - 1, some (lastField - 1, lastChar), order⟩
            else bad "stray character in field spec"
      | [] => return ⟨field - 1, char - 1, none, order⟩
      | _ => bad "stray character in field spec"

/-- Reads a key in the old spelling, where fields count from 0. -/
def Key.ofOldText (start : String) (stop : Option String) : Option Key := do
  let read (cs : List Char) : Option (Nat × Nat × List Char) :=
    let ds := cs.takeWhile Char.isDigit
    if ds.isEmpty then none
    else match cs.drop ds.length with
      | '.' :: rest =>
          let es := rest.takeWhile Char.isDigit
          if es.isEmpty then none else some (Sum.ofDigits 10 ds, Sum.ofDigits 10 es, rest.drop es.length)
      | rest => some (Sum.ofDigits 10 ds, 0, rest)
  let (field, char, rest) ← read (start.toList.drop 1)
  let (order, rest) := readLetters true false .plain rest
  if !rest.isEmpty then none
  else match stop with
    | none => some ⟨field, char, none, order⟩
    | some stop => do
        let (lastField, lastChar, rest) ← read (stop.toList.drop 1)
        let (order, _) := readLetters false true order rest
        some ⟨field, char, some (if lastChar = 0 then lastField - 1 else lastField, lastChar), order⟩

/-! ## Parts of lines. -/

/-- Whether a character parts fields. -/
def isBlank (c : Char) : Bool := c = ' ' || c = '\t' || c = '\n'

/-- What comes after some fields; the last separator stays if `keeps`. -/
def dropFields (separator : Option Char) (keeps : Bool) : Nat → List Char → List Char
  | 0, cs => cs
  | _, [] => []
  | n + 1, cs =>
      match separator with
      | some c =>
          let rest := cs.dropWhile (· != c)
          dropFields separator keeps n (if keeps && n = 0 then rest else rest.drop 1)
      | none => dropFields separator keeps n ((cs.dropWhile isBlank).dropWhile (!isBlank ·))

/-- The part of a line that a key compares. -/
def Key.part (k : Key) (separator : Option Char) (line : List Char) : List Char :=
  let start := dropFields separator false (min k.firstField line.length) line
  let start := (if k.order.startBlanks then start.dropWhile isBlank else start).drop k.firstChar
  let rest := match k.last with
    | none => []
    | some (field, 0) => dropFields separator true (min (field + 1) (line.length + 1)) line
    | some (field, count) =>
        let rest := dropFields separator false (min field line.length) line
        (if k.order.endBlanks then rest.dropWhile isBlank else rest).drop count
  start.take (start.length - rest.length)

/-! ## Values. -/

/-- A number with places: its sign, and its digits before and after the point
    without those that do not count. -/
structure Number where
  negative : Bool
  whole : List Char
  part : List Char

/-- What is compared of a part. -/
inductive Value where
  | text (cs : List Char)
  /-- A number, and how large the letter after it says that it is. -/
  | number (magnitude : Int) (n : Number)
  /-- A number of any form, if there is one. -/
  | float (x : Option Float)
  | month (n : Nat)
  | version (cs : List Char)

/-- The number at the beginning of a text, and what follows it. -/
def readPlaces (cs : List Char) : Number × List Char :=
  let (negative, cs) := match cs with
    | '-' :: cs => (true, cs)
    | cs => (false, cs)
  let whole := cs.takeWhile Char.isDigit
  let rest := cs.drop whole.length
  let (part, rest) := match rest with
    | '.' :: more =>
        let part := more.takeWhile Char.isDigit
        (part, more.drop part.length)
    | rest => ([], rest)
  let part := (part.reverse.dropWhile (· = '0')).reverse
  let whole := whole.dropWhile (· = '0')
  (⟨negative && !(whole.isEmpty && part.isEmpty), whole, part⟩, rest)

/-- Compares two numbers. -/
def Number.compare (a b : Number) : Ordering :=
  let size : Ordering :=
    ((Ord.compare a.whole.length b.whole.length).then (Ord.compare a.whole b.whole)).then
      (Ord.compare a.part b.part)
  match a.negative, b.negative with
  | false, false => size
  | true, true => size.swap
  | true, false => .lt
  | false, true => .gt

/-- How large the letter after a number says that it is. -/
def magnitude (n : Number) (rest : List Char) : Int :=
  if n.whole.isEmpty && n.part.isEmpty then 0
  else
    let letter := rest.headD ' '
    let size : Int := if letter = 'k' then 1 else
      (['K', 'M', 'G', 'T', 'P', 'E', 'Z', 'Y'].idxOf? letter).elim 0 fun i => i + 1
    if n.negative then -size else size

/-- The place of a month in the year, from 1 on; 0 if it is none. -/
def monthOf (cs : List Char) : Nat :=
  let name := String.ofList (((cs.dropWhile isBlank).take 3).map Char.toUpper)
  (["JAN", "FEB", "MAR", "APR", "MAY", "JUN", "JUL", "AUG", "SEP", "OCT", "NOV", "DEC"].idxOf? name).elim 0
    (· + 1)

/-- A text without the characters that do not count, in capitals if case does not
    matter. -/
def Order.filtered (o : Order) (cs : List Char) : List Char :=
  let cs := match o.ignored with
    | .nothing => cs
    | .marks => cs.filter fun c => c.isAlphanum || c = ' ' || c = '\t'
    | .controls => cs.filter fun c => ' ' ≤ c && c ≤ '\x7e'
  if o.caseless then cs.map Char.toUpper else cs

/-- What is compared of a part. -/
def Order.value (o : Order) (part : List Char) : Value :=
  let cs := o.filtered part
  let digits := cs.dropWhile isBlank
  if o.numeric then .number 0 (readPlaces digits).1
  else if o.general then .float (Printing.leadingFloat cs).1
  else if o.human then
    let (n, rest) := readPlaces digits
    .number (magnitude n rest) n
  else if o.month then .month (monthOf cs)
  else if o.version then .version cs
  else .text cs

/-- Compares numbers of any form: texts that are none come first, then values that
    are no numbers. -/
def compareFloats (a b : Option Float) : Ordering :=
  match a, b with
  | none, none => .eq
  | none, some _ => .lt
  | some _, none => .gt
  | some x, some y =>
      if x < y then .lt
      else if y < x then .gt
      else if x == y then .eq
      else if y == y then .lt
      else if x == x then .gt
      else .eq

/-- Compares two values. -/
def Value.compare : Value → Value → Ordering
  | .text a, .text b => Ord.compare a b
  | .number m a, .number n b => (Ord.compare m n).then (a.compare b)
  | .float a, .float b => compareFloats a b
  | .month a, .month b => Ord.compare a b
  | .version a, .version b => Version.compareNames a b
  | _, _ => .eq

/-! ## Lines. -/

/-- A line with the values of its keys. -/
structure Item where
  line : List Char
  values : List Value

/-- How lines are compared. -/
structure Rule where
  keys : List Key
  separator : Option Char
  reverse : Bool
  /-- Whether lines with the same keys are the same. -/
  keysOnly : Bool

/-- A line that can be compared. -/
def Rule.item (r : Rule) (line : List Char) : Item :=
  ⟨line, r.keys.map fun k => k.order.value (k.part r.separator line)⟩

/-- Compares two lines by their keys. -/
def Rule.compareKeys (r : Rule) (a b : Item) : Ordering :=
  (r.keys.zip (a.values.zip b.values)).foldl (fun result (k, x, y) =>
    result.then (if k.order.reverse then (x.compare y).swap else x.compare y)) .eq

/-- Compares two lines. -/
def Rule.compare (r : Rule) (a b : Item) : Ordering :=
  let last := if r.reverse then Ord.compare b.line a.line else Ord.compare a.line b.line
  if r.keys.isEmpty then last
  else
    let result := r.compareKeys a b
    if r.keysOnly then result else result.then last

/-- The lines of a text, given how they end. -/
def linesTo (lineEnd : Char) (text : String) : List (List Char) :=
  let lines := text.splitOn (String.singleton lineEnd)
  (if lines.getLast? = some "" then lines.dropLast else lines).map String.toList

/-- The first pair of lines that is out of order, by the place of the second one. -/
def Rule.disorder? (r : Rule) (strict : Bool) : Nat → List Item → Option (Nat × Item)
  | n, a :: b :: rest =>
      let order := r.compare a b
      if order == .gt || (strict && order == .eq) then some (n + 2, b) else r.disorder? strict (n + 1) (b :: rest)
  | _, _ => none

/-! ## Options. -/

/-- The options. -/
def accepted : Accepted :=
  ⟨"bcCdfghimMnrRsuVz\x01\x02", "koStT\x03\x04\x05\x06\x0b", [("ignore-leading-blanks", 'b'), ("check", '\x01'),
    ("compress-program", '\x03'), ("debug", '\x02'), ("dictionary-order", 'd'), ("ignore-case", 'f'),
    ("general-numeric-sort", 'g'), ("ignore-nonprinting", 'i'), ("key", 'k'), ("merge", 'm'),
    ("month-sort", 'M'), ("numeric-sort", 'n'), ("human-numeric-sort", 'h'), ("version-sort", 'V'),
    ("random-sort", 'R'), ("random-source", '\x04'), ("sort", '\x05'), ("output", 'o'), ("reverse", 'r'),
    ("stable", 's'), ("batch-size", '\x06'), ("buffer-size", 'S'), ("field-separator", 't'),
    ("temporary-directory", 'T'), ("unique", 'u'), ("zero-terminated", 'z'), ("parallel", '\x0b')], "\x01"⟩

/-- The words for orders, with their letters. -/
def orderWords : List (List String × Char) :=
  [(["general-numeric"], 'g'), (["human-numeric"], 'h'), (["month"], 'M'), (["numeric"], 'n'),
    (["random"], 'R'), (["version"], 'V')]

/-- The words for checks, with their letters. -/
def checkWords : List (List String × Char) := [(["quiet", "silent"], 'C'), (["diagnose-first"], 'c')]

/-- Options with letters instead of words, or why a word is refused. -/
def spelled (options : List (Char × String)) : Except String (List (Char × String)) :=
  options.mapM fun (letter, value) =>
    match letter with
    | '\x05' => (chooseWord "--sort" orderWords value).map (·, "")
    | '\x01' => if value.isEmpty then .ok ('c', "") else (chooseWord "--check" checkWords value).map (·, "")
    | _ => .ok (letter, value)

/-- The separator of fields that options ask for. -/
def readSeparator (values : List String) : Except String (Option Char) := do
  let read (text : String) : Except String Char :=
    match text.toList with
    | [] => .error "empty tab"
    | [c] => .ok c
    | ['\\', '0'] => .ok '\x00'
    | _ => .error ("multi-character tab " ++ inQuotes text)
  let cs ← values.mapM read
  if cs.any (· != cs.headD ' ') then throw "incompatible tabs" else return cs.head?

/-- The old spellings of keys among operands, and the other operands. -/
def oldKeys : List String → List Key × List String
  | [] => ([], [])
  | operand :: rest =>
      let (keys, others) := oldKeys rest
      if operand.startsWith "+" then
        match Key.ofOldText operand none with
        | some k => (k :: keys, others)
        | none => (keys, operand :: others)
      else (keys, operand :: others)

/-- What options ask for: how to compare, or why not. -/
def Rule.ofArgs (a : Args) (more : List Key) : Except String Rule := do
  let separator ← readSeparator (a.values 't')
  let general := (a.options.map (·.1)).foldl (fun (o : Order) c => (o.add true true c).getD o) .plain
  let keys ← (a.values 'k').mapM Key.ofText
  let keys := (keys ++ more).map fun k =>
    if k.order.isPlain && !k.order.reverse then { k with order := general } else k
  let keys := if keys.isEmpty && !general.isPlain then [⟨0, 0, none, general⟩] else keys
  match keys.findSome? fun k => k.order.conflict? with
  | some letters => throw ("options '-" ++ letters ++ "' are incompatible")
  | none => return ⟨keys, separator, general.reverse, a.has 's' || a.has 'u'⟩

end Sorting

open Sorting in
/-- Sorts lines. -/
def sort : Utility := fun args =>
  withArgs "sort" 2 accepted args fun a => do
    let fail (message : String) : Step Nat := do
      warn "sort" message
      return 2
    match spelled a.options with
    | .error message => refuseUse "sort" message 2
    | .ok options => do
        let (more, operands) := oldKeys a.operands
        let a : Args := ⟨options, operands⟩
        match Rule.ofArgs a more with
        | .error message => fail message
        | .ok r => do
            let checks := a.has 'c' || a.has 'C'
            let conflict := if a.has 'c' && a.has 'C' then some "cC"
              else if checks && a.has 'o' then some (if a.has 'c' then "co" else "Co") else none
            match conflict, checks, operands with
            | some letters, _, _ => fail ("options '-" ++ letters ++ "' are incompatible")
            | none, true, _ :: extra :: _ =>
                fail ("extra operand " ++ inQuotes extra ++ " not allowed with -" ++ (if a.has 'c' then "c" else "C"))
            | _, _, _ => do
                let lineEnd := if a.has 'z' then '\x00' else '\n'
                let mut parts : Array (List Item) := #[]
                for operand in (if operands.isEmpty then ["-"] else operands) do
                  match ← input operand with
                  | .ok text => parts := parts.push ((linesTo lineEnd text).map r.item)
                  | .error e =>
                      return ← fail ((if e matches .isDirectory then "read failed: " else "cannot read: ")
                        ++ plainWording operand e)
                if checks then
                  match r.disorder? (a.has 'u') 0 (parts.toList.flatten) with
                  | none => return 0
                  | some (n, item) => do
                      if a.has 'c' then
                        warn "sort" (operands.headD "-" ++ ":" ++ toString n ++ ": disorder: "
                          ++ String.ofList item.line)
                      return 1
                else
                  let isBefore (x y : Item) : Bool := r.compare x y != .gt
                  let sorted :=
                    if a.has 'm' then parts.toList.foldl (fun xs ys => List.merge xs ys isBefore) []
                    else parts.toList.flatten.mergeSort isBefore
                  let kept :=
                    if a.has 'u' then (sorted.splitBy fun x y => r.compare x y == .eq).filterMap List.head?
                    else sorted
                  let text := String.join (kept.map fun i => String.ofList (i.line ++ [lineEnd]))
                  match a.value? 'o' with
                  | none =>
                      match ← write 1 text with
                      | .ok () => return 0
                      | .error e => do
                          warn "sort" ("fflush failed: 'standard output': " ++ cause e)
                          fail "write error"
                  | some path =>
                      match ← openPath path .create with
                      | .ok number => do
                          discard <| writeOpening number text
                          return 0
                      | .error e => fail ("open failed: " ++ plainWording path e)

end GuardedCnf.Utility
