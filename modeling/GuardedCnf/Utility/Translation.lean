import GuardedCnf.Script.CharSet
import GuardedCnf.Utility.Basic
/-! # Translating characters

    Two sets of characters are written one after the other, with escapes, ranges,
    classes and repetitions.  The characters of the first set become those of the
    second one at the same places; or they are dropped, or their repetitions
    are. -/

namespace GuardedCnf.Utility

open Script

namespace Translation

/-- A character of a set as it is written; it has no meaning of its own after a
    backslash. -/
structure Mark where
  char : Char
  escaped : Bool

/-- A part of a set. -/
inductive Item where
  | char (c : Char)
  | range (first last : Char)
  | class_ (name : String)
  | alike (c : Char)
  /-- Repetitions of a character, as many as needed if the number is 0. -/
  | repeated (c : Char) (count : Nat)

/-! ## Reading. -/

/-- The number that up to three octal digits write, and how many digits it has; a
    number for which a byte is too small ends earlier. -/
def octal (cs : List Char) : Nat × Nat × Bool :=
  let digits := (cs.take 3).takeWhile fun c => '0' ≤ c && c ≤ '7'
  let value (ds : List Char) : Nat := ds.foldl (fun n c => 8 * n + (c.toNat - 48)) 0
  if value digits < 256 then (value digits, digits.length, false)
  else (value (digits.take 2), 2, true)

/-- The characters of a set without its backslashes, and warnings. -/
def unescape : Nat → List Char → List Mark × List String
  | 0, _ | _, [] => ([], [])
  | fuel + 1, '\\' :: cs =>
      let plain (c : Char) (rest : List Char) : List Mark × List String :=
        let (marks, warnings) := unescape fuel rest
        (⟨c, true⟩ :: marks, warnings)
      match cs with
      | [] => ([⟨'\\', false⟩], ["warning: an unescaped backslash at end of string is not portable"])
      | c :: rest =>
          match [('a', '\x07'), ('b', '\x08'), ('f', '\x0c'), ('n', '\n'), ('r', '\r'), ('t', '\t'),
              ('v', '\x0b')].lookup c with
          | some d => plain d rest
          | none =>
              if '0' ≤ c && c ≤ '7' then
                let (n, size, isCut) := octal cs
                let (marks, warnings) := unescape fuel (cs.drop size)
                let digits := String.ofList (cs.take 3)
                let warning := "warning: the ambiguous octal escape \\" ++ digits
                  ++ " is being\n\tinterpreted as the 2-byte sequence \\0" ++ String.ofList (cs.take 2) ++ ", "
                  ++ String.ofList ((cs.drop 2).take 1)
                (⟨Char.ofNat n, true⟩ :: marks, if isCut then warning :: warnings else warnings)
              else plain c rest
  | fuel + 1, c :: cs =>
      let (marks, warnings) := unescape fuel cs
      (⟨c, false⟩ :: marks, warnings)

/-- Whether a mark is a character with its meaning. -/
def Mark.means (m : Mark) (c : Char) : Bool := m.char = c && !m.escaped

/-- The marks up to a closing mark and a bracket, and what comes after them. -/
def closed (mark : Char) : List Mark → List Mark → Option (List Mark × List Mark)
  | inner, a :: b :: rest =>
      if a.means mark && b.means ']' then some (inner.reverse, rest) else closed mark (a :: inner) (b :: rest)
  | _, _ => none

/-- Whether marks are the end of a repetition. -/
def isRepetition : List Mark → Bool
  | m :: rest => m.means '*' && ((rest.dropWhile (·.char.isDigit)).head?.any (·.means ']'))
  | [] => false

/-- A character as messages show it. -/
def visible (c : Char) : String :=
  match [('\\', "\\\\"), ('\x07', "\\a"), ('\x08', "\\b"), ('\x0c', "\\f"), ('\n', "\\n"), ('\r', "\\r"),
      ('\t', "\\t"), ('\x0b', "\\v")].lookup c with
  | some text => text
  | none =>
      if c < ' ' || '\x7e' < c then
        let ds := Nat.toDigits 8 c.toNat
        "\\" ++ String.ofList (List.replicate (3 - ds.length) '0' ++ ds)
      else String.singleton c

/-- Marks as messages show them. -/
def visibleAll (marks : List Mark) : String := String.join (marks.map fun m => visible m.char)

/-- The names of classes. -/
def classNames : List String :=
  ["alnum", "alpha", "blank", "cntrl", "digit", "graph", "lower", "print", "punct", "space", "upper", "xdigit"]

/-- Reads a class or the characters alike one, after its opening; `none` if it is
    none. -/
def readNamed (mark : Char) (marks : List Mark) : Except String (Option (Item × List Mark)) :=
  match closed mark [] marks with
  | none => .ok none
  | some ([], _) =>
      .error (if mark = ':' then "missing character class name '[::]'"
        else "missing equivalence class character '[==]'")
  | some (inner, rest) =>
      let name := String.ofList (inner.map (·.char))
      if mark = ':' && classNames.contains name then .ok (some (.class_ name, rest))
      else
        match mark, inner with
        | '=', [m] => .ok (some (.alike m.char, rest))
        | _, _ =>
            if isRepetition marks then .ok none
            else .error (if mark = ':' then "invalid character class " ++ inQuotes (visibleAll inner)
              else visibleAll inner ++ ": equivalence class operand must be a single character")

/-- Reads a repetition after its opening bracket; `none` if it is none. -/
def readRepeated : List Mark → Except String (Option (Item × List Mark))
  | c :: star :: rest =>
      if !star.means '*' then .ok none
      else
        let inner := rest.takeWhile fun m => !m.escaped && m.char != ']'
        match rest.drop inner.length with
        | m :: rest =>
            if m.escaped then .ok none
            else
              let digits := inner.map (·.char)
              let base := if digits.head? = some '0' then 8 else 10
              let isDigit (c : Char) : Bool := '0' ≤ c && c.toNat < 48 + base
              let n := digits.foldl (fun n c => base * n + (c.toNat - 48)) 0
              if digits.all isDigit && n < Nat.pow 2 63 then .ok (some (.repeated c.char n, rest))
              else .error ("invalid repeat count " ++ inQuotes (visibleAll inner) ++ " in [c*n] construct")
        | [] => .ok none
  | _ => .ok none

/-- Reads the parts of a set. -/
def readItems : Nat → List Mark → Except String (List Item)
  | 0, _ => .ok []
  | fuel + 1, a :: b :: c :: rest => do
      let named ← if a.means '[' && (b.means ':' || b.means '=') then readNamed b.char (c :: rest)
        else pure none
      let found ← match named with
        | some found => pure (some found)
        | none => if a.means '[' then readRepeated (b :: c :: rest) else pure none
      match found with
      | some (item, rest) => return item :: (← readItems fuel rest)
      | none =>
          if b.means '-' then
            if c.char < a.char then
              throw ("range-endpoints of '" ++ visible a.char ++ "-" ++ visible c.char
                ++ "' are in reverse collating sequence order")
            return .range a.char c.char :: (← readItems fuel rest)
          else return .char a.char :: (← readItems fuel (b :: c :: rest))
  | _, marks => .ok (marks.map fun m => .char m.char)

/-! ## Sets. -/

/-- All bytes. -/
def bytes : List Char := (List.range 256).map Char.ofNat

/-- The members of a class, in order. -/
def classMembers (name : String) : List Char :=
  let ranges := CharSet.classRanges name
  bytes.filter fun c => ranges.any fun (first, last) => first ≤ c && c ≤ last

/-- The characters of a part. -/
def Item.chars : Item → List Char
  | .char c | .alike c => [c]
  | .range first last => (List.range' first.toNat (last.toNat + 1 - first.toNat)).map Char.ofNat
  | .class_ name => classMembers name
  | .repeated c count => List.replicate (min count 70000) c

/-- How many characters a part has. -/
def Item.size : Item → Nat
  | .repeated _ count => count
  | item => item.chars.length

/-- The name of a class of large or small letters. -/
def Item.case? : Item → Option String
  | .class_ name => if name = "upper" || name = "lower" then some name else none
  | _ => none

/-- Whether a part is a class. -/
def Item.isClass : Item → Bool
  | .class_ _ => true
  | _ => false

/-- Whether a part has as many characters as needed. -/
def Item.isOpen : Item → Bool
  | .repeated _ 0 => true
  | _ => false

/-- A character of a set in its order. -/
structure Slot where
  char : Char
  /-- Whether a part begins with it. -/
  isFirst : Bool
  /-- The case of the letters of its part. -/
  case? : Option String

/-- The characters of parts in order. -/
def slots (items : List Item) : List Slot :=
  items.flatMap fun item => item.chars.zipIdx.map fun (c, i) => ⟨c, i = 0, item.case?⟩

/-- What comes after a part. -/
def nextPart (s : List Slot) : List Slot := (s.drop 1).dropWhile (!·.isFirst)

/-- How many characters fewer count because letters of one case stand for those of
    another, and whether such classes stand at the same places. -/
def alignCases : Nat → List Slot → List Slot → Nat → Option Nat
  | 0, _, _, n => some n
  | fuel + 1, xs, ys, n =>
      match xs.head?, ys.head? with
      | _, none => some n
      | x, some y =>
          let isNew : Bool := y.isFirst && y.case?.isSome
          if isNew && !x.any (fun x => x.isFirst && x.case?.isSome) then none
          else if x.isNone then some n
          else if y.case?.isSome then alignCases fuel (nextPart xs) (nextPart ys) (n + 25)
          else alignCases fuel (xs.drop 1) (ys.drop 1) n

/-- The pairs of characters and what they become. -/
def pairs : Nat → List Slot → List Slot → List (Char × Char)
  | 0, _, _ => []
  | fuel + 1, x :: xs, y :: ys =>
      let (xs', ys') := if y.case?.isSome then (nextPart (x :: xs), nextPart (y :: ys)) else (xs, ys)
      match x.case?, y.case? with
      | some "lower", some "upper" =>
          (classMembers "lower").map (fun c => (c, c.toUpper)) ++ pairs fuel xs' ys'
      | some "upper", some "lower" =>
          (classMembers "upper").map (fun c => (c, c.toLower)) ++ pairs fuel xs' ys'
      | _, _ => (x.char, y.char) :: pairs fuel xs' ys'
  | _, _, _ => []

/-! ## Translations. -/

/-- What is done with characters. -/
structure Manner where
  complement : Bool
  delete : Bool
  squeeze : Bool
  truncate : Bool

/-- The last character of parts, to be repeated. -/
def lastChar (items : List Item) : Except String Char :=
  match items.getLast? with
  | some (.char c) | some (.alike c) | some (.repeated c _) => .ok c
  | some (.range _ last) => .ok last
  | some (.class_ _) =>
      .error "when translating with string1 longer than string2,\nthe latter string must not end with a character class"
  | none => .error "when not truncating set1, string2 must be non-empty"

/-- The second set, made as long as the first one, or why that cannot be. -/
def Manner.fit (j : Manner) (old new : List Item) : Except String (List Item) := do
  let members := slots old
  let oldSize := if j.complement then
      (bytes.filter fun c => !members.any (·.char = c)).length
    else (old.map Item.size).foldl (· + ·) 0
  let known := (new.map Item.size).foldl (· + ·) 0
  let opens := (new.filter Item.isOpen).length
  if 1 < opens then throw "only one [c*] repeat construct may appear in string2"
  let new := new.flatMap fun item =>
    match item with
    | .repeated c 0 => if known < oldSize then [.repeated c (oldSize - known)] else []
    | item => [item]
  let newSize := (new.map Item.size).foldl (· + ·) 0
  if new.any fun item => item matches .alike _ then
    throw "[=c=] expressions may not appear in string2 when translating"
  if new.any fun item => item.isClass && item.case?.isNone then
    throw "when translating, the only character classes that may appear in\nstring2 are 'upper' and 'lower'"
  let isAligned : Bool := !j.complement && new.any Item.isClass
  let less ← if isAligned then
      match alignCases (members.length + 1) members (slots new) 0 with
      | some n => pure n
      | none => throw "misaligned [:upper:] and/or [:lower:] construct"
    else pure 0
  let (oldSize, newSize) := (oldSize - less, newSize - less)
  let fitted ← if newSize < oldSize && !j.truncate then
      return new ++ [.repeated (← lastChar new) (oldSize - newSize)]
    else pure new
  return fitted

/-- Whether all characters of the complement of a set with classes become the same,
    if there are such. -/
def Manner.isUniform (j : Manner) (old new : List Item) : Bool :=
  !(j.complement && old.any Item.isClass)
    || (let members := slots old
        let all := (slots new).map (·.char)
        (bytes.filter fun c => !members.any (·.char = c)).length = all.length
          && all.all (· = all.headD ' '))

/-- Drops the repetitions of characters of a set. -/
def squeezed (set : Char → Bool) : List Char → List Char
  | c :: d :: cs => if c = d && set c then squeezed set (d :: cs) else c :: squeezed set (d :: cs)
  | cs => cs

/-- What a text becomes. -/
def Manner.apply (j : Manner) (old : List Item) (new : Option (List Item)) (text : String) : String :=
  let members := slots old
  let table : Array Bool := members.foldl (fun t s => t.setIfInBounds s.char.toNat true)
    (Array.replicate 256 false)
  let isOld (c : Char) : Bool := table.getD c.toNat false != j.complement
  let newTable : Array Bool := (slots (new.getD [])).foldl (fun t s => t.setIfInBounds s.char.toNat true)
    (Array.replicate 256 false)
  let isNew (c : Char) : Bool := newTable.getD c.toNat false
  String.ofList <|
    match new with
    | none => if j.delete then text.toList.filter (!isOld ·) else squeezed isOld text.toList
    | some new =>
        if j.delete then squeezed isNew (text.toList.filter (!isOld ·))
        else
          let found :=
            if j.complement then (bytes.filter isOld).zip ((slots new).map (·.char))
            else pairs (members.length + 1) members (slots new)
          let becomes : Array Char := found.foldl (fun t (c, d) => t.setIfInBounds c.toNat d) bytes.toArray
          let cs := text.toList.map fun c => becomes.getD c.toNat c
          if j.squeeze then squeezed isNew cs else cs

/-- The options. -/
def accepted : Accepted :=
  .of "AcCdst" "" [("complement", 'c'), ("delete", 'd'), ("squeeze-repeats", 's'), ("truncate-set1", 't')]

/-- Reads a set of an argument, with a message if it cannot be read. -/
def readSet (text : String) : Step (Option (List Item)) := do
  let (marks, warnings) := unescape (text.length + 1) text.toList
  for message in warnings do warn "tr" message
  match readItems (marks.length + 1) marks with
  | .ok items => return some items
  | .error message => do
      warn "tr" message
      return none

end Translation

open Translation in
/-- Replaces, drops or squeezes characters. -/
def translate : Utility := fun args =>
  match accepted.read false (args.length + 1) args with
  | .error e => refuseArgs "tr" 1 e
  | .ok a => do
      let j : Manner := ⟨a.has 'c' || a.has 'C', a.has 'd', a.has 's', a.has 't'⟩
      let least := if j.delete = j.squeeze then 2 else 1
      let most := if j.delete && !j.squeeze then 1 else 2
      let count := a.operands.length
      let fail (message : String) : Step Nat := do
        warn "tr" message
        return 1
      if count = 0 then missingOperand "tr" 1
      else if count < least then
        warn "tr" ("missing operand after " ++ inQuotes (a.operands.getLastD ""))
        report ("Two strings must be given when " ++ (if j.squeeze then "both deleting and squeezing repeats"
          else "translating") ++ ".\n")
        suggestHelp "tr"
        return 1
      else if most < count then
        warn "tr" ("extra operand " ++ inQuotes ((a.operands[most]?).getD ""))
        if count = 2 then report "Only one string may be given when deleting without squeezing repeats.\n"
        suggestHelp "tr"
        return 1
      else
        match ← readSet (a.operands.headD "") with
        | none => return 1
        | some old => do
            let translating := count = 2 && !j.delete
            let second ← match a.operands[1]? with
              | some text => pure ((← readSet text).map some)
              | none => pure (some none)
            match second with
            | none => return 1
            | some new => do
                if old.any Item.isOpen then fail "the [c*] repeat construct may not appear in string1"
                else
                  let fitted : Except String (Option (List Item)) := match new with
                    | some new => do
                        if translating then
                          let new ← j.fit old new
                          if !j.isUniform old new then
                            throw "when translating with complemented character classes,\nstring2 must map all characters in the domain to one"
                          return some new
                        else if new.any Item.isOpen then
                          throw "the [c*] construct may appear in string2 only when translating"
                        else return some new
                    | none => return none
                  match fitted with
                  | .error message => fail message
                  | .ok new =>
                      match ← readStream 0 with
                      | .error e => fail ("read error: " ++ cause e)
                      | .ok text => output "tr" (j.apply old new text) 0

end GuardedCnf.Utility
