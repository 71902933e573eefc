import GuardedCnf.Script.Basic
/-! # Braces — words that stand for several words

    In the extended dialect a word with braces stands for a word for each of the
    alternatives between them, or for each number or letter from a first to a last
    one.  Braces without alternatives are characters like others. -/

namespace GuardedCnf.Script.Brace

/-- The parts up to the brace that closes an open one, and those after it, below
    other open braces; `none` if there is no such brace. -/
def closing? : Nat → Word → Option (Word × Word)
  | _, [] => none
  | depth, part :: rest =>
      let goOn (depth : Nat) : Option (Word × Word) :=
        (closing? depth rest).map fun (inner, after) => (part :: inner, after)
      match part, depth with
      | .char '\x7b', depth => goOn (depth + 1)
      | .char '\x7d', 0 => some ([], rest)
      | .char '\x7d', depth + 1 => goOn depth
      | _, depth => goOn depth

/-- The parts between commas, below open braces. -/
def alternatives : Nat → Word → List Word
  | _, [] => [[]]
  | depth, part :: rest =>
      let extended (depth : Nat) : List Word :=
        match alternatives depth rest with
        | first :: others => (part :: first) :: others
        | [] => [[part]]
      match part, depth with
      | .char ',', 0 => [] :: alternatives 0 rest
      | .char '\x7b', depth => extended (depth + 1)
      | .char '\x7d', depth + 1 => extended depth
      | _, depth => extended depth

/-- The characters of a word that has nothing else. -/
def plain? (word : Word) : Option String :=
  let charOf : Part → Option Char
    | .char c => some c
    | _ => none
  (word.mapM charOf).map String.ofList

/-- The word for a text. -/
def ofText (text : String) : Word := text.toList.map .char

/-- The integers from a first to a last one, with a distance. -/
def integers (first last : Int) (distance : Nat) : List Int :=
  let distance := max distance 1
  let count := (last - first).natAbs / distance + 1
  (List.range count).map fun n =>
    if first ≤ last then first + (n * distance : Nat) else first - (n * distance : Nat)

/-- An integer in at least so many places, filled with zeros. -/
def padded (width : Nat) (n : Int) : String :=
  let digits := toString n.natAbs
  let sign := if n < 0 then "-" else ""
  sign ++ String.ofList (List.replicate (width - digits.length - sign.length) '0') ++ digits

/-- Whether the text of an integer asks for places that are filled with zeros. -/
def isPadded (text : String) : Bool :=
  match text.toList with
  | '-' :: '0' :: _ :: _ | '0' :: _ :: _ => true
  | _ => false

/-- The most words that a sequence stands for. -/
def maxLength : Nat := 1000000

/-- The words of a sequence, such as `1..3`, if a text is one. -/
def sequence? (text : String) : Option (List Word) :=
  let bounds (first last : String) (distance : Nat) : Option (List Word) :=
    match first.toInt?, last.toInt?, first.toList, last.toList with
    | some a, some b, _, _ =>
        let width := if isPadded first || isPadded last then max first.length last.length else 0
        if maxLength < (b - a).natAbs then none
        else some ((integers a b distance).map fun n => ofText (padded width n))
    | _, _, [a], [b] =>
        if a.isAlpha && b.isAlpha then
          some ((integers a.toNat b.toNat distance).map fun n => [.char (Char.ofNat n.toNat)])
        else none
    | _, _, _, _ => none
  match text.splitOn ".." with
  | [first, last] => bounds first last 1
  | [first, last, distance] => distance.toInt?.bind fun d => bounds first last d.natAbs
  | _ => none

/-- The words that the parts between two braces stand for, if they stand for any. -/
def choices? (inner : Word) : Option (List Word) :=
  match alternatives 0 inner with
  | [_] => (plain? inner).bind sequence?
  | words => some words

/-- The first braces that stand for words: the parts before them, the words, and the
    parts after them. -/
def first? : Word → Option (Word × List Word × Word)
  | [] => none
  | part :: rest =>
      let later : Option (Word × List Word × Word) :=
        (first? rest).map fun (before, words, after) => (part :: before, words, after)
      match part with
      | .char '\x7b' =>
          match closing? 0 rest with
          | some (inner, after) =>
              match choices? inner with
              | some words => some ([], words, after)
              | none => later
          | none => later
      | _ => later

/-- The words that a word stands for; `fuel` bounds the number of its braces. -/
def expandWithin : Nat → Word → List Word
  | 0, word => [word]
  | fuel + 1, word =>
      match first? word with
      | none => [word]
      | some (before, words, after) =>
          let endings := expandWithin fuel after
          words.flatMap fun choice =>
            (expandWithin fuel choice).flatMap fun inner =>
              endings.map fun ending => before ++ inner ++ ending

/-- The words that a word stands for. -/
def expand (word : Word) : List Word := expandWithin word.length word

end GuardedCnf.Script.Brace
