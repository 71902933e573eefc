import GuardedCnf.Path
import GuardedCnf.Utility.Basic
/-! # Columns — choosing and joining parts of lines -/

namespace GuardedCnf.Utility

open Script

namespace Columns

/-! ## Ranges. -/

/-- What ranges are about: fields, or places in a line. -/
inductive Subject where
  | fields
  | places
deriving BEq

/-- Why a list of ranges is refused. -/
def Subject.fromOne : Subject → String
  | .fields => "fields are numbered from 1"
  | .places => "byte/character positions are numbered from 1"

/-- A range; without a last number it has no end. -/
structure Range where
  first : Nat
  last : Option Nat

/-- What is known of a range that is being read. -/
structure Draft where
  /-- The number before a hyphen. -/
  low : Option Nat
  hyphen : Bool
  /-- The number that was read last. -/
  number : Option Nat

/-- The range that ends here. -/
def Draft.finish (subject : Subject) (d : Draft) : Except String Range :=
  if !d.hyphen then
    match d.number with
    | none | some 0 => .error subject.fromOne
    | some n => .ok ⟨n, some n⟩
  else
    match d.low, d.number with
    | none, none => .error "invalid range with no endpoint: -"
    | low, none => .ok ⟨low.getD 1, none⟩
    | low, some n => if n < low.getD 1 then .error "invalid decreasing range" else .ok ⟨low.getD 1, some n⟩

/-- Reads ranges. -/
def readRanges (subject : Subject) : Nat → Draft → List Char → Except String (List Range)
  | 0, _, _ => .ok []
  | _, d, [] => return [← d.finish subject]
  | fuel + 1, d, c :: cs =>
      if c = '-' then
        if d.hyphen then
          .error (if subject == .fields then "invalid field range" else "invalid byte or character range")
        else if d.number = some 0 then .error subject.fromOne
        else readRanges subject fuel ⟨d.number, true, none⟩ cs
      else if c = ',' || c = ' ' || c = '\t' then do
        let r ← d.finish subject
        return r :: (← readRanges subject fuel ⟨none, false, none⟩ cs)
      else if c.isDigit then
        let digits := (c :: cs).takeWhile Char.isDigit
        let n := Sum.ofDigits 10 digits
        if Nat.pow 2 64 - 1 ≤ n then
          .error ((if subject == .fields then "field number " else "byte/character offset ")
            ++ inQuotes (String.ofList digits) ++ " is too large")
        else readRanges subject fuel { d with number := some n } ((c :: cs).drop digits.length)
      else
        .error ((if subject == .fields then "invalid field value " else "invalid byte/character position ")
          ++ inQuotes (String.ofList (c :: cs)))

/-- Ranges in order, where those that meet in a number are one. -/
def merged (ranges : List Range) : List Range :=
  let sorted := ranges.mergeSort fun a b => a.first ≤ b.first
  (sorted.foldl (fun (done : List Range) r =>
    match done with
    | last :: before =>
        if last.last.all (r.first ≤ ·) then
          let joined := match last.last, r.last with
            | some x, some y => some (max x y)
            | _, _ => none
          ⟨last.first, joined⟩ :: before
        else r :: done
    | [] => [r]) []).reverse

/-- The ranges of the numbers that are in none of the others, from a number on. -/
def complementFrom (start : Nat) : List Range → List Range
  | [] => [⟨start, none⟩]
  | r :: rs =>
      let gap : List Range := if start < r.first then [⟨start, some (r.first - 1)⟩] else []
      match r.last with
      | some n => gap ++ complementFrom (n + 1) rs
      | none => gap

/-- Whether ranges hold a number. -/
def holds (ranges : List Range) (n : Nat) : Bool :=
  ranges.any fun r => r.first ≤ n && r.last.all (n ≤ ·)

/-! ## Choosing. -/

/-- How parts of lines are chosen. -/
structure Cutter where
  subject : Subject
  ranges : List Range
  delimiter : Char
  /-- What is written between parts, if that was asked for. -/
  joint : Option String
  /-- Whether lines without a delimiter are left out. -/
  onlyDelimited : Bool
  lineEnd : Char

/-- The characters of a line at chosen places, where ranges are parted. -/
def Cutter.places (k : Cutter) (line : List Char) : String :=
  let isStart (n : Nat) : Bool := k.ranges.any (·.first = n)
  let chosen := (line.zipIdx 1).filter fun (_, n) => holds k.ranges n
  String.join <| chosen.zipIdx.map fun ((c, n), i) =>
    (if 0 < i && isStart n then k.joint.getD "" else "") ++ String.singleton c

/-- The chosen fields of a line; `none` if it is left out. -/
def Cutter.fields (k : Cutter) (line : List Char) : Option String :=
  if !line.contains k.delimiter then if k.onlyDelimited then none else some (String.ofList line)
  else
    let parts := (Path.split k.delimiter line).zipIdx 1
    let chosen := parts.filterMap fun (part, n) => if holds k.ranges n then some (String.ofList part) else none
    some ((k.joint.getD (String.singleton k.delimiter)).intercalate chosen)

/-- The chosen parts of a text. -/
def Cutter.apply (k : Cutter) (text : String) : String :=
  let lines :=
    if text.isEmpty then []
    else
      let cs := text.toList
      let cs := if cs.getLast? = some k.lineEnd then cs.dropLast else cs
      if k.subject == .fields && k.delimiter = k.lineEnd then [cs] else Path.split k.lineEnd cs
  String.join <| lines.filterMap fun line =>
    let shown := match k.subject with
      | .fields => k.fields line
      | .places => some (k.places line)
    shown.map (· ++ String.singleton k.lineEnd)

/-- Writes what is made of files one after the other, with a message for those that
    cannot be read. -/
def eachFile (name : String) (operands : List String) (f : String → String) : Step Nat := do
  return (← showEach name plainWording operands () fun _ text => ((), f text)).2

/-! ## Joining. -/

/-- The joints in a list, where an escaped zero is no character; `none` if it ends in
    a backslash. -/
def readJoints : List Char → Option (List String)
  | [] => some []
  | ['\\'] => none
  | '\\' :: c :: cs =>
      let joint := match c with
        | '0' => ""
        | 'b' => "\x08"
        | 'f' => "\x0c"
        | 'n' => "\n"
        | 'r' => "\r"
        | 't' => "\t"
        | 'v' => "\x0b"
        | c => String.singleton c
      (readJoints cs).map (joint :: ·)
  | c :: cs => (readJoints cs).map (String.singleton c :: ·)

/-- Parts with joints between them, which are used again and again. -/
def joined (joints : Array String) (parts : List String) : String :=
  String.join <| parts.zipIdx.map fun (part, i) =>
    (if i = 0 then "" else joints.getD ((i - 1) % joints.size) "") ++ part

/-- The lines of a text, given how they end. -/
def linesTo (lineEnd : Char) (text : String) : List String :=
  let lines := text.splitOn (String.singleton lineEnd)
  if lines.getLast? = some "" then lines.dropLast else lines

/-- The lines that each operand gets, where those of the standard input go round. -/
def dealt (operands : List String) (texts : List (List String)) : List (Array String) :=
  let shares := (operands.filter (· = "-")).length
  let shared := (((operands.zip texts).find? (·.1 = "-")).map (·.2)).getD []
  ((operands.zip texts).foldl (fun ((columns, n) : List (Array String) × Nat) (operand, lines) =>
    if operand = "-" then
      let own := shared.zipIdx.filterMap fun (line, i) => if i % shares = n then some line else none
      (own.toArray :: columns, n + 1)
    else (lines.toArray :: columns, n)) ([], 0)).1.reverse

end Columns

open Columns in
/-- Chooses columns of lines. -/
def cut : Utility := fun args =>
  let accepted : Accepted := .of "snz\x01" "bcdf\x02" [("bytes", 'b'), ("characters", 'c'), ("fields", 'f'),
    ("delimiter", 'd'), ("only-delimited", 's'), ("output-delimiter", '\x02'), ("complement", '\x01'),
    ("zero-terminated", 'z')]
  withArgs "cut" 1 accepted args fun a => do
    let refuse (text : String) : Step Nat := refuseUse "cut" text 1
    match a.options.filter fun o => ['b', 'c', 'f'].contains o.1 with
    | [] => refuse "you must specify a list of bytes, characters, or fields"
    | _ :: _ :: _ => refuse "only one list may be specified"
    | [(letter, list)] =>
        let subject : Subject := if letter = 'f' then .fields else .places
        let delimiter := (a.value? 'd').getD "\t"
        if 1 < delimiter.length then refuse "the delimiter must be a single character"
        else if subject == .places && a.has 'd' then
          refuse "an input delimiter may be specified only when operating on fields"
        else if subject == .places && a.has 's' then
          refuse "suppressing non-delimited lines makes sense\n\tonly when operating on fields"
        else match readRanges subject (list.length + 2) ⟨none, false, none⟩ list.toList with
          | .error message => refuse message
          | .ok ranges =>
              let ranges := merged ranges
              let k : Cutter :=
                { subject := subject
                  ranges := if a.has '\x01' then complementFrom 1 ranges else ranges
                  delimiter := delimiter.toList.headD '\x00'
                  joint := (a.value? '\x02').map fun text => if text.isEmpty then "\x00" else text
                  onlyDelimited := a.has 's'
                  lineEnd := if a.has 'z' then '\x00' else '\n' }
              eachFile "cut" a.operands k.apply

open Columns in
/-- Joins lines side by side, or the lines of each file. -/
def paste : Utility := fun args =>
  let accepted : Accepted := .of "sz" "d" [("serial", 's'), ("delimiters", 'd'), ("zero-terminated", 'z')]
  withArgs "paste" 1 accepted args fun a => do
    let list := match a.value? 'd' with
      | some "" => "\\0"
      | some list => list
      | none => "\t"
    match readJoints list.toList with
    | none => do
        warn "paste" ("delimiter list ends with an unescaped backslash: " ++ list)
        return 1
    | some joints => do
        let joints := joints.toArray
        let operands := if a.operands.isEmpty then ["-"] else a.operands
        let lineEnd := if a.has 'z' then '\x00' else '\n'
        let ending := String.singleton lineEnd
        let mut status := 0
        if a.has 's' then
          for operand in operands do
            match ← input operand with
            | .ok text => status := max status (← output "paste" (joined joints (linesTo lineEnd text) ++ ending) 0)
            | .error e => do
                if e matches .isDirectory then discard <| output "paste" ending 0
                warn "paste" (plainWording operand e)
                status := 1
          return status
        else
          let mut texts := []
          for operand in operands do
            match ← input operand with
            | .ok text => texts := some (linesTo lineEnd text) :: texts
            | .error .isDirectory => texts := none :: texts
            | .error e => do
                warn "paste" (plainWording operand e)
                return 1
          let readable := texts.reverse
          let columns := dealt operands (readable.map (·.getD []))
          let size := (columns.map Array.size).foldl max 0
          let lines := (List.range size).map fun i => joined joints (columns.map fun column => column.getD i "")
          let shown := String.join (lines.map (· ++ ending))
          let mut told := 0
          for (operand, i) in operands.zipIdx do
            if readable[i]? = some none then
              let before := columns.take i
              let there := if before.any (0 < ·.size) then
                (joined joints ((before.map fun column => column.getD 0 "") ++ [""])).length else 0
              discard <| output "paste" (String.ofList ((shown.toList.take there).drop told)) 0
              told := there
              warn "paste" (plainWording operand .isDirectory)
              status := 1
          return max status (← output "paste" (String.ofList (shown.toList.drop told)) 0)

end GuardedCnf.Utility
