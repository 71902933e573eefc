import GuardedCnf.Path
import GuardedCnf.Utility.Basic
/-! # Pairs of sorted texts — lines and keys that both have

    Two texts are read line by line, each in its order.  Whatever comes first is
    taken, and what is the same is taken from both.  Once something is in one text
    only, a line that comes before the one above it is noted. -/

namespace GuardedCnf.Utility

open Script

namespace Pairing

/-- How carefully the order of lines is checked. -/
inductive Care where
  | never
  /-- After lines that are in one text only. -/
  | late
  /-- Always, and a line out of order ends the program. -/
  | always
deriving BEq

/-- What is shown: a line of the output, or a message. -/
inductive Shown where
  | line (text : String)
  | message (text : String)

/-- What is known while two texts are read. -/
structure Progress where
  shown : Array Shown
  /-- Whether a line is in one text only. -/
  single : Bool
  /-- The texts with lines out of order. -/
  warned : List Nat
  stopped : Bool

/-- A walk through two texts. -/
abbrev Walk := StateM Progress

/-- Adds a line to the output. -/
def emit (line : String) : Walk Unit := modify fun p => { p with shown := p.shown.push (.line line) }

/-- Notes that a line is in one text only. -/
def noteSingle : Walk Unit := modify fun p => { p with single := true }

/-- Checks two lines that follow each other in a text. -/
def checkOrder (care : Care) (which : Nat) (isBad : Bool) (message : String) : Walk Unit :=
  modify fun p =>
    let isChecked : Bool := care == .always || (care == .late && p.single)
    if isChecked && isBad && !p.warned.contains which then
      { p with
        shown := p.shown.push (.message message)
        warned := which :: p.warned
        stopped := p.stopped || care == .always }
    else p

/-- Ends the program after what was read, given what comes after each line. -/
def finish (name lineEnd : String) (p : Progress) : Step Nat := do
  let mut lines := #[]
  for s in p.shown do
    match s with
    | .line text => lines := (lines.push text).push lineEnd
    | .message text => do
        discard <| output name (String.join lines.toList) 0
        lines := #[]
        warn name text
  let status ← output name (String.join lines.toList) 0
  if p.warned.isEmpty then return status
  else
    if !p.stopped then warn name "input is not in sorted order"
    return 1

/-- The lines of a text, given how they end. -/
def linesTo (lineEnd : Char) (text : String) : Array String :=
  let lines := text.splitOn (String.singleton lineEnd)
  (if lines.getLast? = some "" then lines.dropLast else lines).toArray

/-- The two operands of a program. -/
def withPair (name : String) (a : Args) (f : String → String → Step Nat) : Step Nat := do
  match a.operands with
  | [x, y] => do
      let wording (operand : String) (e : FileError) : String :=
        if name = "join" && e matches .isDirectory then "read error: " ++ cause e else plainWording operand e
      let (texts, complete) ← inputs name wording [x]
      if !complete then return 1
      let (others, complete) ← inputs name wording [y]
      if !complete then return 1
      f ((texts.map (·.2)).headD "") ((others.map (·.2)).headD "")
  | [] => missingOperand name 1
  | [x] => refuseUse name ("missing operand after " ++ inQuotes x) 1
  | _ :: _ :: z :: _ => extraOperand name z 1

/-- How carefully options ask to check the order. -/
def careOf (a : Args) : Care :=
  match (a.options.filter fun o => o.1 = '\x01' || o.1 = '\x02').getLast? with
  | some ('\x01', _) => .always
  | some _ => .never
  | none => .late

/-! ## Lines in common. -/

/-- How the columns of lines are shown. -/
structure Columns where
  hidden : List Nat
  joint : String
  lineEnd : String

/-- A line in a column. -/
def Columns.line (c : Columns) (column : Nat) (text : String) : String :=
  if c.hidden.contains column then ""
  else
    let before := (List.range' 1 (column - 1)).filter fun n => !c.hidden.contains n
    String.join (before.map fun _ => c.joint) ++ text ++ c.lineEnd

/-- Goes on to the next line of a text. -/
def step (care : Care) (which : Nat) (lines : Array String) (i : Nat) : Walk Unit :=
  let message := "file " ++ toString which ++ " is not in sorted order"
  let isBad (j : Nat) : Bool := lines.getD (j + 1) "" < lines.getD j ""
  if i + 1 < lines.size then checkOrder care which (isBad i) message
  else if 0 < i then checkOrder care which (isBad (i - 1)) message
  else return ()

/-- Shows the lines of two texts from two places on, and how many there are in each
    column. -/
def compareFrom (care : Care) (c : Columns) (xs ys : Array String) :
    Nat → Nat → Nat → Nat × Nat × Nat → Walk (Nat × Nat × Nat)
  | 0, _, _, n => return n
  | fuel + 1, i, j, (n1, n2, n3) => do
      if (← get).stopped then return (n1, n2, n3)
      let order : Option Ordering := match xs[i]?, ys[j]? with
        | none, none => none
        | none, some _ => some .gt
        | some _, none => some .lt
        | some x, some y => some (compare x y)
      match order with
      | none => return (n1, n2, n3)
      | some .eq => do
          emit (c.line 3 (xs.getD i ""))
          step care 1 xs i
          if !(← get).stopped then step care 2 ys j
          compareFrom care c xs ys fuel (i + 1) (j + 1) (n1, n2, n3 + 1)
      | some .lt => do
          noteSingle
          emit (c.line 1 (xs.getD i ""))
          step care 1 xs i
          compareFrom care c xs ys fuel (i + 1) j (n1 + 1, n2, n3)
      | some .gt => do
          noteSingle
          emit (c.line 2 (ys.getD j ""))
          step care 2 ys j
          compareFrom care c xs ys fuel i (j + 1) (n1, n2 + 1, n3)

/-! ## Keys in common. -/

/-- A field that is shown: the key, or a field of a text. -/
inductive Cell where
  | key
  | field (which n : Nat)

/-- How lines are joined. -/
structure Joiner where
  separator : Option Char
  caseless : Bool
  /-- The places of the keys. -/
  first : Nat
  second : Nat
  /-- The texts of which lines without a partner are shown. -/
  singles : List Nat
  pairs : Bool
  filler : String
  cells : Option (List Cell)
  /-- How many fields there are in each text, if that is always shown. -/
  sizes : Option (Nat × Nat)

/-- The fields of a line. -/
def Joiner.fields (k : Joiner) (line : String) : Array String :=
  match k.separator with
  | some c => ((Path.split c line.toList).map String.ofList).toArray
  | none =>
      let isBlank (c : Char) : Bool := c = ' ' || c = '\t'
      let groups := line.toList.splitBy fun a b => isBlank a = isBlank b
      ((groups.filter fun g => !g.head?.any isBlank).map String.ofList).toArray

/-- The key of a line of a text. -/
def Joiner.key (k : Joiner) (which : Nat) (fields : Array String) : String :=
  let text := fields.getD (if which = 1 then k.first else k.second) ""
  if k.caseless then text.toUpper else text

/-- Two lines as one; one of them may be missing. -/
def Joiner.line (k : Joiner) (x y : Option (Array String)) : String :=
  let joint := String.singleton (k.separator.getD ' ')
  let field (fields : Option (Array String)) (n : Nat) : String :=
    match (fields.getD #[])[n]? with
    | some "" | none => k.filler
    | some text => text
  let keyField := match x, y with
    | none, some _ => field y k.second
    | _, _ => field x k.first
  let cells : List String := match k.cells with
    | some cells => cells.map fun
        | .key => keyField
        | .field 1 n => field x n
        | .field _ n => field y n
    | none =>
        let others (fields : Option (Array String)) (size at_ : Nat) : List String :=
          ((List.range size).filter (· != at_)).map (field fields)
        let sizeOf (fields : Option (Array String)) : Nat := (fields.map Array.size).getD 0
        let (m, n) := k.sizes.getD (sizeOf x, sizeOf y)
        keyField :: (others x m k.first ++ others y n k.second)
  joint.intercalate cells

/-- A text that is joined. -/
structure Keyed where
  which : Nat
  name : String
  lines : Array String
  fields : Array (Array String)

/-- Checks a line when it is read. -/
def Joiner.check (k : Joiner) (care : Care) (s : Keyed) (header i : Nat) : Walk Unit :=
  if i ≤ header || s.lines.size ≤ i then return ()
  else
    let key (i : Nat) : String := k.key s.which (s.fields.getD i #[])
    checkOrder care s.which (key i < key (i - 1))
      (s.name ++ ":" ++ toString (i + 1) ++ ": is not sorted: " ++ s.lines.getD i "")

/-- The place after the lines from one on that have a key. -/
def Joiner.runEnd (k : Joiner) (care : Care) (s : Keyed) (header : Nat) (key : String) : Nat → Nat → Walk Nat
  | 0, i => return i
  | fuel + 1, i => do
      k.check care s header i
      if i < s.lines.size && k.key s.which (s.fields.getD i #[]) = key then
        k.runEnd care s header key fuel (i + 1)
      else return i

/-- Shows and checks what is left of a text. -/
def Joiner.rest (k : Joiner) (care : Care) (s : Keyed) (header i : Nat) : Walk Unit := do
  for j in List.range' i (s.lines.size - i) do
    if j != i then k.check care s header j
    if k.singles.contains s.which && !(← get).stopped then
      let fields := s.fields.getD j #[]
      emit (if s.which = 1 then k.line (some fields) none else k.line none (some fields))

/-- Joins two texts from two places on. -/
def Joiner.joinFrom (k : Joiner) (care : Care) (x y : Keyed) (header : Nat) :
    Nat → Nat → Nat → Walk Unit
  | 0, _, _ => return ()
  | fuel + 1, i, j => do
      if (← get).stopped then return ()
      match x.fields[i]?, y.fields[j]? with
      | some a, some b =>
          match compare (k.key 1 a) (k.key 2 b) with
          | .lt => do
              if k.singles.contains 1 then emit (k.line (some a) none)
              k.check care x header (i + 1)
              noteSingle
              k.joinFrom care x y header fuel (i + 1) j
          | .gt => do
              if k.singles.contains 2 then emit (k.line none (some b))
              k.check care y header (j + 1)
              noteSingle
              k.joinFrom care x y header fuel i (j + 1)
          | .eq => do
              let key := k.key 1 a
              let stop ← k.runEnd care x header key x.lines.size (i + 1)
              let stop' ← k.runEnd care y header key y.lines.size (j + 1)
              if k.pairs && !(← get).stopped then
                for m in List.range' i (stop - i) do
                  for n in List.range' j (stop' - j) do
                    emit (k.line x.fields[m]? y.fields[n]?)
              k.joinFrom care x y header fuel stop stop'
      | a, b => do
          if a.isSome && b.isSome then noteSingle
          k.rest care x header i
          k.rest care y header j

/-- Reads the fields that are shown. -/
def readCells (text : String) : Except String (List Cell) :=
  let parts := (text.toList.splitBy fun a b => (a = ',' || a = ' ') = (b = ',' || b = ' ')).filter
    fun part => !part.head?.any fun c => c = ',' || c = ' '
  parts.mapM fun part =>
    match part with
    | ['0'] => .ok .key
    | which :: '.' :: n =>
        if which != '1' && which != '2' then
          .error ("invalid file number in field spec: " ++ inQuotes (String.ofList part))
        else match natural? (String.ofList n) with
          | some (n + 1) => .ok (.field (which.toNat - 48) n)
          | _ => .error ("invalid field number: " ++ inQuotes (String.ofList n))
    | _ => .error ("invalid field specifier: " ++ inQuotes (String.ofList part))

/-- The place of a field that an option names. -/
def readField (text : String) : Except String Nat :=
  match natural? text with
  | some (n + 1) => .ok n
  | _ => .error ("invalid field number: " ++ inQuotes text)

end Pairing

open Pairing in
/-- The lines of two sorted files in three columns: those of the first one only,
    those of the second one only, and those of both. -/
def comm : Utility := fun args =>
  let accepted : Accepted := .of "123z\x01\x02\x03" "\x04" [("check-order", '\x01'), ("nocheck-order", '\x02'),
    ("total", '\x03'), ("output-delimiter", '\x04'), ("zero-terminated", 'z')]
  withArgs "comm" 1 accepted args fun a =>
    withPair "comm" a fun x y => do
      let lineEnd := if a.has 'z' then '\x00' else '\n'
      let joint := match a.value? '\x04' with
        | some "" => "\x00"
        | some text => text
        | none => "\t"
      let c : Columns :=
        ⟨[1, 2, 3].filter fun n => a.has (Char.ofNat (48 + n)), joint, String.singleton lineEnd⟩
      let (xs, ys) := (linesTo lineEnd x, linesTo lineEnd y)
      let ((n1, n2, n3), p) := (compareFrom (careOf a) c xs ys (xs.size + ys.size + 1) 0 0 (0, 0, 0)).run
        ⟨#[], false, [], false⟩
      let total := joint.intercalate ([n1, n2, n3].map toString ++ ["total"]) ++ c.lineEnd
      finish "comm" "" (if a.has '\x03' && !p.stopped then { p with shown := p.shown.push (.line total) } else p)

open Pairing in
/-- Joins the lines of two sorted files that have the same key. -/
def join : Utility := fun args =>
  let accepted : Accepted := .of "iz\x01\x02\x03" "aejotv12" [("ignore-case", 'i'), ("check-order", '\x01'),
    ("nocheck-order", '\x02'), ("header", '\x03'), ("zero-terminated", 'z')]
  withArgs "join" 1 accepted args fun a => do
    let fail (message : String) : Step Nat := do
      warn "join" message
      return 1
    let field (letter : Char) : Except String Nat :=
      match a.value? letter <|> a.value? 'j' with
      | some text => readField text
      | none => .ok 0
    let isAuto := a.value? 'o' = some "auto"
    let cells : Except String (Option (List Cell)) :=
      if a.has 'o' && !isAuto then ((a.values 'o').mapM readCells).map fun parts => some parts.flatten else .ok none
    let numbers := a.values 'a' ++ a.values 'v'
    match numbers.find? (! ["1", "2"].contains ·), field '1', field '2', cells with
    | some text, _, _, _ => fail ("invalid field number: " ++ inQuotes text)
    | _, .error e, _, _ | _, _, .error e, _ | _, _, _, .error e => fail e
    | none, .ok first, .ok second, .ok cells =>
        let tab := (a.value? 't').getD ""
        if 1 < tab.length && tab != "\\0" then fail ("multi-character tab " ++ inQuotes tab)
        else withPair "join" a fun x y => do
          let lineEnd := if a.has 'z' then '\x00' else '\n'
          let k : Joiner :=
            { separator := match (a.value? 't').map String.toList with
                | some [] => some '\n'
                | some ['\\', '0'] => some '\x00'
                | some (c :: _) => some c
                | none => none
              caseless := a.has 'i'
              first := first
              second := second
              singles := [1, 2].filter fun n => numbers.contains (toString n)
              pairs := !a.has 'v'
              filler := (a.value? 'e').getD ""
              cells := cells
              sizes := none }
          let source (which : Nat) (text : String) : Keyed :=
            let lines := linesTo lineEnd text
            ⟨which, (a.operands[which - 1]?).getD "", lines, lines.map k.fields⟩
          let (x, y) := (source 1 x, source 2 y)
          let sizeOf (s : Keyed) : Nat := ((s.fields[0]?).map Array.size).getD 0
          let k := if isAuto then { k with sizes := some (sizeOf x, sizeOf y) } else k
          let header := if a.has '\x03' then 1 else 0
          let walk : Walk Unit := do
            if header = 1 && (0 < x.lines.size || 0 < y.lines.size) then emit (k.line x.fields[0]? y.fields[0]?)
            k.joinFrom (careOf a) x y header (x.lines.size + y.lines.size + 1) header header
          let ((), p) := walk.run ⟨#[], false, [], false⟩
          finish "join" (String.singleton lineEnd) p

end GuardedCnf.Utility
