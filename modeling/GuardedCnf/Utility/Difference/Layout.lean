import GuardedCnf.Script.Printing
import GuardedCnf.Utility.Basic
import GuardedCnf.Utility.Difference.Change
import GuardedCnf.Utility.Regex.Plain
/-! # Layouts — how changes are shown

    Changes that are near each other make a hunk.  Each style has its own way to show
    hunks: with what is around them or without, as commands for an editor, as text
    with marks for both versions, or side by side. -/

namespace GuardedCnf.Utility.Difference

open Script

/-- A way to show changes. -/
inductive Style where
  | normal
  | context
  | unified
  /-- Commands from the end to the beginning. -/
  | commands
  /-- Commands from the beginning on, which a number of lines follows. -/
  | counted
  /-- Commands from the beginning on. -/
  | forward
  | columns
  /-- Both versions with what tells them apart. -/
  | merged
deriving BEq

/-- What differences in blanks do not count. -/
structure Blanks where
  /-- All blanks. -/
  all : Bool
  /-- How many blanks there are, and those at the ends of lines. -/
  amount : Bool
  /-- Those at the ends of lines. -/
  trailing : Bool
  /-- Tabs instead of spaces. -/
  tabs : Bool

/-- Whether blanks at the ends of lines do not count. -/
def Blanks.isLoose (b : Blanks) : Bool := b.all || b.amount || b.trailing

/-- The formats of lines and groups of lines for both versions. -/
structure Formats where
  oldLine : String
  newLine : String
  commonLine : String
  old : String
  new : String
  common : String
  changed : String

/-- How changes are shown. -/
structure Layout where
  style : Style
  /-- How many lines are shown around a change. -/
  context : Nat
  /-- Whether a tab comes after the mark of a line. -/
  tabbed : Bool
  /-- Whether tabs are shown as spaces. -/
  expanded : Bool
  tabSize : Nat
  /-- Whether no blank follows the mark of an empty line. -/
  trimmed : Bool
  width : Nat
  /-- Whether common lines are shown at the left only, or not at all. -/
  leftOnly : Bool
  onlyChanged : Bool
  /-- What begins a part of a text, of which hunks show the last one. -/
  heading : Option Regex
  /-- Whether changes of empty lines are left out. -/
  skipsEmpty : Bool
  /-- Changes of lines with one of these are left out. -/
  skips : List Regex
  blanks : Blanks
  formats : Formats

/-- Two texts that are compared, as lines with their ends. -/
structure Texts where
  old : Array String
  new : Array String

/-- Changes that are shown together. -/
abbrev Hunk := List Change

namespace Hunk

/-- The first line in the old text. -/
def oldStart (h : Hunk) : Nat := (h.head?.map (·.oldStart)).getD 0

/-- The first line in the new text. -/
def newStart (h : Hunk) : Nat := (h.head?.map (·.newStart)).getD 0

/-- The end in the old text. -/
def oldEnd (h : Hunk) : Nat := (h.getLast?.map fun c => c.oldStart + c.removed).getD 0

/-- The end in the new text. -/
def newEnd (h : Hunk) : Nat := (h.getLast?.map fun c => c.newStart + c.added).getD 0

/-- Whether lines go. -/
def removes (h : Hunk) : Bool := h.any (0 < ·.removed)

/-- Whether lines come. -/
def adds (h : Hunk) : Bool := h.any (0 < ·.added)

end Hunk

/-- The lines of a text from a place to another one. -/
def between (lines : Array String) (start stop : Nat) : List String := (lines.extract start stop).toList

/-- A line without its end. -/
def bare (line : String) : String :=
  if line.endsWith "\n" then String.ofList line.toList.dropLast else line

namespace Layout

/-- Whether a change of a line can be left out. -/
def isIdleLine (l : Layout) (line : String) : Bool :=
  let text := bare line
  (l.skipsEmpty && (text.isEmpty || (l.blanks.isLoose && text.toList.all Printing.isBlank)))
    || l.skips.any (·.isIn text)

/-- Whether a change can be left out. -/
def isIdle (l : Layout) (t : Texts) (c : Change) : Bool :=
  (l.skipsEmpty || !l.skips.isEmpty)
    && (between t.old c.oldStart (c.oldStart + c.removed)).all l.isIdleLine
    && (between t.new c.newStart (c.newStart + c.added)).all l.isIdleLine

/-- The hunks of changes: with lines around them, changes stay together if those of
    their lines touch. -/
def hunks (l : Layout) (t : Texts) : List Change → List Hunk
  | [] => []
  | c :: cs =>
      let isApart (d : Change) : Bool :=
        let least := if l.isIdle t c || l.isIdle t d then l.context else 2 * l.context + 1
        least ≤ d.oldStart - (c.oldStart + c.removed)
      if l.style == .context || l.style == .unified then
        match l.hunks t cs with
        | (d :: h) :: hs => if isApart d then [c] :: (d :: h) :: hs else (c :: d :: h) :: hs
        | hs => [c] :: hs
      else [c] :: l.hunks t cs

/-! ## Lines. -/

/-- The characters of a line with spaces for tabs, given a mark that is repeated where
    the line starts anew. -/
def spread (tabSize : Nat) (mark : String) : Nat → List Char → List Char
  | _, [] => []
  | column, c :: cs =>
      match c with
      | '\t' =>
          let n := tabSize - column % tabSize
          List.replicate n ' ' ++ spread tabSize mark (column + n) cs
      | '\r' =>
          let again := if cs.isEmpty || cs.head? = some '\n' then [] else mark.toList
          c :: (again ++ spread tabSize mark 0 cs)
      | '\x08' => if column = 0 then spread tabSize mark column cs else c :: spread tabSize mark (column - 1) cs
      | c => c :: spread tabSize mark (if ' ' ≤ c && c ≤ '\x7e' then column + 1 else column) cs

/-- A line without its mark. -/
def lineText (l : Layout) (mark line : String) : String :=
  if l.expanded then String.ofList (spread l.tabSize mark 0 line.toList) else line

/-- What follows a line without an end. -/
def endNote (line : String) : String := if line.endsWith "\n" then "" else "\n\\ No newline at end of file\n"

/-- A line after a mark. -/
def marked (l : Layout) (mark line : String) : String :=
  if mark.isEmpty then l.lineText "" line
  else
    let isBare : Bool := l.trimmed && line = "\n"
    let shown := if isBare then (if mark = " " then "" else mark) else mark ++ (if l.tabbed then "\t" else " ")
    shown ++ l.lineText (mark ++ if l.tabbed then "\t" else " ") line ++ endNote line

/-- The numbers of lines from a place to another one. -/
def range (mark : String) (start stop : Nat) : String :=
  if start + 1 < stop then toString (start + 1) ++ mark ++ toString stop else toString stop

/-! ## Commands. -/

/-- The letter for what a hunk does. -/
def letter (h : Hunk) : String := if !h.removes then "a" else if !h.adds then "d" else "c"

/-- The lines that come, for an editor that reads up to a line with a point; whether
    it reads at the moment. -/
def typed (l : Layout) : Bool → List String → String
  | isReading, [] => if isReading then ".\n" else ""
  | isReading, line :: lines =>
      (if isReading then "" else "a\n")
        ++ if line = ".\n" then "..\n.\ns/.//\n" ++ l.typed false lines else l.lineText "" line ++ l.typed true lines

/-- A hunk as commands or in the normal style. -/
def plainHunk (l : Layout) (t : Texts) (h : Hunk) : String :=
  let old := between t.old h.oldStart h.oldEnd
  let new := between t.new h.newStart h.newEnd
  let lines (mark : String) (lines : List String) : String := String.join (lines.map (l.marked mark))
  match l.style with
  | .commands =>
      range "," h.oldStart h.oldEnd ++ letter h ++ "\n" ++ if h.adds then l.typed true new else ""
  | .forward =>
      letter h ++ range " " h.oldStart h.oldEnd ++ "\n" ++ if h.adds then lines "" new ++ ".\n" else ""
  | .counted =>
      (if h.removes then "d" ++ toString (h.oldStart + 1) ++ " " ++ toString old.length ++ "\n" else "")
        ++ if h.adds then "a" ++ toString h.oldEnd ++ " " ++ toString new.length ++ "\n" ++ lines "" new else ""
  | _ =>
      range "," h.oldStart h.oldEnd ++ letter h ++ range "," h.newStart h.newEnd ++ "\n"
        ++ lines "<" old ++ (if h.removes && h.adds then "---\n" else "") ++ lines ">" new

/-! ## Lines around hunks. -/

/-- The last line before a place that begins a part of a text, as hunks show it. -/
def headingBefore (l : Layout) (lines : Array String) (place : Nat) : String :=
  match l.heading with
  | none => ""
  | some r =>
      match ((between lines 0 place).reverse).find? fun line => r.isIn (bare line) with
      | none => ""
      | some line =>
          let cs := ((bare line).toList.dropWhile Printing.isBlank).take 40
          " " ++ String.ofList (cs.reverse.dropWhile Printing.isBlank).reverse

/-- The places around a hunk. -/
def around (l : Layout) (lines : Array String) (start stop : Nat) : Nat × Nat :=
  (start - l.context, min (stop + l.context) lines.size)

/-- The lines of a hunk in one text, with marks. -/
def contextLines (l : Layout) (lines : Array String) (start stop : Nat) (mark : Nat → String) : String :=
  String.join ((List.range' start (stop - start)).map fun i => l.marked (mark i) (lines.getD i ""))

/-- A hunk with the lines around it, first in the old text and then in the new one. -/
def contextHunk (l : Layout) (t : Texts) (h : Hunk) : String :=
  let (i, iEnd) := l.around t.old h.oldStart h.oldEnd
  let (j, jEnd) := l.around t.new h.newStart h.newEnd
  let oldMark (n : Nat) : String :=
    match h.find? fun c => n < c.oldStart + c.removed with
    | some c => if n < c.oldStart then " " else if 0 < c.added then "!" else "-"
    | none => " "
  let newMark (n : Nat) : String :=
    match h.find? fun c => n < c.newStart + c.added with
    | some c => if n < c.newStart then " " else if 0 < c.removed then "!" else "+"
    | none => " "
  "***************" ++ l.headingBefore t.old i ++ "\n*** " ++ range "," i iEnd ++ " ****\n"
    ++ (if h.removes then l.contextLines t.old i iEnd oldMark else "")
    ++ "--- " ++ range "," j jEnd ++ " ----\n"
    ++ if h.adds then l.contextLines t.new j jEnd newMark else ""

/-- The place of lines in a unified hunk. -/
def unifiedRange (start stop : Nat) : String :=
  if stop = start then toString stop ++ ",0"
  else if stop = start + 1 then toString stop
  else toString (start + 1) ++ "," ++ toString (stop - start)

/-- The lines of a unified hunk from a place on. -/
def unifiedLines (l : Layout) (t : Texts) (i stop : Nat) : Hunk → String
  | [] => String.join ((between t.old i stop).map shared)
  | c :: cs =>
      let changed (mark line : String) : String :=
        mark ++ (if l.tabbed && !(l.trimmed && line = "\n") then "\t" else "") ++ l.lineText "" line ++ endNote line
      String.join ((between t.old i c.oldStart).map shared)
        ++ String.join ((between t.old c.oldStart (c.oldStart + c.removed)).map (changed "-"))
        ++ String.join ((between t.new c.newStart (c.newStart + c.added)).map (changed "+"))
        ++ l.unifiedLines t (c.oldStart + c.removed) stop cs
where
  /-- A line of both texts. -/
  shared (line : String) : String :=
    (if l.trimmed && line = "\n" then "" else if l.tabbed then "\t" else " ") ++ l.lineText "" line ++ endNote line

/-- A hunk with the lines around it, where both texts are one. -/
def unifiedHunk (l : Layout) (t : Texts) (h : Hunk) : String :=
  let (i, iEnd) := l.around t.old h.oldStart h.oldEnd
  let (j, jEnd) := l.around t.new h.newStart h.newEnd
  "@@ -" ++ unifiedRange i iEnd ++ " +" ++ unifiedRange j jEnd ++ " @@" ++ l.headingBefore t.old i ++ "\n"
    ++ l.unifiedLines t i iEnd h

/-! ## Columns. -/

/-- The width of a column, and where the second one begins. -/
def columnSizes (l : Layout) : Nat × Nat :=
  let tab := if l.expanded then 1 else l.tabSize
  let least := 3
  let both := tab + least
  let middle := l.width / 2 + both / 2 + (if l.width % 2 = 1 && both % 2 = 1 then 1 else 0)
  let start := middle - middle % tab
  let half := if start ≤ least || l.width ≤ start then 0 else min (start - least) (l.width - start)
  (half, if half = 0 then l.width else start)

/-- What leads from a column to another one. -/
def gap (l : Layout) (start stop : Nat) : List Char :=
  if l.expanded then List.replicate (stop - start) ' '
  else
    let tabs := stop / l.tabSize - start / l.tabSize
    if tabs = 0 then List.replicate (stop - start) ' '
    else List.replicate tabs '\t' ++ List.replicate (stop % l.tabSize) ' '

/-- A line in a column that begins at `indent`, after characters that take `shown`
    columns of `seen`; and how many columns are taken. -/
def half (l : Layout) (indent bound : Nat) : Nat → Nat → List Char → List Char × Nat
  | _, shown, [] | _, shown, '\n' :: _ => ([], shown)
  | seen, shown, c :: cs =>
      match c with
      | '\t' =>
          let n := l.tabSize - seen % l.tabSize
          let stop := shown + n
          if seen != shown then l.half indent bound (seen + n) shown cs
          else if l.expanded then
            let stop := min bound stop
            let (rest, last) := l.half indent bound (seen + n) stop cs
            (List.replicate (stop - shown) ' ' ++ rest, last)
          else if stop < bound then
            let (rest, last) := l.half indent bound (seen + n) stop cs
            (c :: rest, last)
          else l.half indent bound (seen + n) shown cs
      | '\r' =>
          let (rest, last) := l.half indent bound 0 0 cs
          (c :: l.gap 0 indent ++ rest, last)
      | '\x08' =>
          if 0 < seen && seen - 1 < bound then
            let (rest, last) := l.half indent bound (seen - 1) (seen - 1) cs
            (if shown ≤ seen - 1 then (List.replicate (seen - 1 - shown) ' ' ++ rest, last) else (c :: rest, last))
          else l.half indent bound (seen - 1) shown cs
      | c =>
          if ' ' ≤ c && c ≤ '\x7e' then
            if seen < bound then
              let (rest, last) := l.half indent bound (seen + 1) (seen + 1) cs
              (c :: rest, last)
            else l.half indent bound (seen + 1) shown cs
          else if seen < bound then
            let (rest, last) := l.half indent bound seen shown cs
            (c :: rest, last)
          else l.half indent bound seen shown cs

/-- A line of each text, or of one, with a mark in between. -/
def row (l : Layout) (left : Option String) (mark : Char) (right : Option String) : String :=
  let (width, second) := l.columnSizes
  let isEnded (line : Option String) : Bool := line.any (·.endsWith "\n")
  let (start, column) := match left with
    | some line => l.half 0 width 0 0 line.toList
    | none => ([], 0)
  let mark := if mark = '|' && isEnded left != isEnded right then (if isEnded left then '/' else '\\') else mark
  let (middle, column) :=
    if mark = ' ' then ([], column)
    else
      let place := (width + second - 1) / 2
      (l.gap column place ++ [mark], place + 1)
  let finish := match right with
    | some line => if line = "\n" then [] else l.gap column second ++ (l.half second width 0 0 line.toList).1
    | none => []
  String.ofList (start ++ middle ++ finish) ++ if isEnded left || isEnded right then "\n" else ""

/-- The lines of both texts side by side; those that are left if one text has more
    stand alone. -/
def commonRows (l : Layout) : List String → List String → List String
  | x :: xs, y :: ys =>
      (if l.leftOnly then l.row (some x) '(' none else l.row (some x) ' ' (some y)) :: l.commonRows xs ys
  | [], ys => if l.leftOnly then [] else ys.map fun y => l.row none ')' (some y)
  | xs, [] => xs.map fun x => l.row (some x) '(' none

/-- The rows of a change. -/
def changedRows (l : Layout) : Bool → List String → List String → List String
  | true, x :: xs, y :: ys => l.row (some x) '|' (some y) :: l.changedRows true xs ys
  | _, xs, ys => (ys.map fun y => l.row none '>' (some y)) ++ xs.map fun x => l.row (some x) '<' none

/-- Two texts side by side, from two places on. -/
def rows (l : Layout) (t : Texts) (i j : Nat) : List Hunk → List String
  | [] => common i t.old.size j t.new.size
  | h :: hs =>
      common i h.oldStart j h.newStart
        ++ l.changedRows (h.removes && h.adds) (between t.old h.oldStart h.oldEnd) (between t.new h.newStart h.newEnd)
        ++ l.rows t h.oldEnd h.newEnd hs
where
  /-- Lines of both texts. -/
  common (i iEnd j jEnd : Nat) : List String :=
    if l.onlyChanged then [] else l.commonRows (between t.old i iEnd) (between t.new j jEnd)

/-! ## Both versions. -/

/-- The lines of both texts that are shown together, by their places. -/
structure Group where
  old : Nat × Nat
  new : Nat × Nat

/-- What a letter of a format stands for. -/
def Group.number? (g : Group) (letter : Char) : Option Nat :=
  let (start, stop) := if letter.isUpper then g.new else g.old
  match letter.toLower with
  | 'e' => some start
  | 'f' => some (start + 1)
  | 'l' => some stop
  | 'm' => some (stop + 1)
  | 'n' => some (stop - start)
  | _ => none

/-- A number in a format after its percent sign, and what follows; `none` if it is no
    such format. -/
def numberSpec? (number? : Char → Option Nat) (cs : List Char) : Option (String × List Char) :=
  let isLeft := cs.head? = some '-'
  let cs := if isLeft then cs.drop 1 else cs
  let width := cs.takeWhile Char.isDigit
  let cs := cs.drop width.length
  let (least, cs) := match cs with
    | '.' :: cs => (cs.takeWhile Char.isDigit, cs.dropWhile Char.isDigit)
    | cs => ([], cs)
  match cs with
  | kind :: letter :: rest =>
      match [('d', 10), ('o', 8), ('x', 16), ('X', 16)].lookup kind, number? letter with
      | some base, some n =>
          let digits := Nat.toDigits base n
          let digits := if kind = 'X' then digits.map Char.toUpper else digits
          let digits := List.replicate (Sum.ofDigits 10 least - digits.length) '0' ++ digits
          let blanks := List.replicate (Sum.ofDigits 10 width - digits.length) ' '
          some (String.ofList (if isLeft then digits ++ blanks else blanks ++ digits), rest)
      | _, _ => none
  | _ => none

/-- A character in a format after its percent sign, and what follows. -/
def charSpec? : List Char → Option (String × List Char)
  | 'c' :: '\'' :: '\\' :: cs =>
      let digits := cs.takeWhile fun c => '0' ≤ c && c ≤ '7'
      match cs.drop digits.length with
      | '\'' :: rest => if digits.isEmpty then none else some (String.singleton (Char.ofNat (Sum.ofDigits 8 digits)), rest)
      | _ => none
  | 'c' :: '\'' :: c :: '\'' :: rest => if c = '\'' then none else some (String.singleton c, rest)
  | _ => none

/-- A line in a format, given its number. -/
def lineIn (l : Layout) (line : String) (n : Nat) : Nat → List Char → String
  | 0, _ | _, [] => ""
  | fuel + 1, '%' :: cs =>
      match cs with
      | '%' :: cs => "%" ++ l.lineIn line n fuel cs
      | 'l' :: cs => l.lineText "" (bare line) ++ l.lineIn line n fuel cs
      | 'L' :: cs => l.lineText "" line ++ l.lineIn line n fuel cs
      | cs =>
          match charSpec? cs <|> numberSpec? (fun c => if c = 'n' then some n else none) cs with
          | some (text, cs) => text ++ l.lineIn line n fuel cs
          | none => "%" ++ l.lineIn line n fuel cs
  | fuel + 1, c :: cs => String.singleton c ++ l.lineIn line n fuel cs

/-- Lines in a format. -/
def linesIn (l : Layout) (format : String) (lines : Array String) (span : Nat × Nat) : String :=
  String.join ((List.range' span.1 (span.2 - span.1)).map fun i =>
    l.lineIn (lines.getD i "") (i + 1) (format.length + 1) format.toList)

/-- A number of a condition in a format, and what follows. -/
def operand? (g : Group) (cs : List Char) : Option (Nat × List Char) :=
  let digits := cs.takeWhile Char.isDigit
  if !digits.isEmpty then some (Sum.ofDigits 10 digits, cs.drop digits.length)
  else match cs with
    | c :: cs => (g.number? c).map fun n => (n, cs)
    | [] => none

/-- The condition of a format, and what follows. -/
def condition? (g : Group) (cs : List Char) : Option (Bool × List Char) := do
  match ← operand? g cs with
  | (m, '=' :: cs) =>
      match ← operand? g cs with
      | (n, '?' :: cs) => some (m == n, cs)
      | _ => none
  | _ => none

/-- A group of lines in a format up to a character, and what follows. -/
def groupIn (l : Layout) (t : Texts) (g : Group) (stop : Option Char) : Nat → List Char → String × List Char
  | 0, cs => ("", cs)
  | _, [] => ("", [])
  | fuel + 1, c :: cs =>
      if some c = stop then ("", c :: cs)
      else
        let more (text : String) (cs : List Char) : String × List Char :=
          let (rest, cs) := l.groupIn t g stop fuel cs
          (text ++ rest, cs)
        if c != '%' then more (String.singleton c) cs
        else match cs with
          | '%' :: cs => more "%" cs
          | '<' :: cs => more (l.linesIn l.formats.oldLine t.old g.old) cs
          | '=' :: cs => more (l.linesIn l.formats.commonLine t.old g.old) cs
          | '>' :: cs => more (l.linesIn l.formats.newLine t.new g.new) cs
          | '(' :: inner =>
              match condition? g inner with
              | none => more "%" cs
              | some (holds, inner) =>
                  let (yes, rest) := l.groupIn t g (some ':') fuel inner
                  let (no, rest) := if rest.isEmpty then ("", []) else l.groupIn t g (some ')') fuel (rest.drop 1)
                  more (if holds then yes else no) (rest.drop 1)
          | cs =>
              match charSpec? cs <|> numberSpec? g.number? cs with
              | some (text, cs) => more text cs
              | none => more "%" cs

/-- A group of lines in a format. -/
def group (l : Layout) (t : Texts) (format : String) (g : Group) : String :=
  (l.groupIn t g none (format.length + 1) format.toList).1

/-- Both versions of a text, from two places on. -/
def versions (l : Layout) (t : Texts) (i j : Nat) : List Hunk → String
  | [] =>
      if i < t.old.size || j < t.new.size then l.group t l.formats.common ⟨(i, t.old.size), (j, t.new.size)⟩ else ""
  | h :: hs =>
      let format :=
        if !h.adds then l.formats.old else if !h.removes then l.formats.new else l.formats.changed
      (if i < h.oldStart || j < h.newStart then
          l.group t l.formats.common ⟨(i, h.oldStart), (j, h.newStart)⟩ else "")
        ++ l.group t format ⟨(h.oldStart, h.oldEnd), (h.newStart, h.newEnd)⟩
        ++ l.versions t h.oldEnd h.newEnd hs

/-! ## Everything. -/

/-- Whether texts without changes are shown. -/
def showsCommon (l : Layout) : Bool :=
  match l.style with
  | .columns => !l.onlyChanged
  | .merged => !(l.formats.common.isEmpty || (l.formats.common = "%=" && l.formats.commonLine.isEmpty))
  | _ => false

/-- What is shown for changes. -/
def shown (l : Layout) (t : Texts) (changes : List Change) : String :=
  let hunks := (l.hunks t changes).filter fun h => !h.all (l.isIdle t)
  match l.style with
  | .columns => String.join (l.rows t 0 0 hunks)
  | .merged => l.versions t 0 0 hunks
  | .context => String.join (hunks.map (l.contextHunk t))
  | .unified => String.join (hunks.map (l.unifiedHunk t))
  | .commands => String.join (hunks.reverse.map (l.plainHunk t))
  | _ => String.join (hunks.map (l.plainHunk t))

end Layout

end GuardedCnf.Utility.Difference
