import GuardedCnf.Utility.Basic
/-! # Tabs and widths

    Tab stops are multiples of a width, or in a list.  Tabs become spaces, spaces
    become tabs, and lines are cut at a width. -/

namespace GuardedCnf.Utility

open Script

namespace Tabs

/-! ## Tab stops. -/

/-- What comes after the last stop of a list. -/
inductive Beyond where
  | nothing
  /-- Multiples of a width. -/
  | multiples (width : Nat)
  /-- Steps of a width from the last stop. -/
  | steps (width : Nat)

/-- The places where tabs end. -/
structure Stops where
  listed : List Nat
  beyond : Beyond

/-- The stops without options. -/
def Stops.standard : Stops := ⟨[], .multiples 8⟩

/-- The stop after a column, if there is one. -/
def Stops.next (s : Stops) (column : Nat) : Option Nat :=
  match s.listed.find? (column < ·), s.beyond with
  | some stop, _ => some stop
  | none, .nothing => none
  | none, .multiples width => some (column + (width - column % width))
  | none, .steps width =>
      let last := s.listed.getLastD 0
      some (column + (width - (column - last) % width))

/-- What is read of a list of stops: the stops, marks before numbers, and the
    number that is being read. -/
structure Draft where
  stops : List Nat
  /-- The mark before the number. -/
  mark : Option Char
  beyond : Option (Char × Nat)
  number : Option (List Char)

/-- The draft after a number. -/
def Draft.close (d : Draft) : Except String Draft :=
  match d.number with
  | none => .ok d
  | some ds =>
      let n := Sum.ofDigits 10 ds.reverse
      match d.mark with
      | none => .ok { d with stops := d.stops ++ [n], number := none }
      | some mark =>
          if d.beyond.any (·.2 != 0) then
            .error ("'" ++ String.singleton mark ++ "' specifier only allowed with the last value")
          else .ok { d with beyond := some (mark, n), number := none }

/-- Reads a list of stops. -/
def readDraft : Nat → Draft → List Char → Except String Draft
  | 0, d, _ => .ok d
  | _, d, [] => d.close
  | fuel + 1, d, c :: cs =>
      if c = ',' || c = ' ' || c = '\t' then do readDraft fuel (← d.close) cs
      else if c = '/' || c = '+' then
        if d.number.isSome then
          .error ("'" ++ String.singleton c ++ "' specifier not at start of number: "
            ++ inQuotes (String.ofList (c :: cs)))
        else readDraft fuel { d with mark := some c } cs
      else if c.isDigit then readDraft fuel { d with number := some (c :: d.number.getD []) } cs
      else .error ("tab size contains invalid character(s): " ++ inQuotes (String.ofList (c :: cs)))

/-- The stops in lists. -/
def readStops (lists : List String) : Except String Stops := do
  let d ← lists.foldlM (fun d list => readDraft (list.length + 1) d list.toList)
    (⟨[], none, none, none⟩ : Draft)
  if d.stops.contains 0 then throw "tab size cannot be 0"
  if (d.stops.zip (d.stops.drop 1)).any fun (x, y) => y ≤ x then throw "tab sizes must be ascending"
  match d.stops, d.beyond with
  | [], none => return .standard
  | [], some (_, n) => return ⟨[], .multiples (if n = 0 then 8 else n)⟩
  | [n], none => return ⟨[], .multiples n⟩
  | stops, some (mark, n) =>
      return ⟨stops, if n = 0 then .nothing else if mark = '/' then .multiples n else .steps n⟩
  | stops, none => return ⟨stops, .nothing⟩

/-! ## Spaces for tabs. -/

/-- A line with spaces instead of tabs, from a column on; only at its beginning if
    `leading`. -/
def expanded (s : Stops) (leading : Bool) : Nat → List Char → List Char
  | _, [] => []
  | column, '\t' :: cs =>
      let stop := (s.next column).getD (column + 1)
      List.replicate (stop - column) ' ' ++ expanded s leading stop cs
  | column, '\x08' :: cs =>
      '\x08' :: if leading then cs else expanded s leading (column - 1) cs
  | column, c :: cs =>
      c :: if leading && c != ' ' then cs else expanded s leading (column + 1) cs

/-! ## Tabs for spaces. -/

/-- What is known of a line while spaces become tabs. -/
structure Progress where
  column : Nat
  /-- The blanks that may become a tab, the last one first. -/
  pending : List Char
  /-- Whether there was a single blank before a stop. -/
  single : Bool
  /-- Whether the last character was a blank. -/
  blank : Bool

/-- The pending blanks as they are written. -/
def Progress.flush (p : Progress) : List Char :=
  let blanks := p.pending.reverse
  if 1 < blanks.length && p.single then '\t' :: blanks.drop 1 else blanks

/-- A line with tabs instead of spaces; only at its beginning if `leading`. -/
def collapsed (s : Stops) (leading : Bool) : Progress → List Char → List Char
  | p, [] => p.flush
  | p, c :: cs =>
      let isBlank : Bool := c = ' ' || c = '\t'
      let goOn (p : Progress) (c : Char) : List Char :=
        p.flush ++ c :: (if leading && !isBlank then cs
          else collapsed s leading { p with pending := [], single := false, blank := isBlank } cs)
      if isBlank then
        match s.next p.column with
        | none => p.flush ++ c :: cs
        | some stop =>
            if c = '\t' then
              let pending := if p.pending.isEmpty then [] else p.pending.dropLast ++ ['\t']
              let kept := if p.single then pending.drop (pending.length - 1) else []
              goOn { p with column := stop, pending := kept } '\t'
            else
              let column := p.column + 1
              if p.blank && column = stop then
                let kept := if p.single then ['\t'] else []
                goOn { p with column := column, pending := kept } '\t'
              else
                collapsed s leading
                  { column := column, pending := c :: p.pending, single := p.single || column = stop
                    blank := true } cs
      else if c = '\x08' then goOn { p with column := p.column - 1 } c
      else goOn { p with column := p.column + 1 } c

/-! ## Widths. -/

/-- The column after a character. -/
def columnAfter (bytes : Bool) (column : Nat) (c : Char) : Nat :=
  if bytes then column + 1
  else match c with
    | '\x08' => column - 1
    | '\r' => 0
    | '\t' => column + (8 - column % 8)
    | _ => column + 1

/-- A line cut at a width, perhaps after blanks; the characters since the last cut
    are `sofar`, the last one first. -/
def folded (bytes atBlanks : Bool) (width : Nat) : Nat → List Char → Nat → List Char → List Char
  | 0, sofar, _, cs => sofar.reverse ++ cs
  | _, sofar, _, [] => sofar.reverse
  | fuel + 1, sofar, column, c :: cs =>
      let next := columnAfter bytes column c
      if next ≤ width then folded bytes atBlanks width fuel (c :: sofar) next cs
      else
        let isBlank (c : Char) : Bool := c = ' ' || c = '\t'
        let rest := sofar.takeWhile (!isBlank ·)
        let kept := sofar.drop rest.length
        if atBlanks && !kept.isEmpty then
          let column := rest.reverse.foldl (columnAfter bytes) 0
          kept.reverse ++ '\n' :: folded bytes atBlanks width fuel rest column (c :: cs)
        else if sofar.isEmpty then folded bytes atBlanks width fuel [c] next cs
        else sofar.reverse ++ '\n' :: folded bytes atBlanks width fuel [] 0 (c :: cs)

/-- What is made of each line of files, which follow each other without a break. -/
def eachLine (name : String) (operands : List String) (f : List Char → List Char) : Step Nat := do
  let line (text : String) : String := String.ofList (f text.toList)
  let (rest, status) ← showEach name plainWording operands "" fun before text =>
    let lines := (before ++ text).splitOn "\n"
    (lines.getLast?.getD "", String.join (lines.dropLast.map fun l => line l ++ "\n"))
  return max status (← output name (line rest) 0)

/-- Digits as options become the value of an option. -/
def spellDigits (option : String) : List String → List String
  | [] => []
  | "--" :: args => "--" :: args
  | arg :: args =>
      match arg.toList with
      | '-' :: c :: cs =>
          if c.isDigit then (option ++ String.ofList (c :: cs)) :: spellDigits option args
          else if arg = option then arg :: (args.take 1 ++ spellDigits option (args.drop 1))
          else arg :: spellDigits option args
      | _ => arg :: spellDigits option args
termination_by args => args.length
decreasing_by all_goals (simp_wf; try omega)

end Tabs

open Tabs in
/-- Writes files with spaces instead of tabs. -/
def expand : Utility := fun args =>
  withArgs "expand" 1 (.of "i" "t" [("initial", 'i'), ("tabs", 't')]) (spellDigits "-t" args) fun a => do
    match readStops (a.values 't') with
    | .error message => do
        warn "expand" message
        return 1
    | .ok stops => eachLine "expand" a.operands (expanded stops (a.has 'i') 0)

open Tabs in
/-- Writes files with tabs instead of spaces. -/
def unexpand : Utility := fun args =>
  withArgs "unexpand" 1 (.of "a\x01" "t" [("tabs", 't'), ("all", 'a'), ("first-only", '\x01')])
      (spellDigits "-t" args) fun a => do
    match readStops (a.values 't') with
    | .error message => do
        warn "unexpand" message
        return 1
    | .ok stops =>
        let leading := !(a.has 'a' || a.has 't') || a.has '\x01'
        eachLine "unexpand" a.operands (collapsed stops leading ⟨0, [], false, true⟩)

open Tabs in
/-- Cuts long lines. -/
def fold : Utility := fun args =>
  withArgs "fold" 1 (.of "bs" "w" [("bytes", 'b'), ("spaces", 's'), ("width", 'w')])
      (spellDigits "-w" args) fun a =>
    withSize "fold" "invalid number of columns" "" 1 (a.value? 'w') 80 fun width => do
      let line (cs : List Char) : String :=
        String.ofList (folded (a.has 'b') (a.has 's') width (2 * cs.length + 2) [] 0 cs)
      let shown (text : String) : String := "\n".intercalate ((text.splitOn "\n").map fun l => line l.toList)
      return (← showEach "fold" plainWording a.operands () fun _ text => ((), shown text)).2

end GuardedCnf.Utility
