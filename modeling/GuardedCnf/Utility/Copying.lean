import GuardedCnf.Utility.Basic
/-! # Copies of texts

    A text is copied as it is, or with marks for what cannot be seen and numbers
    before lines. -/

namespace GuardedCnf.Utility

open Script

namespace Copying

/-- What is shown in a copy besides the text. -/
structure Display where
  /-- Whether lines are numbered, and whether those that are empty are not. -/
  numbered : Bool
  onlyFull : Bool
  /-- Whether empty lines after an empty line are left out. -/
  squeezed : Bool
  ends : Bool
  tabs : Bool
  controls : Bool

/-- Whether a copy is the text itself. -/
def Display.isPlain (d : Display) : Bool :=
  !(d.numbered || d.squeezed || d.ends || d.tabs || d.controls)

/-- A character as it is shown. -/
def Display.char (d : Display) (c : Char) (next : Option Char) : String :=
  if c = '\t' then if d.tabs then "^I" else "\t"
  else if d.controls then caretForm c
  else if c = '\r' && next = some '\n' && d.ends then "^M"
  else String.singleton c

/-- Where in a line a copy is, and what came before. -/
structure Progress where
  atStart : Bool
  /-- How many empty lines came before, up to one. -/
  blanks : Nat
  /-- The number of the next line. -/
  number : Nat

/-- A number for a line. -/
def lineNumber (n : Nat) : String := aligned 6 n ++ "\t"

/-- A copy of a text after what came before. -/
def Display.copy (d : Display) : Progress → Array String → List Char → Array String × Progress
  | p, out, [] => (out, p)
  | p, out, c :: cs =>
      if c = '\n' then
        if p.atStart && d.squeezed && p.blanks = 1 then d.copy p out cs
        else
          let isCounted : Bool := p.atStart && d.numbered && !d.onlyFull
          let out := if isCounted then out.push (lineNumber p.number) else out
          d.copy ⟨true, if p.atStart then 1 else 0, if isCounted then p.number + 1 else p.number⟩
            (out.push (if d.ends then "$\n" else "\n")) cs
      else
        let isCounted : Bool := p.atStart && d.numbered
        let out := if isCounted then out.push (lineNumber p.number) else out
        d.copy ⟨false, 0, if isCounted then p.number + 1 else p.number⟩ (out.push (d.char c cs.head?)) cs

/-- Whether the output is appended to the file that an operand names, which would
    never end. -/
def readsOutput (operand : String) : Step Bool := do
  let s ← get
  let source : Option (NodeId × Nat) ←
    if operand = "-" then
      pure ((s.opening? 0).map fun number =>
        let o := s.machine.host.opening number
        (o.node, o.offset))
    else match ← find true operand with
      | .ok (.node id) => pure (some (id, 0))
      | _ => pure none
  match source, s.opening? 1 with
  | some (id, start), some number =>
      let o := s.machine.host.opening number
      match s.machine.host.tree.node id with
      | .file bytes _ => return o.node = id && start < (if o.appends then bytes.size else o.offset)
      | _ => return false
  | _, _ => return false

/-- The options of a copy. -/
def accepted : Accepted :=
  .of "AbeEnstTuv" "" [("number-nonblank", 'b'), ("number", 'n'), ("squeeze-blank", 's'),
    ("show-nonprinting", 'v'), ("show-ends", 'E'), ("show-tabs", 'T'), ("show-all", 'A')]

end Copying

open Copying in
/-- Copies files to the output. -/
def cat : Utility := fun args =>
  withArgs "cat" 1 accepted args fun a => do
    let d : Display :=
      { numbered := a.has 'n' || a.has 'b'
        onlyFull := a.has 'b'
        squeezed := a.has 's'
        ends := ['A', 'e', 'E'].any a.has
        tabs := ['A', 't', 'T'].any a.has
        controls := ['A', 'e', 't', 'v'].any a.has }
    if ((← get).opening? 1).isNone then
      warn "cat" "standard output: Bad file descriptor"
      return 1
    let mut status := 0
    let mut p : Progress := ⟨true, 0, 1⟩
    for operand in (if a.operands.isEmpty then ["-"] else a.operands) do
      let repeats ← readsOutput operand
      match ← input operand with
      | .error e => do
          warn "cat" (plainWording operand e)
          status := 1
      | .ok text =>
          if repeats then
            warn "cat" (shownName operand ++ ": input file is output file")
            status := 1
          else if d.isPlain then status := max status (← output "cat" text 0)
          else
            let (shown, next) := d.copy p #[] text.toList
            p := next
            status := max status (← output "cat" (String.join shown.toList) 0)
    let isClosed := ((← get).opening? 0).isNone
    if isClosed && (a.operands.isEmpty || a.operands.contains "-") then
      warn "cat" "closing standard input: Bad file descriptor"
      return 1
    return status

/-- Copies the standard input to files and to the output. -/
def tee : Utility := fun args =>
  withArgs "tee" 1 (.of "aip" "" [("append", 'a'), ("ignore-interrupts", 'i')]) args fun a => do
    let mut status := 0
    let mut openings : Array (String × Nat) := #[]
    for path in a.operands do
      match ← openPath path (if a.has 'a' then .append else .create) with
      | .ok number => openings := openings.push (path, number)
      | .error e => do
          warn "tee" (plainWording path e)
          status := 1
    match ← readStream 0 with
    | .error e => do
        warn "tee" ("read error: " ++ cause e)
        return 1
    | .ok text => do
        match ← write 1 text with
        | .ok () => pure ()
        | .error e => do
            warn "tee" (shownName "standard output" ++ ": " ++ cause e)
            status := 1
        for (path, number) in openings do
          match ← writeOpening number text with
          | .ok () => pure ()
          | .error e => do
              warn "tee" (plainWording path e)
              status := 1
        return status

/-- Writes a text again and again, until nobody reads. -/
def yes : Utility := fun args =>
  withArgs "yes" 1 (.of "" "" []) args fun a => do
    let line := (if a.operands.isEmpty then "y" else " ".intercalate a.operands) ++ "\n"
    let block := String.join (List.replicate (8192 / line.length + 1) line)
    let rec repeated : Nat → Step Nat
      | 0 => throw .late
      | fuel + 1 => do
          match ← write 1 block with
          | .ok () => repeated fuel
          | .error e => do
              warn "yes" ("standard output: " ++ cause e)
              return 1
    repeated 5000

end GuardedCnf.Utility
