import GuardedCnf.Utility.Basic
/-! # Counts of lines, words and bytes -/

namespace GuardedCnf.Utility

open Script

namespace Counting

/-- How much of everything there is in a text. -/
structure Counts where
  lines : Nat
  words : Nat
  bytes : Nat
  /-- The width of the widest line. -/
  width : Nat

/-- No text. -/
def Counts.none : Counts := ⟨0, 0, 0, 0⟩

/-- Two texts together. -/
def Counts.add (a b : Counts) : Counts :=
  ⟨a.lines + b.lines, a.words + b.words, a.bytes + b.bytes, max a.width b.width⟩

/-- Counts what is left of a text, given the column and whether there is a word. -/
def countFrom : Counts → Nat → Bool → List Char → Counts
  | n, column, inWord, [] =>
      { n with words := n.words + (if inWord then 1 else 0), width := max n.width column }
  | n, column, inWord, c :: cs =>
      let n := { n with bytes := n.bytes + 1 }
      let closed : Counts := { n with words := n.words + (if inWord then 1 else 0) }
      let newLine : Counts := { closed with width := max n.width column }
      if c = '\n' then countFrom { newLine with lines := n.lines + 1 } 0 false cs
      else if c = '\r' || c = '\x0c' then countFrom newLine 0 false cs
      else if c = '\t' then countFrom closed (column + (8 - column % 8)) false cs
      else if c = ' ' then countFrom closed (column + 1) false cs
      else if c = '\x0b' then countFrom closed column false cs
      else if ' ' < c && c ≤ '\x7e' then countFrom n (column + 1) true cs
      else countFrom n column inWord cs

/-- Counts a text. -/
def Counts.ofText (text : String) : Counts := countFrom .none 0 false text.toList

/-- The counts that letters ask for, in their order. -/
def Counts.chosen (n : Counts) (a : Args) : List Nat :=
  if a.options.isEmpty then [n.lines, n.words, n.bytes]
  else ([('l', n.lines), ('w', n.words), ('m', n.bytes), ('c', n.bytes), ('L', n.width)].filter
    fun x => a.has x.1).map (·.2)

/-- The size of what an operand leads to, if it is a file. -/
def fileSize (operand : String) : Step (Option (Option Nat)) := do
  let s ← get
  let node : Option NodeId ←
    if operand = "-" then pure (s.nodeOf? 0)
    else match ← find true operand with
      | .ok (.node id) => pure (some id)
      | _ => pure none
  return match node.map s.machine.host.tree.node with
    | some (.file bytes _) => some (some bytes.size)
    | some (.program _) => some (some 0)
    | some _ => some none
    | none => none

/-- The width of numbers for operands. -/
def numberWidth (operands : List String) (columns : Nat) : Step Nat := do
  let sizes ← operands.mapM fileSize
  if operands.length = 1 && columns = 1 then return 1
  else
    let total := (sizes.map fun size => ((size.getD none).getD 0)).foldl (· + ·) 0
    let isRegular := sizes.all fun size => size.all Option.isSome
    return max (toString total).length (if isRegular then 1 else 7)

end Counting

open Counting in
/-- Counts lines, words and bytes. -/
def wc : Utility := fun args =>
  withArgs "wc" 1 (.of "lwcmL" "" [("bytes", 'c'), ("chars", 'm'), ("lines", 'l'), ("words", 'w'),
    ("max-line-length", 'L')]) args fun a => do
    let operands := if a.operands.isEmpty then ["-"] else a.operands
    let width ← numberWidth operands (Counts.none.chosen a).length
    let shown (n : Counts) (name : String) : String :=
      " ".intercalate ((n.chosen a).map (aligned width)) ++ (if name.isEmpty then "" else " " ++ name) ++ "\n"
    let mut status := 0
    let mut total := Counts.none
    for operand in operands do
      let found ← match ← input operand with
        | .ok text => pure (some (Counts.ofText text))
        | .error e => do
            warn "wc" (plainWording operand e)
            status := 1
            pure (if e matches .isDirectory then some Counts.none else none)
      match found with
      | some n => do
          total := total.add n
          status := max status (← output "wc" (shown n (if a.operands.isEmpty then "" else operand)) 0)
      | none => pure ()
    if 1 < operands.length then status := max status (← output "wc" (shown total "total") 0)
    return status

end GuardedCnf.Utility
