import GuardedCnf.Utility.Basic
import GuardedCnf.Utility.Regex.Plain
/-! # Opposite orders — of the parts of a text, and of the characters of lines

    Parts end with a separator, or begin with one.  The last part comes first. -/

namespace GuardedCnf.Utility

open Script

namespace Reversal

/-- Where separators are: from the last one on, with the places where they begin and
    end.  They do not overlap; what comes after `limit` is past them. -/
def separators (match_ : Nat → Nat → Option Nat) : Nat → Nat → List (Nat × Nat)
  | 0, _ => []
  | start + 1, limit =>
      match match_ start limit with
      | some stop => (start, stop) :: separators match_ start start
      | none => separators match_ start limit

/-- Whether a text is at a place, and where it ends. -/
def literalAt (text mark : Array Char) (start limit : Nat) : Option Nat :=
  if start + mark.size ≤ limit && text.extract start (start + mark.size) == mark then
    some (start + mark.size)
  else none

/-- The match of a pattern at a place, and where it ends. -/
def patternAt (text : Array Char) (r : Regex) (start limit : Nat) : Option Nat :=
  match r.matchAt (text.extract 0 limit) start with
  | some m => if m.start < m.stop then some m.stop else none
  | none => none

/-- The parts of a text from the last one on, given its separators. -/
def parts (text : Array Char) (before : Bool) : Nat → List (Nat × Nat) → List String
  | stop, [] => [String.ofList (text.extract 0 stop).toList]
  | stop, (start, finish) :: more =>
      let cut := if before then start else finish
      String.ofList (text.extract cut stop).toList :: parts text before cut more

end Reversal

open Reversal in
/-- The parts of files in the opposite order. -/
def tac : Utility := fun args =>
  withArgs "tac" 1 (.of "br" "s" [("before", 'b'), ("regex", 'r'), ("separator", 's')]) args fun a => do
    let separator := (a.value? 's').getD "\n"
    let mark := if separator.isEmpty then "\x00" else separator
    let fail (message : String) : Step Nat := do
      warn "tac" message
      return 1
    if a.has 'r' && separator.isEmpty then fail "separator cannot be empty"
    else match if a.has 'r' then (Regex.ofText (.searching false false) separator).map some else .ok none with
      | .error message => fail message
      | .ok pattern => do
          let mut status := 0
          let mut shown := #[]
          for operand in (if a.operands.isEmpty then ["-"] else a.operands) do
            match ← input operand with
            | .error .isDirectory => do
                warn "tac" (shownName operand ++ ": read error: Invalid argument")
                status := 1
            | .error e => do
                warn "tac" ("failed to open " ++ inQuotes operand ++ " for reading: " ++ cause e)
                status := 1
            | .ok text => do
                let cs := text.toList.toArray
                let at_ := match pattern with
                  | some r => patternAt cs r
                  | none => literalAt cs mark.toList.toArray
                let reversed := parts cs (a.has 'b') cs.size (separators at_ cs.size cs.size)
                shown := shown.push (String.join reversed)
          return max status (← output "tac" (String.join shown.toList) 0)

/-- The characters of each line in the opposite order. -/
def rev : Utility := fun args =>
  withArgs "rev" 1 (.of "" "" []) args fun a => do
    let (texts, complete) ← inputs "rev" (fun operand e => "cannot open " ++ operand ++ ": " ++ cause e)
      a.operands
    let reversed (text : String) : String :=
      let (lines, ended) := linesOf text
      unlinesAs (lines.map fun l => String.ofList l.toList.reverse) ended
    output "rev" (String.join (texts.map fun t => reversed t.2)) (statusOf complete 1)

end GuardedCnf.Utility
