import GuardedCnf.Format.Basic
import GuardedCnf.Text.Blank
import GuardedCnf.Text.Lines
/-! # The text format — one conjunct on each line

    A number sign begins a comment, and lines without anything else than white
    space are skipped.  Every other line is an expression, whose normal form is
    a conjunct. -/

namespace GuardedCnf.Format.Text

open GuardedCnf.Text

/-- What a line says before its comment. -/
def content (line : String) : List Char := line.toList.takeWhile (· != '#')

/-- Reads the conjunct of a line, if it has one. -/
def readLine (i : Nat) (line : String) : Parsing (Option Formula) := do
  let text := content line
  if text.all isBlank then return none
  match Expr.ofLine text with
  | .error e => throw (.line i e)
  | .ok e => return some (← e.lower.adaptExcept (.undeclared i)).nnf

/-- Reads the conjuncts of lines, numbering them from `i`. -/
def readLines (i : Nat) : List (Option String) → Parsing (List Formula)
  | [] => return []
  | none :: _ => throw (.lines .notText)
  | some line :: rest => do
      let conjunct ← readLine i line
      let others ← readLines (i + 1) rest
      return conjunct.toList ++ others

/-- Reads a file. -/
def parse : Source → Parsing Formula
  | .error e => throw (.lines e)
  | .ok bytes => do return .and (← readLines 1 (textLines bytes))

end GuardedCnf.Format.Text

namespace GuardedCnf.Format

/-- The text format. -/
def text : Format := ⟨"formula", ["formula", "txt"], Text.parse⟩

end GuardedCnf.Format
