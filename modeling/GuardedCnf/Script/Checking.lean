import GuardedCnf.Script.Builtin
import GuardedCnf.Utility.Regex.Plain
/-! # Conditions and sums as commands

    In the extended dialect a condition between double brackets compares texts with
    patterns and regular expressions, and numbers with sums.  A sum between double
    parentheses holds if it is not zero. -/

namespace GuardedCnf.Script

/-- The text of a regular expression in glyphs, where quoted characters stand for
    themselves. -/
def regexText (gs : List Glyph) : String :=
  String.join (gs.map fun
    | .char c origin =>
        if origin = .quotes && !c.isAlphanum && c != '_' && c != ' ' then "\\" ++ String.singleton c
        else String.singleton c
    | _ => "")

/-- Whether a text has a match of a regular expression, which is kept with its groups. -/
def matchRegex (run : Run) (text : String) (word : Word) : Step Bool := do
  let pattern := regexText (← glyphs run false word)
  match Regex.ofText .testing pattern with
  | .error _ => do
      setStatus 2
      throw .failure
  | .ok r =>
      let cs := text.toList.toArray
      let count := (pattern.toList.filter (· = '(')).length
      match r.search cs 0 with
      | some m => do
          assignItems "BASH_REMATCH" ((List.range (count + 1)).map (m.group cs))
          return true
      | none => do
          assignItems "BASH_REMATCH" []
          return false

/-- The value of a number in a condition. -/
def checkNumber (text : String) : Step Int := do
  match ← computeSum text with
  | .ok n => return n
  | .error e => protest "" (failureWords e) 1

/-- Whether numbers compare as an operator says. -/
def compareNumbers (operator : String) (a b : Int) : Bool :=
  match operator with
  | "-eq" => a = b
  | "-ne" => a ≠ b
  | "-lt" => a < b
  | "-le" => a ≤ b
  | "-gt" => b < a
  | _ => b ≤ a

/-- Whether a condition holds. -/
def checkHolds (run : Run) : Check → Step Bool
  | .unary operator a => do
      let text ← textOf run a
      match operator with
      | "-z" => return text.isEmpty
      | "-n" => return !text.isEmpty
      | "-t" => return false
      | _ => return Condition.fact (← get) operator text
  | .binary operator a b => do
      let text ← textOf run a
      match operator with
      | "=" | "==" => return Glyph.isMatch (← patternOf run b) text.toList
      | "!=" => return !Glyph.isMatch (← patternOf run b) text.toList
      | "<" => return text < (← textOf run b)
      | ">" => return (← textOf run b) < text
      | "=~" => matchRegex run text b
      | "-nt" | "-ot" | "-ef" => return Condition.filesFact (← get) operator text (← textOf run b)
      | _ => do
          let n ← checkNumber text
          let m ← checkNumber (← textOf run b)
          return compareNumbers operator n m
  | .not a => return !(← checkHolds run a)
  | .both a b => do
      if ← checkHolds run a then checkHolds run b else return false
  | .either a b => do
      if ← checkHolds run a then return true else checkHolds run b

/-- Runs steps under a name for messages, and sets the exit code to whether they give
    true; a failure in them is no jump. -/
def testing (name : String) (x : Step Bool) : Step Unit := do
  let before := (← get).command
  modify fun s => { s with command := some name }
  let leave : Step Unit := modify fun s => { s with command := before }
  tryCatch (do setStatus (if ← x then 0 else 1)) fun
    | .failure => return ()
    | jump => do
        leave
        throw jump
  leave

/-- The value of a sum that is a command. -/
def sumValue (run : Run) (expression : Word) : Step Int := do
  checkNumber (Glyph.plain (← glyphs run true expression))

end GuardedCnf.Script
