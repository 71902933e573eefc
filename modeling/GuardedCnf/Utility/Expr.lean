import GuardedCnf.Script.Sum
import GuardedCnf.Utility.Basic
import GuardedCnf.Utility.Regex.Plain
/-! # Expressions in arguments

    Each argument is an operand or an operator.  Of operators the ones that bind
    loosest come first in `levels`.  What the first operand of `|` or `&` decides is
    read, but not computed. -/

namespace GuardedCnf.Utility

open Script

namespace Expr

/-- The operators, by how they bind. -/
def levels : List (List String) :=
  [["|"], ["&"], ["<", "<=", "=", "==", "!=", ">=", ">"], ["+", "-"], ["*", "/", "%"], [":"]]

/-- The integer that a value is. -/
def integer? (value : String) : Option Int :=
  match value.toList with
  | '-' :: cs => if !cs.isEmpty && cs.all Char.isDigit then some (-(Sum.ofDigits 10 cs : Nat)) else none
  | cs => if !cs.isEmpty && cs.all Char.isDigit then some (Sum.ofDigits 10 cs : Nat) else none

/-- Whether a value counts as false. -/
def isFalse (value : String) : Bool := value.isEmpty || integer? value = some 0

/-- A value for a condition. -/
def ofBool (b : Bool) : String := if b then "1" else "0"

/-- What a pattern matches at the beginning of a text: a group, or the number of
    characters. -/
def matched (text pattern : String) : Except String String := do
  let r ← Regex.ofText (.editing false false false) pattern
  let cs := text.toList.toArray
  let hasGroup : Bool := 0 < r.groupCount
  match r.matchAt cs 0 with
  | some m => return if hasGroup then m.group cs 1 else toString (m.stop - m.start)
  | none => return if hasGroup then "" else "0"

/-- The place of the first character that is one of several, counted from one. -/
def indexOf (text characters : String) : String :=
  let place := text.toList.findIdx characters.toList.contains
  if place < text.length then toString (place + 1) else "0"

/-- A part of a text, from a place counted from one. -/
def part (text start size : String) : String :=
  match integer? start, integer? size with
  | some start, some size =>
      if start ≤ 0 || size ≤ 0 then ""
      else String.ofList ((text.toList.drop (start.toNat - 1)).take size.toNat)
  | _, _ => ""

/-- The value of an operator for two values. -/
def apply (operator a b : String) : Except String String := do
  let number (value : String) : Except String Int :=
    match integer? value with
    | some n => .ok n
    | none => .error "non-integer argument"
  match operator with
  | "|" => return if !isFalse a then a else if !isFalse b then b else "0"
  | "&" => return if isFalse a || isFalse b then "0" else a
  | ":" => matched a b
  | "+" => return toString ((← number a) + (← number b))
  | "-" => return toString ((← number a) - (← number b))
  | "*" => return toString ((← number a) * (← number b))
  | "/" | "%" => do
      let n ← number a
      let d ← number b
      if d = 0 then throw "division by zero"
      else return toString (if operator = "/" then n.tdiv d else n.tmod d)
  | _ =>
      let order := match integer? a, integer? b with
        | some x, some y => compare x y
        | _, _ => compare a b
      return ofBool (match operator with
        | "<" => order.isLT
        | "<=" => order.isLE
        | ">" => order.isGT
        | ">=" => order.isGE
        | "!=" => order != .eq
        | _ => order == .eq)

/-! ## Reading. -/

/-- The argument before the ones that are left, and those. -/
structure Arguments where
  before : String
  rest : List String

/-- A reading of arguments, which fails with a message. -/
abbrev Reading := EStateM String Arguments

/-- Takes an argument if it is a given one. -/
def take (text : String) : Reading Bool := do
  match (← get).rest with
  | arg :: rest => if arg = text then do set (⟨arg, rest⟩ : Arguments); return true else return false
  | [] => return false

/-- Demands more arguments. -/
def demandMore : Reading Unit := do
  let a ← get
  if a.rest.isEmpty then throw ("syntax error: missing argument after " ++ inQuotes a.before)

/-- Takes the next argument. -/
def next : Reading String := do
  demandMore
  modifyGet fun a => (a.rest.headD "", ⟨a.rest.headD "", a.rest.drop 1⟩)

/-- Takes one of several operators if it is next. -/
def takeOperator (operators : List String) : Reading (Option String) := do
  match (← get).rest with
  | arg :: rest => if operators.contains arg then do set (⟨arg, rest⟩ : Arguments); return some arg else return none
  | [] => return none

mutual

/-- Reads a value that operators of some levels join, and computes it if it
    counts. -/
def read : Nat → Bool → List (List String) → Reading String
  | 0, _, _ => throw "syntax error"
  | fuel + 1, counts, operators :: rest => do
      let a ← read fuel counts rest
      readMore fuel counts operators rest a
  | fuel + 1, counts, [] => readOperand fuel counts

/-- Goes on with the operators of a level. -/
def readMore : Nat → Bool → List String → List (List String) → String → Reading String
  | 0, _, _, _, a => return a
  | fuel + 1, counts, operators, rest, a => do
      match ← takeOperator operators with
      | none => return a
      | some operator => do
          let isNeeded : Bool := match operator with
            | "|" => isFalse a
            | "&" => !isFalse a
            | _ => true
          let b ← read fuel (counts && isNeeded) rest
          let isLogical : Bool := operator = "|" || operator = "&"
          if counts || isLogical then
            match apply operator a b with
            | .ok value => readMore fuel counts operators rest value
            | .error message => throw message
          else
            readMore fuel counts operators rest (if levels[2]?.any (·.contains operator) then "0" else a)

/-- Reads an operand: a word, a value in parentheses, or a function of values. -/
def readOperand : Nat → Bool → Reading String
  | 0, _ => throw "syntax error"
  | fuel + 1, counts => do
      if ← take "+" then next
      else if ← take "length" then return toString (← readOperand fuel counts).length
      else if ← take "match" then
        let a ← readOperand fuel counts
        let b ← readOperand fuel counts
        if counts then
          match matched a b with
          | .ok value => return value
          | .error message => throw message
        else return a
      else if ← take "index" then
        let a ← readOperand fuel counts
        return indexOf a (← readOperand fuel counts)
      else if ← take "substr" then
        let a ← readOperand fuel counts
        let start ← readOperand fuel counts
        return part a start (← readOperand fuel counts)
      else do
        demandMore
        if ← take "(" then
          let value ← read fuel counts levels
          if ← take ")" then return value
          else
            let a ← get
            match a.rest with
            | arg :: _ => throw ("syntax error: expecting ')' instead of " ++ inQuotes arg)
            | [] => throw ("syntax error: expecting ')' after " ++ inQuotes a.before)
        else if ← take ")" then throw "syntax error: unexpected ')'"
        else next

end

/-- The value of arguments. -/
def value (args : List String) : Except String String :=
  let reading : Reading String := do
    let value ← read (20 * args.length + 20) true levels
    match (← get).rest with
    | arg :: _ => throw ("syntax error: unexpected argument " ++ inQuotes arg)
    | [] => return value
  match reading.run ⟨"expr", args⟩ with
  | .ok value _ => .ok value
  | .error message _ => .error message

end Expr

/-- Writes the value of an expression. -/
def expr : Utility := fun args => do
  let args := if args.head? = some "--" then args.drop 1 else args
  if args.isEmpty then missingOperand "expr" 2
  else match Expr.value args with
    | .error message => do
        warn "expr" message
        return 2
    | .ok value => do
        match ← write 1 (value ++ "\n") with
        | .ok () => return if Expr.isFalse value then 1 else 0
        | .error e => do
            warn "expr" ("write error: " ++ cause e)
            return 3

end GuardedCnf.Utility
