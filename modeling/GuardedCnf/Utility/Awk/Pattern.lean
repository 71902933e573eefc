import GuardedCnf.Utility.Awk.Token
import GuardedCnf.Utility.Regex.Plain
/-! # Patterns of programs on records

    A pattern is an extended one without counts of repetitions.  A circumflex and
    a dollar sign are anchors wherever they stand. -/

namespace GuardedCnf.Utility.Awk.Pattern

/-- Why a text is no pattern. -/
inductive Failure where
  | missingOperand
  | missingParenthesis
  | badSet
  | repeatedStart

/-- The wording of a failure. -/
def Failure.message : Failure → String
  | .missingOperand => "missing operand"
  | .missingParenthesis => "missing ')'"
  | .badSet => "bad class -- [], [^] or ["
  | .repeatedStart => "syntax error ^* or ^+"

/-- A reading of a part of a pattern. -/
abbrev Reading := EStateM Failure (List Char)

/-- The character of an escape after the backslash, and what follows it. -/
def escaped (cs : List Char) : Char × List Char :=
  match escape cs with
  | ([c], rest) => (c, rest)
  | ([_, c], rest) => (c, rest)
  | (_, rest) => ('\\', rest)

/-- Reads a member of a set that may begin a range. -/
def readMember : Reading (Option Char) := modifyGet fun cs =>
  match cs with
  | '\\' :: rest =>
      let (c, rest) := escaped rest
      (some c, rest)
  | c :: rest => (some c, rest)
  | [] => (none, [])

/-- Reads the members of a set up to its end. -/
def readMembers : Nat → Bool → List (Char × Char) → Reading (List (Char × Char))
  | 0, _, _ => throw .badSet
  | fuel + 1, isFirst, ranges => do
      match ← get with
      | ']' :: rest =>
          if isFirst then
            set rest
            readMembers fuel false (ranges ++ [(']', ']')])
          else
            set rest
            return ranges
      | '[' :: ':' :: rest =>
          let name := rest.takeWhile Char.isAlpha
          match rest.drop name.length with
          | ':' :: ']' :: rest => do
              let name := String.ofList name
              if !Regex.Plain.classNames.contains name then throw .badSet
              set rest
              readMembers fuel false (ranges ++ CharSet.classRanges name)
          | _ => do
              set (':' :: rest)
              readMembers fuel false (ranges ++ [('[', '[')])
      | _ =>
          match ← readMember with
          | none => throw .badSet
          | some c => do
              match ← get with
              | '-' :: ']' :: _ => readMembers fuel false (ranges ++ [(c, c)])
              | '-' :: last :: rest => do
                  set (last :: rest)
                  let d := (← readMember).getD last
                  let more := if c ≤ d then [(c, d)] else [(c, c), ('-', '-'), (d, d)]
                  readMembers fuel false (ranges ++ more)
              | _ => readMembers fuel false (ranges ++ [(c, c)])

/-- The pattern with the repetitions that follow it. -/
def readRepeats (r : Regex) : Nat → Reading Regex
  | 0 => return r
  | fuel + 1 => do
      let again (least : Nat) (most : Option Nat) : Reading Regex := do
        modify (·.drop 1)
        match r with
        | .repeated inner least' most' _ =>
            readRepeats (.repeated inner (min least least')
              (if most = some 1 && most' = some 1 then some 1 else none) true) fuel
        | r => readRepeats (.repeated r least most true) fuel
      match ← get with
      | '*' :: _ => again 0 none
      | '+' :: _ => again 1 none
      | '?' :: _ => again 0 (some 1)
      | _ => return r

/-- Reads alternatives; `inside` tells whether a parenthesis ends them. -/
def readAlternatives : Nat → Bool → Reading Regex
  | 0, _ => throw .missingOperand
  | fuel + 1, inside => do
      let a ← pieces fuel inside none
      match ← get with
      | '|' :: rest => do
          set rest
          return .either a (← readAlternatives fuel inside)
      | _ => return a
where
  /-- Reads pieces up to the end of an alternative, after those before. -/
  pieces : Nat → Bool → Option Regex → Reading Regex
    | 0, _, _ => throw .missingOperand
    | fuel + 1, inside, sofar => do
        let finish : Reading Regex := match sofar with
          | some r => return r
          | none => throw .missingOperand
        let add (r : Regex) : Reading Regex := do
          let r ← readRepeats r (← get).length
          pieces fuel inside (some (match sofar with
            | some before => .both before r
            | none => r))
        match ← get with
        | [] => finish
        | '|' :: _ => finish
        | '*' :: _ | '+' :: _ | '?' :: _ => throw .missingOperand
        | ')' :: rest =>
            if inside then finish
            else do
              set rest
              add (.char ')')
        | '(' :: ')' :: rest =>
            if sofar.isNone then throw .missingOperand
            else do
              set rest
              add .empty
        | '(' :: rest => do
            set rest
            let r ← readAlternatives fuel true
            match ← get with
            | ')' :: rest => do
                set rest
                add r
            | _ => throw .missingParenthesis
        | '.' :: rest => do
            set rest
            add .any
        | '^' :: rest => do
            set rest
            match rest with
            | '*' :: _ | '+' :: _ => throw .repeatedStart
            | _ => add (.anchor .textStart)
        | '$' :: rest => do
            set rest
            add (.anchor .textEnd)
        | '[' :: rest => do
            let (negated, rest) := match rest with
              | '^' :: rest => (true, rest)
              | rest => (false, rest)
            set rest
            let ranges ← readMembers (rest.length + 1) true []
            add (.oneOf ⟨negated, ranges⟩)
        | '\\' :: rest => do
            let (c, rest) := escaped rest
            set rest
            add (.char c)
        | c :: rest => do
            set rest
            add (.char c)

/-- The pattern of a text. -/
def ofText (text : String) : Except Failure Regex :=
  if text.isEmpty then .ok .empty
  else match (readAlternatives (2 * text.length + 2) false).run text.toList with
    | .ok r _ => .ok r
    | .error e _ => .error e

end GuardedCnf.Utility.Awk.Pattern
