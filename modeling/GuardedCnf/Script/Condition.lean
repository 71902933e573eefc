import GuardedCnf.Script.Expansion
/-! # Conditions — tests of texts, numbers and files

    A condition is made of operands and operators.  Whether a word is an
    operator depends on what comes after it, and conditions of three words with
    a binary operator in the middle are always read as that. -/

namespace GuardedCnf.Script.Condition

/-- The operators with one operand. -/
def unaryOperators : List String :=
  ["-r", "-w", "-x", "-e", "-f", "-d", "-c", "-b", "-p", "-u", "-g", "-k", "-s", "-t", "-z", "-n",
    "-h", "-O", "-G", "-L", "-S"]

/-- The operators with two operands. -/
def binaryOperators : List String :=
  ["=", "!=", "<", ">", "-eq", "-ne", "-ge", "-gt", "-le", "-lt", "-nt", "-ot", "-ef"]

/-- The role of a word in a condition. -/
inductive Role where
  | finish
  | operand
  | unary
  | binary
  | not
  | and
  | or
  | opening
  | closing
deriving DecidableEq

/-- The role that a word has unless it is an operand. -/
def role? (word : String) : Option Role :=
  if unaryOperators.contains word then some .unary
  else if binaryOperators.contains word then some .binary
  else match word with
    | "!" => some .not
    | "-a" => some .and
    | "-o" => some .or
    | "(" => some .opening
    | ")" => some .closing
    | _ => none

/-- The role of the first word of a condition. -/
def roleOf : List String → Role
  | [] => .finish
  | [word] =>
      match role? word with
      | some .unary | some .opening | none => .operand
      | some role => role
  | word :: next :: rest =>
      match role? word with
      | some .unary => if !rest.isEmpty && role? next = some .binary then .operand else .unary
      | some role => role
      | none => .operand

/-- Why a condition has no value. -/
inductive Failure where
  /-- A word is no number. -/
  | noNumber (word : String)
  /-- An operator has no operand. -/
  | noOperand (operator : String)
  /-- A parenthesis is not closed. -/
  | unclosed
  /-- The condition ends before a word. -/
  | unexpected (word : String)
  /-- A word is no operator with one operand. -/
  | notUnary (word : String)
  /-- A word is no operator with two operands. -/
  | notBinary (word : String)

/-- The words for a failure. -/
def Failure.message : Failure → String
  | .noNumber word => "Illegal number: " ++ word
  | .noOperand operator => operator ++ ": argument expected"
  | .unclosed => "closing paren expected"
  | .unexpected word | .notUnary word | .notBinary word => word ++ ": unexpected operator"

/-- The words of the extended dialect for a failure. -/
def Failure.extendedMessage : Failure → String
  | .noNumber word => word ++ ": integer expression expected"
  | .noOperand _ => "argument expected"
  | .unclosed => "\x60)' expected"
  | .unexpected _ => "too many arguments"
  | .notUnary word => word ++ ": unary operator expected"
  | .notBinary word => word ++ ": binary operator expected"

/-- The integer of a word. -/
def integer (word : String) : Except Failure Int :=
  match Sum.ofText? false word with
  | some n => .ok n
  | none => .error (.noNumber word)

/-- The value of a binary operator. -/
def compare (files : String → String → String → Bool) (a operator b : String) :
    Except Failure Bool := do
  match operator with
  | "=" | "==" => return a = b
  | "!=" => return a ≠ b
  | "<" => return a < b
  | ">" => return b < a
  | "-eq" => return (← integer a) = (← integer b)
  | "-ne" => return (← integer a) ≠ (← integer b)
  | "-ge" => return (← integer a) ≥ (← integer b)
  | "-gt" => return (← integer a) > (← integer b)
  | "-le" => return (← integer a) ≤ (← integer b)
  | "-lt" => return (← integer a) < (← integer b)
  | _ => return files operator a b

/-- A reading of a condition: its value, and the words that are left. -/
abbrev Reading := Except Failure (Bool × List String)

/-- Where in a condition its reader is. -/
inductive Level where
  | or
  | and
  | not
  | primary

/-- Reads a condition, given the facts about files; the first word is an operand
    if `forced`. -/
def read (facts : String → String → Bool) (files : String → String → String → Bool) :
    Nat → Level → (forced : Bool) → List String → Reading
  | 0, _, _, ws => .ok (false, ws)
  | fuel + 1, .or, forced, ws => do
      let (a, rest) ← read facts files fuel .and forced ws
      if roleOf rest = .or then
        let (b, rest) ← read facts files fuel .or false (rest.drop 1)
        return (a || b, rest)
      else return (a, rest)
  | fuel + 1, .and, forced, ws => do
      let (a, rest) ← read facts files fuel .not forced ws
      if roleOf rest = .and then
        let (b, rest) ← read facts files fuel .and false (rest.drop 1)
        return (a && b, rest)
      else return (a, rest)
  | fuel + 1, .not, forced, ws => do
      if !forced && roleOf ws = .not then
        let (a, rest) ← read facts files fuel .not false (ws.drop 1)
        return (!a, rest)
      else read facts files fuel .primary forced ws
  | fuel + 1, .primary, forced, ws => do
      match if forced then .operand else roleOf ws, ws with
      | .opening, _ :: ws =>
          if roleOf ws = .closing then return (false, ws.drop 1)
          else
            let (a, rest) ← read facts files fuel .or false ws
            if roleOf rest = .closing then return (a, rest.drop 1)
            else throw .unclosed
      | .unary, operator :: ws =>
          match ws with
          | [] => throw (.noOperand operator)
          | a :: rest =>
              match operator with
              | "-z" => return (a.isEmpty, rest)
              | "-n" => return (!a.isEmpty, rest)
              | "-t" => do
                  discard <| integer a
                  return (false, rest)
              | _ => return (facts operator a, rest)
      | _, a :: rest =>
          match roleOf rest, rest with
          | .binary, operator :: b :: rest => return (← compare files a operator b, rest)
          | .binary, [operator] => throw (.noOperand operator)
          | _, _ => return (!a.isEmpty, rest)
      | _, [] => return (false, [])

/-- The value of a condition. -/
def holds (facts : String → String → Bool) (files : String → String → String → Bool) :
    Nat → List String → Except Failure Bool
  | 0, _ => .ok false
  | _, [] => .ok false
  | fuel + 1, ws => do
      let whole (forced : Bool) (ws : List String) : Except Failure Bool := do
        let (a, rest) ← read facts files (10 * ws.length + 10) .or forced ws
        if rest.isEmpty then return a
        else throw (.unexpected ((ws[ws.length - rest.length - 1]?).getD ""))
      match ws with
      | [_, operator, _] =>
          if role? operator = some .binary then whole true ws else grouped whole fuel ws
      | [_, _, _, _] => grouped whole fuel ws
      | _ => whole false ws
where
  /-- Conditions of three or four words can be groups or negations as a whole. -/
  grouped (whole : Bool → List String → Except Failure Bool) (fuel : Nat) (ws : List String) :
      Except Failure Bool :=
    match ws.head?, ws.getLast? with
    | some "(", some ")" => whole false (ws.drop 1).dropLast
    | some "!", _ => (holds facts files fuel (ws.drop 1)).map (!·)
    | _, _ => whole false ws

/-- The operators with one operand of the extended dialect. -/
def moreUnaryOperators : List String := ["-a", "-o", "-v", "-N", "-R"] ++ unaryOperators

/-- The value of a condition in the extended dialect, where the number of words decides
    how short ones are read. -/
def holdsExtended (facts : String → String → Bool) (files : String → String → String → Bool) :
    Nat → List String → Except Failure Bool
  | 0, _ => .ok false
  | fuel + 1, ws => do
      let isBinary (word : String) : Bool := word = "==" || binaryOperators.contains word
      match ws with
      | [] => return false
      | [a] => return !a.isEmpty
      | ["!", a] => return a.isEmpty
      | [operator, a] =>
          if operator = "-z" then return a.isEmpty
          else if operator = "-n" then return !a.isEmpty
          else if operator = "-t" then return false
          else if moreUnaryOperators.contains operator then return facts operator a
          else throw (.notUnary operator)
      | [a, operator, b] =>
          if isBinary operator then compare files a operator b
          else if operator = "-a" then return !a.isEmpty && !b.isEmpty
          else if operator = "-o" then return !a.isEmpty || !b.isEmpty
          else if a = "!" then return !(← holdsExtended facts files fuel [operator, b])
          else if a = "(" && b = ")" then return !operator.isEmpty
          else throw (.notBinary operator)
      | "!" :: a :: b :: c :: [] => return !(← holdsExtended facts files fuel [a, b, c])
      | ws =>
          match ws.head?, ws.getLast?, ws.length with
          | some "(", some ")", 4 => holdsExtended facts files fuel (ws.drop 1).dropLast
          | _, _, _ =>
              let words := ws.map fun word => if word = "==" then "=" else word
              let (a, rest) ← read facts files (10 * ws.length + 10) .or false words
              if rest.isEmpty then return a else throw (.unexpected "")

/-- Whether a fact holds of a file. -/
def fileFact (s : Shell) (operator path : String) : Bool :=
  let through := operator != "-h" && operator != "-L"
  match s.machine.host.tree.find s.nodeOf? through s.folder path with
  | .ok (.node id) =>
      let node := s.machine.host.tree.node id
      match operator with
      | "-e" | "-r" | "-w" | "-a" => true
      | "-f" => (node matches .file .. | .program _)
      | "-d" => (node matches .folder ..)
      | "-c" => (node matches .device _)
      | "-p" => (node matches .pipe ..)
      | "-h" | "-L" => (node matches .link _ | .stream _)
      | "-x" => (node matches .folder .. | .program _ | .file _ true)
      | "-s" =>
          match node with
          | .file bytes _ => 0 < bytes.size
          | .program _ | .folder .. => true
          | _ => false
      | "-O" | "-G" => true
      | _ => false
  | _ => false

/-- Whether a fact holds of a file, a variable or an option. -/
def fact (s : Shell) (operator word : String) : Bool :=
  match operator with
  | "-v" =>
      let cs := word.toList
      let name := String.ofList (cs.takeWhile (· != '['))
      match cs.drop name.length with
      | [] => (s.parameter? name).isSome
      | _ :: index => ((s.itemsOf name).lookup (String.ofList index.dropLast)).isSome
  | "-o" => (optionNames.lookup word).any s.has || s.choices.contains word
  | _ => fileFact s operator word

/-- Whether a fact holds of two files. -/
def filesFact (s : Shell) (operator a b : String) : Bool :=
  let nodeOf (path : String) : Option NodeId :=
    match s.machine.host.tree.find s.nodeOf? true s.folder path with
    | .ok (.node id) => some id
    | _ => none
  match operator, nodeOf a, nodeOf b with
  | "-ef", some x, some y => x = y
  | "-nt", some x, some y => y < x
  | "-nt", some _, none => true
  | "-ot", some x, some y => x < y
  | "-ot", none, some _ => true
  | _, _, _ => false

end GuardedCnf.Script.Condition
