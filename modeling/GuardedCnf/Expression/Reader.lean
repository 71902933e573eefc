import GuardedCnf.Expression.Basic
import GuardedCnf.Expression.Token
import GuardedCnf.Text.Quoted
/-! # Reading expressions

    From the loosest to the tightest, the operators are `<->` (grouping to the
    left), `->` (grouping to the right), `|`, `&` and negation.  Nesting is
    bounded: parentheses, negations and the conclusions of implications each go
    one level down, and a chain of equivalences needs a level for each of its
    operators.

    A reader takes what it can from the front of the tokens and leaves the rest.
    The readers of a level are built from those of the level below, so the room
    that is left decides how deep an expression may nest.  An operator without
    an operand behind it is not taken. -/

namespace GuardedCnf

/-- What a reader finds at the front of tokens. -/
inductive Reading where
  /-- An expression, and the tokens after it. -/
  | read (e : Expr) (rest : List Token)
  /-- No expression. -/
  | absent
  /-- Something that nests too deep. -/
  | tooDeep

/-- A way to take an expression from the front of tokens. -/
abbrev Reader := List Token → Reading

namespace Reader

/-- How many levels down an expression may nest. -/
def maxNesting : Nat := 128

/-- At most `n` operands, each after the operator; `none` when one of them nests
    too deep. -/
def operands (operand : Reader) (operator : Token) :
    Nat → List Token → Option (List Expr × List Token)
  | n + 1, t :: ts =>
      if t = operator then
        match operand ts with
        | .read e rest =>
            (operands operand operator n rest).map fun (es, rest) => (e :: es, rest)
        | .absent => some ([], t :: ts)
        | .tooDeep => none
      else some ([], t :: ts)
  | _, ts => some ([], ts)

/-- Operands joined by an operator, as one node; a lone operand stands for
    itself. -/
def chain (operand : Reader) (operator : Token) (node : List Expr → Expr) : Reader := fun ts =>
  match operand ts with
  | .read e rest =>
      match operands operand operator rest.length rest with
      | some ([], rest) => .read e rest
      | some (es, rest) => .read (node (e :: es)) rest
      | none => .tooDeep
  | other => other

/-- The readers for what may stand at one level of nesting. -/
structure Level where
  operand : Reader
  implication : Reader
  equivalence : Reader

/-- The expression of a name. -/
def ofName (s : String) : Expr :=
  if s = "true" then .const true
  else if s = "false" then .const false
  else .var s

/-- A name, a negation or an expression in parentheses.  The minus sign of an
    arrow begins a negation here, of which no operand follows. -/
def operandAbove (below : Level) : Reader
  | .name s :: ts => .read (ofName s) ts
  | .not :: ts =>
      match below.operand ts with
      | .read e rest => .read (.not e) rest
      | other => other
  | .implies :: ts => below.operand (.stray '>' :: ts)
  | .opening :: ts =>
      match below.equivalence ts with
      | .read e (.closing :: rest) => .read e rest
      | .tooDeep => .tooDeep
      | _ => .absent
  | _ => .absent

/-- A disjunction, which an implication makes the premise of the next. -/
def implicationAbove (operand conclusion : Reader) : Reader := fun ts =>
  match chain (chain operand .and .and) .or .or ts with
  | .read premise (.implies :: ts) =>
      match conclusion ts with
      | .read e rest => .read (.implies premise e) rest
      | .absent => .read premise (.implies :: ts)
      | .tooDeep => .tooDeep
  | other => other

/-- Implications joined by equivalences, of which there have to be fewer than
    `room`. -/
def equivalenceOf (implication : Reader) (room : Nat) : Reader := fun ts =>
  match implication ts with
  | .read e rest =>
      match operands implication .iff rest.length rest with
      | some (es, rest) =>
          if room ≤ es.length then .tooDeep else .read (es.foldl .iff e) rest
      | none => .tooDeep
  | other => other

/-- The readers of a level with room for levels below it, itself included. -/
def level : Nat → Level
  | 0 => ⟨fun _ => .tooDeep, fun _ => .tooDeep, fun _ => .tooDeep⟩
  | room + 1 =>
      let below := level room
      let operand := operandAbove below
      let implication := implicationAbove operand below.implication
      ⟨operand, implication, equivalenceOf implication (room + 1)⟩

end Reader

/-- Why a line is no expression. -/
inductive LineError where
  /-- It nests too deep. -/
  | tooDeep
  /-- It begins with no operand, at the given rest. -/
  | noOperand (line rest : String)
  /-- It goes on after an expression, with the given rest. -/
  | leftover (line rest : String)

namespace LineError

/-- The wording for a line that cannot be read, with the name of the rule that
    was not met. -/
def unreadable (line rest rule : String) : String :=
  "cannot parse " ++ Text.quoted line ++ ": Parsing Error: Error \x7b input: "
    ++ Text.quoted rest ++ ", code: " ++ rule ++ " \x7d"

/-- The wording of a failure. -/
def message : LineError → String
  | .tooDeep => s!"formula nested deeper than {Reader.maxNesting} levels"
  | .noOperand line rest => unreadable line rest "TakeWhile1"
  | .leftover line rest => unreadable line rest "Eof"

end LineError

/-- Reads a whole line as an expression. -/
def Expr.ofLine (line : List Char) : Except LineError Expr :=
  let lexemes := Token.scan line
  let restAt (i : Nat) := String.ofList ((lexemes[i]?.map Prod.snd).getD [])
  match (Reader.level (Reader.maxNesting + 1)).equivalence (lexemes.map Prod.fst) with
  | .read e [] => .ok e
  | .read _ rest => .error (.leftover (String.ofList line) (restAt (lexemes.length - rest.length)))
  | .absent => .error (.noOperand (String.ofList line) (restAt 0))
  | .tooDeep => .error .tooDeep

end GuardedCnf
