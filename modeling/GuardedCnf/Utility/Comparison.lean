import GuardedCnf.Utility.Basic
/-! # Comparisons — where two files differ, byte by byte

    The first difference is told, or all of them, or only whether there is one. -/

namespace GuardedCnf.Utility

open Script

namespace Comparison

/-- What is told of two files. -/
inductive Report where
  | first
  | all
  | nothing
deriving BEq

/-- How files are compared. -/
structure Request where
  report : Report
  /-- Whether bytes are shown as characters too. -/
  shown : Bool
  /-- How many bytes are compared at most. -/
  most : Option Nat
  /-- How many bytes are left out at the beginnings. -/
  skips : Nat × Nat

/-- A file that is compared: its name, its bytes, and whether its size is known
    beforehand. -/
structure Source where
  name : String
  bytes : List Char
  isRegular : Bool

/-- A byte as an octal number. -/
def octal (c : Char) : String :=
  let digits := String.ofList (Nat.toDigits 8 c.toNat)
  String.ofList (List.replicate (3 - digits.length) ' ') ++ digits

/-- Two bytes as they are told. -/
def Request.pair (r : Request) (c d : Char) (padded : Bool) : String :=
  if r.shown then
    let form := caretForm c
    let form := if padded then form ++ String.ofList (List.replicate (4 - form.length) ' ') else form
    octal c ++ " " ++ form ++ " " ++ octal d ++ " " ++ caretForm d
  else octal c ++ " " ++ octal d

/-- All differences of two texts, given the place of the next byte and the width of
    places. -/
def Request.listed (r : Request) (width : Nat) : Nat → List Char → List Char → List String
  | place, c :: cs, d :: ds =>
      let rest := r.listed width (place + 1) cs ds
      if c = d then rest else (aligned width place ++ " " ++ r.pair c d true ++ "\n") :: rest
  | _, _, _ => []

/-- The number of bytes at the beginning of two texts that are the same. -/
def sameBytes : List Char → List Char → Nat → Nat
  | c :: cs, d :: ds, n => if c = d then sameBytes cs ds (n + 1) else n
  | _, _, n => n

/-- What is told about a file that ends first, after so many bytes. -/
def endMessage (withLine : Bool) (name : String) (common : List Char) : String :=
  let place := "EOF on " ++ name ++ " after byte " ++ toString common.length
  let lines := (common.filter (· = '\n')).length
  if common.isEmpty then "EOF on " ++ name ++ " which is empty"
  else if !withLine then place
  else if common.getLast? = some '\n' then place ++ ", line " ++ toString lines
  else place ++ ", in line " ++ toString (lines + 1)

/-- The output, the message and the exit code for two files; there is no output to
    see if `hidden`. -/
def Request.result (r : Request) (hidden : Bool) (a b : Source) : String × Option String × Nat :=
  let part (skip : Nat) (s : Source) : List Char :=
    let rest := s.bytes.drop skip
    (r.most.map fun n => rest.take n).getD rest
  let (p, q) := (part r.skips.1 a, part r.skips.2 b)
  let same := sameBytes p q 0
  let shorter := min p.length q.length
  let status := if same = p.length && same = q.length then 0 else 1
  let isFirst : Bool := r.report == .first && !hidden
  let ended : Option String :=
    if r.report == .nothing || p.length = q.length then none
    else some (endMessage isFirst (if p.length < q.length then a.name else b.name) (p.take shorter))
  if r.report == .nothing then ("", none, status)
  else if isFirst then
    match p[same]?, q[same]? with
    | some c, some d =>
        let line := toString (((p.take same).filter (· = '\n')).length + 1)
        let place := toString (same + 1) ++ ", line " ++ line
        let told := if r.shown then "byte " ++ place ++ " is " ++ r.pair c d false else "char " ++ place
        (a.name ++ " " ++ b.name ++ " differ: " ++ told ++ "\n", none, 1)
    | _, _ => ("", ended, status)
  else if hidden then ("", if same < shorter then none else ended, status)
  else
    let sizes := (if a.isRegular then [a.bytes.length - r.skips.1] else [])
      ++ (if b.isRegular then [b.bytes.length - r.skips.2] else []) ++ r.most.toList
    let largest := sizes.foldl min (Nat.pow 2 63 - 1)
    (String.join (r.listed (toString largest).length 1 p q), ended, status)

/-- The number that an option has. -/
def readNumber (option text : String) : Except String Nat :=
  match readSize "kKMGTPEZY" 0 (Nat.pow 2 63 - 1) text with
  | .ok n => .ok n
  | .error _ => .error ("invalid --" ++ option ++ " value " ++ inQuotes text)

/-- How many bytes an option leaves out: of both files, or of each one. -/
def readSkips (text : String) : Except String (Nat × Nat) :=
  let option := "ignore-initial"
  match text.splitOn ":" with
  | [_] => do
      let n ← readNumber option text
      return (n, n)
  | first :: rest => do
      match readNumber option first with
      | .error _ => throw ("invalid --" ++ option ++ " value " ++ inQuotes text)
      | .ok m => return (m, ← readNumber option (":".intercalate rest))
  | [] => .ok (0, 0)

/-- A request after an option. -/
def Request.take (r : Request) (letter : Char) (value : String) : Except String Request :=
  let reporting (report : Report) : Except String Request :=
    if r.report == .first || r.report == report then .ok { r with report }
    else .error "options -l and -s are incompatible"
  match letter with
  | 'b' | 'c' => .ok { r with shown := true }
  | 'l' => reporting .all
  | 's' => reporting .nothing
  | 'n' => do
      let n ← readNumber "bytes" value
      return { r with most := some (r.most.elim n (min n)) }
  | _ => do
      let (m, n) ← readSkips value
      return { r with skips := (max m r.skips.1, max n r.skips.2) }

/-- A request after the operands that follow the names of files. -/
def Request.takeOperands (r : Request) : List String → Except String Request
  | [] => .ok r
  | [m] => do
      let m ← readNumber "ignore-initial" m
      return { r with skips := (max m r.skips.1, r.skips.2) }
  | m :: n :: rest => do
      let m ← readNumber "ignore-initial" m
      let n ← readNumber "ignore-initial" n
      match rest with
      | extra :: _ => throw ("extra operand " ++ inQuotes extra)
      | [] => return { r with skips := (max m r.skips.1, max n r.skips.2) }

/-- The node of an operand, where a hyphen is the standard input. -/
def nodeOf? (operand : String) : Step (Except FileError NodeId) := do
  if operand = "-" then
    match (← get).nodeOf? 0 with
    | some id => return .ok id
    | none => return .error (.other "Bad file descriptor")
  else match ← find true operand with
    | .ok (.node id) => return .ok id
    | .ok (.free ..) => return .error .notFound
    | .error e => return .error e

/-- Compares two files that are there. -/
def Request.run (r : Request) (first second : String × NodeId) : Step Nat := do
  let trouble (name : String) (e : FileError) : Step Nat := do
    warn "cmp" (name ++ ": " ++ cause e)
    return 2
  let isRegular (id : NodeId) : Step Bool := return (← host).tree.node id matches .file ..
  let (isFirstRegular, isSecondRegular) := (← isRegular first.2, ← isRegular second.2)
  match ← input first.1 with
  | .error e => trouble first.1 e
  | .ok p =>
      match ← input second.1 with
      | .error e => trouble second.1 e
      | .ok q => do
          let tree := (← host).tree
          let hidden := ((← get).nodeOf? 1).any fun id => tree.node id matches .device .null
          let (shown, message, status) := r.result hidden
            ⟨first.1, p.toList, isFirstRegular⟩ ⟨second.1, q.toList, isSecondRegular⟩
          if let some message := message then warn "cmp" message
          match ← write 1 shown with
          | .ok () => return status
          | .error e => trouble "standard output" e

end Comparison

open Comparison in
/-- Compares two files. -/
def cmp : Utility := fun args => do
  let accepted : Accepted := .of "slbc" "in" [("print-bytes", 'b'), ("print-chars", 'c'),
    ("ignore-initial", 'i'), ("verbose", 'l'), ("bytes", 'n'), ("quiet", 's'), ("silent", 's')]
  let refuse (text : String) : Step Nat := do
    warn "cmp" text
    report ((← calledAs "cmp") ++ ": ")
    suggestHelp "cmp"
    return 2
  match accepted.read true (args.length + 1) args with
  | .error e => refuse e.message
  | .ok a =>
      match a.options.foldlM (fun (r : Comparison.Request) o => r.take o.1 o.2) ⟨.first, false, none, (0, 0)⟩ with
      | .error message => refuse message
      | .ok r =>
          match a.operands with
          | [] => refuse ("missing operand after " ++ inQuotes (args.getLast?.getD "cmp"))
          | x :: rest =>
              match r.takeOperands (rest.drop 1) with
              | .error message => refuse message
              | .ok r => do
                  let y := rest.headD "-"
                  let trouble (name : String) (e : FileError) : Step Nat := do
                    if r.report != .nothing || name = "-" then warn "cmp" (name ++ ": " ++ cause e)
                    return 2
                  if x = "-" && y = "-" && r.skips.1 = r.skips.2 then return 0
                  match ← nodeOf? x with
                  | .error e => trouble x e
                  | .ok first =>
                      if x = y && r.skips.1 = r.skips.2 then return 0
                      else match ← nodeOf? y with
                        | .error e => trouble y e
                        | .ok second =>
                            if first = second && r.skips.1 = r.skips.2 && x != "-" && y != "-" then return 0
                            else r.run (x, first) (y, second)

end GuardedCnf.Utility
