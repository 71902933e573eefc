import GuardedCnf.Utility.Basic
/-! # Repeated lines

    Lines that follow each other and have the same key make a group.  Of a group
    the first line is shown, or all lines, or none. -/

namespace GuardedCnf.Utility

open Script

namespace Repeats

/-- Where groups are parted. -/
inductive Parting where
  | nowhere
  | before
  | after
  | between
  | around
deriving BEq

/-- What is shown of groups. -/
structure Choice where
  /-- Whether lines without repetitions are shown. -/
  single : Bool
  /-- Whether one line of those that are repeated is shown. -/
  first : Bool
  /-- Whether the others are shown. -/
  others : Bool
  counted : Bool
  parting : Parting
  /-- Whether all lines are shown in groups. -/
  grouped : Bool

/-- The part of a line that is compared. -/
def key (fields chars : Nat) (most : Option Nat) (caseless : Bool) (line : String) : List Char :=
  let isBlank (c : Char) : Bool := c = ' ' || c = '\t'
  let dropFields : Nat → List Char → List Char := fun n cs =>
    (List.range (min n cs.length)).foldl (fun cs _ => (cs.dropWhile isBlank).dropWhile (!isBlank ·)) cs
  let cs := (dropFields fields line.toList).drop chars
  let cs := match most with
    | some n => cs.take n
    | none => cs
  if caseless then cs.map Char.toLower else cs

/-- The lines of a group that are shown. -/
def Choice.linesOf (c : Choice) (group : List String) : List String :=
  let shown :=
    if c.grouped then group
    else if group.length = 1 then if c.single then group else []
    else if c.others then if c.first then group else group.dropLast
    else if c.first then group.take 1 else []
  if c.counted then shown.map (aligned 7 group.length ++ " " ++ ·) else shown

/-- The lines that are shown, where an empty line parts groups. -/
def Choice.shown (c : Choice) (groups : List (List String)) : List String :=
  if c.grouped then
    let inner := (groups.zipIdx.map fun (g, i) =>
      (if i = 0 || c.parting == .nowhere then [] else [""]) ++ c.linesOf g).flatten
    let isOuter (p : Parting) : Bool := !groups.isEmpty && (c.parting == p || c.parting == .around)
    (if isOuter .before then [""] else []) ++ inner ++ (if isOuter .after then [""] else [])
  else
    let repeated := groups.findIdx (1 < ·.length)
    groups.zipIdx.flatMap fun (g, i) =>
      let isParted : Bool := 1 < g.length && (c.parting == .before || (c.parting == .between && repeated < i))
      (if isParted then [""] else []) ++ c.linesOf g

/-- The words for where groups are parted. -/
def partings : List (List String × Parting) :=
  [(["none"], .nowhere), (["prepend"], .before), (["separate"], .between)]

/-- The words for where groups of all lines are parted. -/
def groupPartings : List (List String × Parting) :=
  [(["prepend"], .before), (["append"], .after), (["separate"], .between), (["both"], .around)]

/-- The lines of a text, given how they end. -/
def split (lineEnd text : String) : List String :=
  let lines := text.splitOn lineEnd
  if lines.getLast? = some "" then lines.dropLast else lines

/-- The options. -/
def accepted : Accepted :=
  ⟨"cdDiuz0123456789\x01", "fsw", [("count", 'c'), ("repeated", 'd'), ("all-repeated", 'D'), ("group", '\x01'),
    ("ignore-case", 'i'), ("unique", 'u'), ("skip-fields", 'f'), ("skip-chars", 's'), ("check-chars", 'w'),
    ("zero-terminated", 'z')], "D\x01"⟩

end Repeats

open Repeats in
/-- Drops lines that are repeated. -/
def uniq : Utility := fun args =>
  withArgs "uniq" 1 accepted args fun a => do
    let (skipped, operands) := a.operands.partition fun operand =>
      operand.startsWith "+" && (natural? (String.ofList (operand.toList.drop 1))).isSome
    let digits := String.ofList ((a.options.map (·.1)).filter Char.isDigit)
    let size (letter : Char) (wording : String) (otherwise : Nat) (f : Nat → Step Nat) : Step Nat := do
      match (a.value? letter).map fun text => (text, readSize "" 0 (Nat.pow 2 64) text) with
      | none => f otherwise
      | some (_, .ok n) => f n
      | some (text, .error e) =>
          if e = tooLarge then f (Nat.pow 2 64)
          else
            warn "uniq" (text ++ ": " ++ wording)
            return 1
    let parting (letter : Char) (name : String) (otherwise : Parting)
        (choices : List (List String × Parting)) : Except String Parting :=
      match a.value? letter with
      | none => .ok .nowhere
      | some "" => .ok otherwise
      | some text => chooseWord name choices text
    size 'f' "invalid number of fields to skip" ((natural? digits).getD 0) fun fields =>
    size 's' "invalid number of bytes to skip"
      ((skipped.getLast?.bind fun text => natural? (String.ofList (text.toList.drop 1))).getD 0) fun chars =>
    size 'w' "invalid number of bytes to compare" (Nat.pow 2 64) fun most => do
      match parting 'D' "--all-repeated" .nowhere partings, parting '\x01' "--group" .between groupPartings,
          operands with
      | .error e, _, _ | _, .error e, _ => refuseUse "uniq" e 1
      | _, _, _ :: _ :: extra :: _ => extraOperand "uniq" extra 1
      | .ok ofRepeated, .ok ofGroups, operands =>
          let grouped := a.has '\x01'
          if grouped && ['c', 'd', 'D', 'u'].any a.has then
            refuseUse "uniq" "--group is mutually exclusive with -c/-d/-D/-u" 1
          else if a.has 'c' && a.has 'D' then
            refuseUse "uniq" "printing all duplicated lines and repeat counts is meaningless" 1
          else
            let source := operands.headD "-"
            match ← input source with
            | .error e => do
                warn "uniq" (match e with
                  | .isDirectory => "error reading " ++ inQuotes source ++ ": " ++ cause e
                  | e => plainWording source e)
                return 1
            | .ok text => do
                let lineEnd := if a.has 'z' then "\x00" else "\n"
                let key := key fields chars (if a.has 'w' then some most else none) (a.has 'i')
                let groups := (split lineEnd text).splitBy fun x y => key x == key y
                let choice : Choice :=
                  { single := !a.has 'd' && !a.has 'D'
                    first := !a.has 'u'
                    others := a.has 'D'
                    counted := a.has 'c'
                    parting := if grouped then ofGroups else ofRepeated
                    grouped := grouped }
                let shown := String.join ((choice.shown groups).map (· ++ lineEnd))
                match operands[1]? with
                | none | some "-" => output "uniq" shown 0
                | some path =>
                    match ← openPath path .create with
                    | .ok number => do
                        discard <| writeOpening number shown
                        return 0
                    | .error e => do
                        warn "uniq" (plainWording path e)
                        return 1

end GuardedCnf.Utility
