import GuardedCnf.Utility.Basic
/-! # Portions — the beginnings and ends of texts

    A portion is a number of lines or bytes.  Counted from the other end it is all
    but so many, or all from there on. -/

namespace GuardedCnf.Utility

open Script

/-- A part at the beginning or end of a text. -/
structure Portion where
  isBytes : Bool
  /-- Whether the size is counted from the other end. -/
  isRest : Bool
  size : Nat
  lineEnd : Char

namespace Portion

/-- How portions of operands are shown. -/
structure Request where
  portion : Portion
  /-- Whether names are shown; if not told, they are if there are several. -/
  titled : Option Bool
  operands : List String

/-- The lines of a text with their ends. -/
def lines (p : Portion) (text : String) : List String :=
  let parts := text.splitOn (String.singleton p.lineEnd)
  let ended := parts.dropLast.map (· ++ String.singleton p.lineEnd)
  if parts.getLast? = some "" then ended else ended ++ parts.getLast?.toList

/-- The beginning of a text. -/
def first (p : Portion) (text : String) : String :=
  if p.isBytes then
    let size := if p.isRest then text.length - p.size else p.size
    String.ofList (text.toList.take size)
  else
    let lines := p.lines text
    String.join (lines.take (if p.isRest then lines.length - p.size else p.size))

/-- The end of a text. -/
def last (p : Portion) (text : String) : String :=
  if p.isBytes then
    String.ofList (text.toList.drop (if p.isRest then p.size - 1 else text.length - p.size))
  else
    let lines := p.lines text
    String.join (lines.drop (if p.isRest then p.size - 1 else lines.length - p.size))

/-- Reads a size after its sign. -/
def readAmount (name : String) (isBytes : Bool) (text : String) (f : Nat → Step Nat) : Step Nat := do
  match readSize "bkKmMGTPEZY" 0 (Nat.pow 2 64) text with
  | .ok n => f n
  | .error e => do
      warn name ("invalid number of " ++ (if isBytes then "bytes" else "lines") ++ ": " ++ inQuotes text ++ e)
      return 1

/-- The options. -/
def accepted (flags : String) : Accepted :=
  .of flags "nc" [("bytes", 'c'), ("lines", 'n'), ("quiet", 'q'), ("silent", 'q'), ("verbose", 'v'),
    ("zero-terminated", 'z')]

/-- Whether options ask for names. -/
def titles (a : Args) : Option Bool :=
  match ((a.options.map (·.1)).filter fun c => c = 'q' || c = 'v').getLast? with
  | some c => some (c = 'v')
  | none => none

/-- Goes on with what options ask for; `sign` is that of sizes counted from the
    other end, and `mute` one that means nothing. -/
def withRequest (name flags : String) (sign : Char) (mute : Option Char) (args : List String)
    (f : Request → Step Nat) : Step Nat :=
  withArgs name 1 (accepted flags) args fun a => do
    let request (isBytes isRest : Bool) (n : Nat) : Step Nat :=
      f ⟨⟨isBytes, isRest, n, if a.has 'z' then '\x00' else '\n'⟩, titles a, a.operands⟩
    match a.options.find? fun o => o.1.isDigit with
    | some (c, _) => do
        warn name ("option used in invalid context -- " ++ String.singleton c)
        return 1
    | none =>
        if a.has 'f' then throw .late
        else match (a.options.filter fun o => o.1 = 'n' || o.1 = 'c').getLast? with
          | none => request false false 10
          | some (letter, text) =>
              let first := text.toList.head?
              let rest := String.ofList (text.toList.drop 1)
              let isRest : Bool := first = some sign
              let text := if first = some '-' || (mute.isSome && first = mute) then rest else text
              readAmount name (letter = 'c') text fun n => request (letter = 'c') isRest n

/-- Shows portions of operands, each after its name if wanted, given how they are
    read. -/
def Request.display (r : Request) (name : String) (f : Portion → String → Step (Except FileError String)) :
    Step Nat := do
  let operands := if r.operands.isEmpty then ["-"] else r.operands
  let titled := r.titled.getD (1 < operands.length)
  let mut status := 0
  let mut isFirst := true
  for operand in operands do
    let title :=
      if titled then (if isFirst then "" else "\n") ++ "==> "
        ++ (if operand = "-" then "standard input" else operand) ++ " <==\n"
      else ""
    match ← f r.portion operand with
    | .ok text => do
        status := max status (← output name (title ++ text) 0)
        isFirst := false
    | .error e => do
        if e matches .isDirectory then
          discard <| output name title 0
          isFirst := false
        warn name (openWording operand e)
        status := 1
  return status

/-! ## Beginnings. -/

/-- How many bytes are read at once. -/
def blockSize : Nat := 8192

/-- Reads blocks of an opening until there is enough, and tells how much of what was
    read is too much. -/
def readBlocks (p : Portion) (number : Nat) : Nat → String → Step String
  | 0, sofar => return sofar
  | fuel + 1, sofar => do
      let lineCount := (sofar.toList.filter (· = p.lineEnd)).length
      if p.size ≤ lineCount then return sofar
      else match ← readOpening number (some blockSize) with
        | .ok "" => return sofar
        | .ok text => readBlocks p number fuel (sofar ++ text)
        | .error _ => return sofar

/-- Reads a portion at the beginning of the standard input.  What comes after it can
    still be read if the input is a file. -/
def readShared (p : Portion) (number : Nat) : Step (Except FileError String) := do
  let node := (← host).nodeAt number
  match node with
  | .folder .. => readOpening number none
  | _ => do
      let isFile := node matches .file ..
      let text ← if p.isRest || isFile then readOpening number none
        else if p.isBytes then readOpening number (some p.size)
        else pure (.ok (← readBlocks p number (2 + Host.endless / 16) ""))
      match text with
      | .error e => return .error e
      | .ok text => do
          let first := p.first text
          if isFile then onHost fun h => ((), h.unread number (text.length - first.length))
          return .ok first

/-- Reads a portion at the beginning of an operand. -/
def readFirst (p : Portion) (operand : String) : Step (Except FileError String) := do
  if operand = "-" then
    match (← get).opening? 0 with
    | some number => readShared p number
    | none => return .error (.other "Bad file descriptor")
  else
    match ← openPath operand .read with
    | .ok number => return (← readOpening number (if p.isBytes && !p.isRest then some p.size else none)).map p.first
    | .error e => return .error e

/-- What an old spelling of options means: a size, then letters. -/
structure Old where
  options : List String
  /-- A letter that means nothing there. -/
  bad : Option Char

/-- Reads the old spelling of options for beginnings. -/
def Old.ofText (cs : List Char) : Old :=
  let digits := cs.takeWhile Char.isDigit
  let letters := cs.drop digits.length
  let unit := letters.filter ['b', 'k', 'm'].contains
  let isBytes : Bool := letters.any ['c', 'b', 'k', 'm'].contains && !letters.contains 'l'
  let flags := letters.filter ['q', 'v', 'z'].contains
  ⟨[(if isBytes then "-c" else "-n") ++ String.ofList (digits ++ unit.take 1)]
      ++ (if flags.isEmpty then [] else [String.ofList ('-' :: flags)]),
    letters.find? (! ['b', 'k', 'm', 'c', 'l', 'q', 'v', 'z'].contains ·)⟩

/-! ## Ends. -/

/-- The options that an old spelling for ends means, if it is one. -/
def oldEnd? (arg : String) : Option (List String) :=
  match arg.toList with
  | sign :: cs =>
      let digits := cs.takeWhile Char.isDigit
      let rest := cs.drop digits.length
      let size (otherwise : String) : String := if digits.isEmpty then otherwise else String.ofList digits
      let mark := if sign = '+' then "+" else ""
      let isDash : Bool := sign = '-' && digits.isEmpty
      if (sign != '-' && sign != '+') || isDash then none
      else match rest with
        | [] | ['l'] => some ["-n" ++ mark ++ size "10"]
        | ['c'] => some ["-c" ++ mark ++ size "10"]
        | ['b'] => some ["-c" ++ mark ++ size "10" ++ "b"]
        | ['f'] | ['l', 'f'] => some ["-f", "-n" ++ mark ++ size "10"]
        | _ => none
  | [] => none

/-- The arguments with the first one in the usual spelling, where the old one is
    allowed. -/
def modernEnd (args : List String) : List String :=
  let isAllowed : Bool := match args with
    | [_] => true
    | [_, operand] => !operand.startsWith "-" || operand = "-"
    | [_, "--", _] => true
    | _ => false
  match args with
  | first :: rest =>
      match if isAllowed then oldEnd? first else none with
      | some options => options ++ rest
      | none => args
  | [] => []

end Portion

open Portion in
/-- The beginnings of files. -/
def head : Utility := fun args => do
  let isOld : Bool := match args.head?.map String.toList with
    | some ('-' :: c :: _) => c.isDigit
    | _ => false
  let old := Old.ofText ((args.headD "").toList.drop 1)
  match isOld, old.bad with
  | true, some c => refuseUse "head" ("invalid trailing option -- " ++ String.singleton c) 1
  | _, _ =>
      withRequest "head" "qvz" '-' none (if isOld then old.options ++ args.drop 1 else args) fun r =>
        r.display "head" readFirst

open Portion in
/-- The ends of files. -/
def tail : Utility := fun args =>
  withRequest "tail" "qvfFz0123456789" '+' (some '+') (modernEnd args) fun r =>
    r.display "tail" fun p operand => do return (← input operand).map p.last

end GuardedCnf.Utility
