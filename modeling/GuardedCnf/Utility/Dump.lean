import GuardedCnf.Script.Sum
import GuardedCnf.Utility.Basic
/-! # Dumps — bytes as numbers

    A dump shows sixteen bytes a line, as characters or as numbers of one or more
    bytes, after their offset.  Lines that repeat are left out. -/

namespace GuardedCnf.Utility

open Script

/-- How bytes are shown. -/
inductive ByteView where
  | characters
  | names
  /-- Numbers of some bytes, lower ones first. -/
  | numbers (base size : Nat) (signed : Bool)

namespace ByteView

/-- How many bytes one value takes. -/
def size : ByteView → Nat
  | .characters | .names => 1
  | .numbers _ size _ => size

/-- How many characters one value takes. -/
def width : ByteView → Nat
  | .characters | .names => 3
  | .numbers base size signed =>
      let largest := Nat.pow 256 size - 1
      (Nat.toDigits base (if signed then largest / 2 + 1 else largest)).length + (if signed then 1 else 0)

/-- The names of control characters. -/
def controlNames : List String :=
  ["nul", "soh", "stx", "etx", "eot", "enq", "ack", "bel", "bs", "ht", "nl", "vt", "ff", "cr", "so", "si",
    "dle", "dc1", "dc2", "dc3", "dc4", "nak", "syn", "etb", "can", "em", "sub", "esc", "fs", "gs", "rs",
    "us", "sp"]

/-- A byte as a character. -/
def charText (b : Nat) : String :=
  match [(0, "\\0"), (7, "\\a"), (8, "\\b"), (9, "\\t"), (10, "\\n"), (11, "\\v"), (12, "\\f"),
      (13, "\\r")].lookup b with
  | some text => text
  | none =>
      if 32 ≤ b && b < 127 then String.singleton (Char.ofNat b)
      else
        let ds := String.ofList (Nat.toDigits 8 b)
        String.ofList (List.replicate (3 - ds.length) '0') ++ ds

/-- A group of bytes as a value. -/
def shown (u : ByteView) (bytes : List Nat) : String :=
  let text := match u with
    | .characters => charText (bytes.headD 0)
    | .names =>
        let b := bytes.headD 0 % 128
        if b = 127 then "del" else controlNames.getD b (String.singleton (Char.ofNat b))
    | .numbers base size signed =>
        let n := bytes.reverse.foldl (fun n b => 256 * n + b) 0
        let half := Nat.pow 256 size / 2
        if base = 10 then
          if signed && half ≤ n then "-" ++ toString (2 * half - n) else toString n
        else
          let ds := String.ofList (Nat.toDigits base n)
          String.ofList (List.replicate (u.width - ds.length) '0') ++ ds
  String.ofList (List.replicate (u.width - text.length) ' ') ++ text

end ByteView

/-- Reads the kind of a dump. -/
def readView (text : String) : Option ByteView :=
  let sizeOf (cs : List Char) : Option Nat :=
    match cs with
    | [] | ['I'] => some 4
    | ['C'] => some 1
    | ['S'] => some 2
    | ['L'] => some 8
    | cs => (natural? (String.ofList cs)).filter [1, 2, 4, 8].contains
  match text.toList with
  | ['c'] => some .characters
  | ['a'] => some .names
  | 'd' :: cs => (sizeOf cs).map (.numbers 10 · true)
  | 'u' :: cs => (sizeOf cs).map (.numbers 10 · false)
  | 'o' :: cs => (sizeOf cs).map (.numbers 8 · false)
  | 'x' :: cs => (sizeOf cs).map (.numbers 16 · false)
  | _ => none

/-- The kinds that letters of options stand for. -/
def viewOfLetter (letter : Char) (value : String) : Option ByteView :=
  match letter with
  | 'c' => some .characters
  | 'a' => some .names
  | 'b' => some (.numbers 8 1 false)
  | 'd' => some (.numbers 10 2 false)
  | 'o' => some (.numbers 8 2 false)
  | 'x' => some (.numbers 16 2 false)
  | 's' => some (.numbers 10 2 true)
  | 'i' => some (.numbers 10 4 true)
  | 'l' => some (.numbers 10 8 true)
  | 't' => readView value
  | _ => none

/-- Lists of so many elements, where the last one may be shorter. -/
def groupsOf {α : Type} (size : Nat) : Nat → List α → List (List α)
  | 0, _ | _, [] => []
  | fuel + 1, xs => xs.take size :: groupsOf size fuel (xs.drop size)

/-- A line of values. -/
def viewLine (u : ByteView) (bytes : List Nat) : String :=
  String.join ((groupsOf u.size bytes.length bytes).map fun group => " " ++ u.shown group)

/-- Lines of bytes with their offsets, where repetitions are left out. -/
def dumpLines (address : Nat → String) (units : List ByteView) (width : Nat) (all : Bool) :
    Nat → List Nat → Bool → List (List Nat) → List String
  | _, _, _, [] => []
  | offset, before, starred, line :: lines =>
      if !all && line = before then
        (if starred then [] else ["*"]) ++ dumpLines address units width all (offset + width) line true lines
      else
        let shown := units.zipIdx.map fun (u, i) =>
          (if i = 0 then address offset else String.ofList (List.replicate (address offset).length ' '))
            ++ viewLine u line
        shown ++ dumpLines address units width all (offset + width) line false lines

/-- Shows the bytes of files. -/
def od : Utility := fun args =>
  withArgs "od" 1 (.of "abcdosxilv" "AtNjw" [("address-radix", 'A'), ("format", 't'), ("read-bytes", 'N'),
    ("skip-bytes", 'j'), ("output-duplicates", 'v')]) args fun a => do
    let kinds := a.options.filter fun o => ! ['A', 'N', 'j', 'w', 'v'].contains o.1
    match kinds.find? fun (letter, value) => (viewOfLetter letter value).isNone with
    | some (_, value) => do
        warn "od" ("invalid character " ++ inQuotes (String.ofList (value.toList.take 1)) ++ " in type string "
          ++ inQuotes value)
        return 1
    | none => do
        let units := kinds.filterMap fun (letter, value) => viewOfLetter letter value
        let units := if units.isEmpty then [.numbers 8 2 false] else units
        let (texts, complete) ← inputs "od" plainWording a.operands
        if texts.isEmpty then return 1
        let number (letter : Char) : Option Nat := (a.value? letter).bind natural?
        let skipped := (number 'j').getD 0
        let bytes := ((String.join (texts.map (·.2))).toList.map Char.toNat).drop skipped
        let bytes := match number 'N' with
          | some n => bytes.take n
          | none => bytes
        let address (n : Nat) : String :=
          let digits (base least : Nat) : String :=
            let ds := String.ofList (Nat.toDigits base n)
            String.ofList (List.replicate (least - ds.length) '0') ++ ds
          match a.value? 'A' with
          | some "n" => ""
          | some "d" => digits 10 7
          | some "x" => digits 16 6
          | _ => digits 8 7
        let width := (number 'w').getD 16
        let lines := dumpLines address units width (a.has 'v') skipped [] false (groupsOf width bytes.length bytes)
        let last := address (skipped + bytes.length)
        output "od" (unlines (lines ++ if last.isEmpty then [] else [last])) (statusOf complete 1)

end GuardedCnf.Utility
