import GuardedCnf.Script.Quoting
import GuardedCnf.Script.Shell
/-! # Programs of a host in memory

    These are the programs that the scripts of `Script.launcher` find in the folders of
    a host.  A program gets its arguments, reads and writes streams and files, and
    ends with an exit code.  Its messages begin with its name.  Options can stand
    among the operands, up to two hyphens. -/

namespace GuardedCnf

open Script

/-- A program, from its arguments to its exit code. -/
abbrev Utility := List String → Step Nat

namespace Utility

/-- Starts a program from words, its name and its arguments, and tells how it
    ended if there was time for that. -/
abbrev Spawn := List String → Step (Except FileError (Option Ending))

/-! ## Options. -/

/-- The options and operands of a program. -/
structure Args where
  /-- The letters of options, with their values, in order. -/
  options : List (Char × String)
  operands : List String

/-- The options that a program has: letters without and with a value, and long
    names with the letters that they stand for. -/
structure Accepted where
  flags : String
  valued : String
  long : List (String × Char)
  /-- Letters whose long names may have a value, and which may have one themselves
      if they are no flags. -/
  optional : String

/-- Why arguments are refused. -/
inductive ArgFailure where
  | unknown (letter : Char)
  | unknownLong (name : String)
  /-- The beginning of several long names. -/
  | ambiguous (text : String) (names : List String)
  | noValue (letter : Char)
  | noLongValue (name : String)
  /-- A value for a long name that takes none. -/
  | extraValue (name : String)

/-- A text in quotes. -/
def inQuotes (text : String) : String := "'" ++ text ++ "'"

/-- The wording of a failure. -/
def ArgFailure.message : ArgFailure → String
  | .unknown c => "invalid option -- " ++ inQuotes (String.singleton c)
  | .unknownLong text => "unrecognized option " ++ inQuotes ("--" ++ text)
  | .ambiguous text names =>
      "option " ++ inQuotes ("--" ++ text) ++ " is ambiguous; possibilities:"
        ++ String.join (names.map fun name => " " ++ inQuotes ("--" ++ name))
  | .noValue c => "option requires an argument -- " ++ inQuotes (String.singleton c)
  | .noLongValue name => "option " ++ inQuotes ("--" ++ name) ++ " requires an argument"
  | .extraValue name => "option " ++ inQuotes ("--" ++ name) ++ " doesn't allow an argument"

namespace Accepted

/-- Options of which no value may be left out. -/
def of (flags valued : String) (long : List (String × Char)) : Accepted := ⟨flags, valued, long, ""⟩

/-- Reads letters of options: each flag by itself, a value up to the end. -/
def letters (a : Accepted) (next : Option String) :
    List Char → Except ArgFailure (List (Char × String) × Bool)
  | [] => .ok ([], false)
  | c :: cs =>
      if a.valued.toList.contains c then
        match cs, next with
        | [], some value => .ok ([(c, value)], true)
        | [], none => .error (.noValue c)
        | _, _ => .ok ([(c, String.ofList cs)], false)
      else if a.flags.toList.contains c then do
        let (more, took) ← letters a next cs
        return ((c, "") :: more, took)
      else if a.optional.toList.contains c then .ok ([(c, String.ofList cs)], false)
      else .error (.unknown c)

/-- The long name that a text begins, with its letter. -/
def longOption (a : Accepted) (whole text : String) : Except ArgFailure (String × Char) :=
  let candidates := a.long.filter fun option => option.1.startsWith text
  match a.long.find? (·.1 = text), candidates with
  | some option, _ => .ok option
  | none, [] => .error (.unknownLong whole)
  | none, option :: more =>
      if more.all (·.2 = option.2) then .ok option else .error (.ambiguous whole (candidates.map (·.1)))

/-- Reads arguments; operands may come before options if `mixed`. -/
def read (a : Accepted) (mixed : Bool) : Nat → List String → Except ArgFailure Args
  | 0, args => .ok ⟨[], args⟩
  | _, [] => .ok ⟨[], []⟩
  | fuel + 1, arg :: args =>
      match arg.toList with
      | ['-', '-'] => .ok ⟨[], args⟩
      | '-' :: '-' :: cs =>
          let name := cs.takeWhile (· != '=')
          let value := if name.length < cs.length then some (String.ofList (cs.drop (name.length + 1))) else none
          match a.longOption (String.ofList cs) (String.ofList name) with
          | .error e => .error e
          | .ok (name, letter) => do
              let isValued := a.valued.toList.contains letter
              let isOptional := a.optional.toList.contains letter
              match value, isValued, args with
              | none, true, next :: args => do
                  let rest ← a.read mixed fuel args
                  return { rest with options := (letter, next) :: rest.options }
              | none, true, [] => throw (.noLongValue name)
              | value, _, args => do
                  if value.isSome && !isValued && !isOptional then throw (.extraValue name)
                  let rest ← a.read mixed fuel args
                  return { rest with options := (letter, value.getD "") :: rest.options }
      | '-' :: c :: cs => do
          let (options, took) ← a.letters args.head? (c :: cs)
          let rest ← a.read mixed fuel (if took then args.drop 1 else args)
          return { rest with options := options ++ rest.options }
      | _ =>
          if mixed then do
            let rest ← a.read mixed fuel args
            return { rest with operands := arg :: rest.operands }
          else .ok ⟨[], arg :: args⟩

end Accepted

namespace Args

/-- Whether an option is there. -/
def has (a : Args) (letter : Char) : Bool := a.options.any (·.1 = letter)

/-- The last value of an option. -/
def value? (a : Args) (letter : Char) : Option String :=
  (a.options.reverse.find? (·.1 = letter)).map (·.2)

/-- All values of an option. -/
def values (a : Args) (letter : Char) : List String :=
  (a.options.filter (·.1 = letter)).map (·.2)

end Args

/-! ## Messages. -/

/-- The name of a program as it was called, which may be a path. -/
def calledAs (name : String) : Step String := do
  let title := (← get).title
  return if title.endsWith ("/" ++ name) then title else name

/-- Writes a message of a program. -/
def warn (name text : String) : Step Unit := do
  report ((← calledAs name) ++ ": " ++ text ++ "\n")

/-- Suggests to ask a program for help. -/
def suggestHelp (name : String) : Step Unit := do
  report ("Try '" ++ (← calledAs name) ++ " --help' for more information.\n")

/-- Refuses arguments. -/
def refuseArgs (name : String) (status : Nat) (e : ArgFailure) : Step Nat := do
  warn name e.message
  suggestHelp name
  return status

/-- Reads arguments and goes on with them, or refuses them with an exit code. -/
def withArgs (name : String) (status : Nat) (a : Accepted) (args : List String)
    (f : Args → Step Nat) : Step Nat := do
  match a.read true (args.length + 1) args with
  | .ok parsed => f parsed
  | .error e => refuseArgs name status e

/-- Refuses to run without an operand. -/
def missingOperand (name : String) (status : Nat) : Step Nat := do
  warn name "missing operand"
  suggestHelp name
  return status

/-- Refuses an operand that is too much. -/
def extraOperand (name text : String) (status : Nat) : Step Nat := do
  warn name ("extra operand " ++ inQuotes text)
  suggestHelp name
  return status

/-- Whether a word with a character has to be quoted in messages. -/
def isSpecialInWord (c : Char) : Bool :=
  c < ' ' || '\x7e' < c
    || [' ', '!', '"', '$', '&', '\'', '(', ')', '*', ';', '<', '=', '>', '?', '[', '\\', '^', '\x60',
      '|'].contains c

/-- A word as messages show it: in quotes if they help. -/
def shownWord (name : String) : String :=
  let cs := name.toList
  let isSpecial : Bool := cs.isEmpty || cs.any isSpecialInWord || ['#', '~'].contains (cs.headD ' ')
    || cs = ['\x7b'] || cs = ['\x7d']
  if !isSpecial then name
  else if cs.any fun c => c < ' ' || '\x7e' < c then
    let part (isPlain : Bool) (cs : List Char) : String :=
      if isPlain then inQuotes (String.join (cs.map fun c => if c = '\'' then "'\\''" else String.singleton c))
      else "$'" ++ String.join (cs.map Quoting.escapeOf) ++ "'"
    let isPlain (c : Char) : Bool := !(c < ' ' || '\x7e' < c)
    let parts := cs.splitBy fun a b => isPlain a = isPlain b
    (if cs.head?.any isPlain then "" else "''") ++ String.join (parts.map fun part' => part (part'.head?.any isPlain) part')
  else if cs.contains '\'' then
    if cs.any ['"', '$', '\\', '\x60', '!'].contains then
      inQuotes (String.join (cs.map fun c => if c = '\'' then "'\\''" else String.singleton c))
    else "\"" ++ name ++ "\""
  else inQuotes name

/-- The name of a file as messages show it, where a colon has to be quoted. -/
def shownName (name : String) : String :=
  let shown := shownWord name
  if shown = name && name.toList.contains ':' then inQuotes name else shown

/-- A byte with marks for what cannot be seen. -/
def caretForm (c : Char) : String :=
  let low (n : Nat) : String :=
    if n < 32 then "^" ++ String.singleton (Char.ofNat (n + 64))
    else if n = 127 then "^?" else String.singleton (Char.ofNat n)
  if c.toNat < 128 then low c.toNat else "M-" ++ low (c.toNat - 128)

/-! ## Sizes. -/

/-- What comes after the message that a number is invalid, if it is too large. -/
def tooLarge : String := ": Value too large for defined data type"

/-- What comes after the message that a number is invalid, if it is not in a range. -/
def outOfRange : String := ": Numerical result out of range"

/-- The number that a unit stands for. -/
def unitSize? (unit : List Char) : Option Nat :=
  let power (letter : Char) : Option Nat :=
    match letter with
    | 'k' | 'K' => some 1
    | 'M' | 'm' => some 2
    | 'G' | 'g' => some 3
    | 'T' | 't' => some 4
    | 'P' => some 5
    | 'E' => some 6
    | 'Z' => some 7
    | 'Y' => some 8
    | _ => none
  match unit with
  | [] | ['c'] => some 1
  | ['w'] => some 2
  | ['b'] => some 512
  | ['B'] => some 1024
  | [c] | [c, 'i', 'B'] => (power c).map (Nat.pow 1024)
  | [c, 'B'] | [c, 'D'] => (power c).map (Nat.pow 1000)
  | _ => none

/-- Reads a number between two bounds, with a unit that begins with one of the
    letters; fails with what comes after the message. -/
def readSize (units : String) (least most : Nat) (text : String) : Except String Nat :=
  let cs := text.toList.dropWhile fun c => c = ' ' || ('\t' ≤ c && c ≤ '\x0d')
  let cs := if cs.head? = some '+' then cs.drop 1 else cs
  let digits := cs.takeWhile Char.isDigit
  let unit := cs.drop digits.length
  let isKnown : Bool := unit.isEmpty || units.toList.contains (unit.headD ' ')
  match unitSize? unit with
  | some size =>
      if !isKnown || (digits.isEmpty && (unit.isEmpty || text.toList.contains '+')) then .error ""
      else
        let n := (if digits.isEmpty then 1 else Sum.ofDigits 10 digits) * size
        if Nat.pow 2 64 ≤ n then .error tooLarge
        else if most < n || n < least then .error (if Nat.pow 2 30 ≤ n then tooLarge else outOfRange)
        else .ok n
  | none => .error ""

/-- Goes on with the number that an option has or else a given one, or refuses it
    with a message. -/
def withSize (name wording units : String) (least : Nat) (value : Option String) (otherwise : Nat)
    (f : Nat → Step Nat) : Step Nat :=
  match value with
  | none => f otherwise
  | some text =>
      match readSize units least (Nat.pow 2 63 - 1) text with
      | .ok n => f n
      | .error e => do
          warn name (wording ++ ": " ++ inQuotes text ++ e)
          return 1

/-- What one of several words stands for; a word may be cut short if it is still the
    only one. -/
def chooseWord {α : Type} (option : String) (choices : List (List String × α)) (text : String) :
    Except String α :=
  let named := choices.filter fun c => c.1.contains text
  let begun := choices.filter fun c => c.1.any (·.startsWith text)
  match named, begun with
  | [c], _ | [], [c] => .ok c.2
  | _, _ =>
      .error ((if begun.isEmpty then "invalid" else "ambiguous") ++ " argument " ++ inQuotes text ++ " for "
        ++ inQuotes option ++ "\nValid arguments are:"
        ++ String.join (choices.map fun c => "\n  - " ++ ", ".intercalate (c.1.map inQuotes)))

/-- Refuses to run because of what options ask for. -/
def refuseUse (name text : String) (status : Nat) : Step Nat := do
  warn name text
  suggestHelp name
  return status

/-! ## Input and output. -/

/-- Writes the output of a program; the exit code tells whether that
    succeeds. -/
def output (name text : String) (status : Nat) : Step Nat := do
  match ← write 1 text with
  | .ok () => return status
  | .error e => do
      warn name ("write error: " ++ cause e)
      return 1

/-- The text of an operand, where a hyphen is the standard input. -/
def input (operand : String) : Step (Except FileError String) :=
  if operand = "-" then readStream 0 else readPath operand

/-- The texts of operands that can be read, with a message for the others. -/
def inputs (name : String) (wording : String → FileError → String) (operands : List String) :
    Step (List (String × String) × Bool) := do
  let mut texts := []
  let mut complete := true
  for operand in (if operands.isEmpty then ["-"] else operands) do
    match ← input operand with
    | .ok text => texts := (operand, text) :: texts
    | .error e => do
        warn name (wording operand e)
        complete := false
  return (texts.reverse, complete)

/-- Shows what becomes of the texts of operands one after the other, with messages in
    between for those that cannot be read; a state goes on from text to text. -/
def showEach {α : Type} (name : String) (wording : String → FileError → String) (operands : List String)
    (start : α) (f : α → String → α × String) : Step (α × Nat) := do
  let mut state := start
  let mut status := 0
  for operand in (if operands.isEmpty then ["-"] else operands) do
    match ← input operand with
    | .ok text => do
        let (next, shown) := f state text
        state := next
        status := max status (← output name shown 0)
    | .error e => do
        warn name (wording operand e)
        status := max status 1
  return (state, status)

/-- The usual wording for an operand that cannot be read. -/
def plainWording (operand : String) (e : FileError) : String := shownName operand ++ ": " ++ cause e

/-- The wording for an operand that cannot be read, where opening and reading
    differ. -/
def openWording (operand : String) (e : FileError) : String :=
  match e with
  | .isDirectory => "error reading " ++ inQuotes operand ++ ": " ++ cause e
  | e => "cannot open " ++ inQuotes operand ++ " for reading: " ++ cause e

/-- Runs steps with another opening for a stream. -/
def withStream {α : Type} (stream opening : Nat) (x : Step α) : Step α := do
  let before := (← get).streams
  setStream stream (some opening)
  let a ← x
  modify fun s => { s with streams := before }
  return a

/-- A new pipe: the opening to read from, and the one to write to. -/
def newPipe : Step (Nat × Nat) := onHost fun h =>
  let (reader, writer, h) := h.openPipe
  ((reader, writer), h)

/-- Runs a command of a shell and gives what it writes. -/
def outputOf (spawn : Spawn) (command : String) : Step String := do
  let (reader, writer) ← newPipe
  match ← withStream 1 writer (spawn ["sh", "-c", command]) with
  | .ok none => throw .late
  | _ => return (← readOpening reader none).toOption.getD ""

/-- The exit code 0, or another one if something failed. -/
def statusOf (complete : Bool) (status : Nat) : Nat := if complete then 0 else status

/-! ## Lines. -/

/-- The lines of a text, and whether the last one has an end. -/
def linesOf (text : String) : List String × Bool :=
  let lines := text.splitOn "\n"
  if text.isEmpty then ([], true)
  else if lines.getLast? = some "" then (lines.dropLast, true)
  else (lines, false)

/-- The text of lines with ends. -/
def unlines (lines : List String) : String := String.join (lines.map (· ++ "\n"))

/-- The text of lines of which the last one may have no end. -/
def unlinesAs (lines : List String) (ended : Bool) : String :=
  if ended then unlines lines
  else String.join (lines.dropLast.map (· ++ "\n")) ++ lines.getLast?.getD ""

/-- A number at the right of a width. -/
def aligned (width n : Nat) : String :=
  let text := toString n
  String.ofList (List.replicate (width - text.length) ' ') ++ text

/-- The number that a text writes, with decimal digits only. -/
def natural? (text : String) : Option Nat :=
  if !text.isEmpty && text.all Char.isDigit then text.toNat? else none

end Utility

end GuardedCnf
