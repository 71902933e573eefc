import GuardedCnf.Script.Lookup
import GuardedCnf.Script.Printing
import GuardedCnf.Utility.Basic
/-! # Arguments — programs that run with what the input names

    The words of the input, or its lines, become arguments of a program that runs
    again and again, with as many of them as options allow. -/

namespace GuardedCnf.Utility

open Script

namespace Arguments

/-- How arguments are collected. -/
structure Plan where
  command : List String
  /-- The character after each argument; without one, blanks separate arguments and
      quotes keep them together. -/
  delimiter : Option Char
  /-- The mark in the command that an argument replaces. -/
  mark : Option String
  /-- The most arguments of a run. -/
  count : Option Nat
  /-- The most lines of a run. -/
  lines : Option Nat
  /-- The most characters of a run, with one more for each word. -/
  room : Nat
  /-- Whether there is no run with fewer arguments than asked for. -/
  strict : Bool
  /-- The argument that ends the input. -/
  last : Option String
  /-- Whether the program runs if there are no arguments. -/
  eager : Bool

/-! ## Reading. -/

/-- A part of the input. -/
inductive Part where
  | argument (text : String)
  /-- The end of a line, and whether the line counts. -/
  | lineEnd (counts : Bool)
  | told (text : String)
  | failed (text : String)

/-- What a character belongs to. -/
inductive Place where
  | between
  | word
  | quoted (quote : Char)
  | escaped
deriving BEq

/-- Where a reading is. -/
structure Scan where
  place : Place
  /-- The characters of the argument, last first, and how many there are. -/
  word : List Char
  size : Nat
  /-- Whether the argument is the first one of its line. -/
  isFirst : Bool
  /-- The character before. -/
  before : Char
  /-- Whether it was told that an argument cannot hold a character. -/
  warned : Bool

/-- The beginning of a line. -/
def Scan.start (warned : Bool) : Scan := ⟨.between, [], 0, true, '\n', warned⟩

/-- The argument that was read: it ends at a null character. -/
def Scan.text (s : Scan) : String := String.ofList (s.word.reverse.takeWhile (· != '\x00'))

/-- What is told about a quote that has no end. -/
def unmatched (quote : Char) : String :=
  "unmatched " ++ (if quote = '"' then "double" else "single")
    ++ " quote; by default quotes are special to xargs unless you use the -0 option"

/-- What is told about a null character. -/
def nullWarning : String :=
  "WARNING: a NUL character occurred in the input.  It cannot be passed through in the argument list.  "
    ++ "Did you mean to use the --null option?"

/-- What a character does. -/
inductive Move where
  /-- It belongs to the argument. -/
  | push
  /-- It tells what the next one belongs to. -/
  | go (place : Place)
  | endWord
  | endLine
  | fail (text : String)

/-- What a character does where a reading is. -/
def Plan.move (p : Plan) (place : Place) (c : Char) : Move :=
  match place with
  | .quoted q => if c = '\n' then .fail (unmatched q) else if c = q then .go .word else .push
  | .escaped => .push
  | place =>
      if place == .between && Printing.isBlank c then .go .between
      else if c = '\n' then .endLine
      else if p.mark.isNone && (c = ' ' || c = '\t') then .endWord
      else if c = '\\' then .go .escaped
      else if c = '\'' || c = '"' then .go (.quoted c)
      else .push

/-- The place after a character that belongs to an argument. -/
def Place.pushed : Place → Place
  | .quoted q => .quoted q
  | _ => .word

/-- The parts of a text, where an argument has at most so many characters. -/
def Plan.parts (p : Plan) (most : Nat) : List Char → Scan → List Part
  | [], s =>
      if s.word.isEmpty then []
      else match s.place with
        | .quoted q => [.failed (unmatched q)]
        | _ => if s.isFirst && p.last = some s.text then [] else [.argument s.text]
  | c :: cs, s =>
      match p.move s.place c with
      | .go place => p.parts most cs { s with before := c, place }
      | .fail text => [.failed text]
      | .endWord =>
          if p.last = some s.text then []
          else .argument s.text :: p.parts most cs { Scan.start s.warned with isFirst := false, before := c }
      | .endLine =>
          if p.last = some s.text then []
          else .argument s.text :: .lineEnd (s.before != ' ' && s.before != '\t') :: p.parts most cs (.start s.warned)
      | .push =>
          if c = '\x00' && !s.warned then
            .told nullWarning :: p.parts most cs { s with
              before := c, place := s.place.pushed, word := c :: s.word, size := s.size + 1, warned := true }
          else if most ≤ s.size then [.failed "argument line too long"]
          else
            p.parts most cs { s with
              before := c, place := s.place.pushed, word := c :: s.word, size := s.size + 1 }

/-- The parts of a text whose arguments end with a character. -/
def pieces (most : Nat) (delimiter : Char) (text : String) : List Part :=
  let texts := text.splitOn (String.singleton delimiter)
  let texts := if texts.getLast? = some "" then texts.dropLast else texts
  let fitting := texts.takeWhile (·.length ≤ most)
  let piece (text : String) : List Part :=
    [.argument (String.ofList (text.toList.takeWhile (· != '\x00'))), .lineEnd true]
  fitting.flatMap piece ++ if fitting.length < texts.length then [.failed "argument line too long"] else []

/-! ## Grouping. -/

/-- What happens with the input. -/
inductive Event where
  | run (command : List String)
  | told (text : String)
  | failed (text : String)

/-- The arguments of the next run, last first, and how much they are. -/
structure Group where
  args : List String
  count : Nat
  size : Nat
  lines : Nat

/-- The characters of a command, with one more for each word. -/
def sizeOf (command : List String) : Nat :=
  command.foldr (fun word size => word.length + 1 + size) 0

/-- What is told about a command that does not fit. -/
def unfitting : String := "cannot fit single argument within argument list size limit"

/-- The runs for parts of the input; a run comes without arguments if it is the
    first one. -/
def Plan.groups (p : Plan) (size : Nat) : List Part → Group → Bool → List Event
  | [], g, isFirst =>
      if 0 < g.count || (isFirst && p.eager) then [.run (p.command ++ g.args.reverse)] else []
  | .argument text :: parts, g, isFirst =>
      let run : Event := .run (p.command ++ g.args.reverse)
      let isOver : Bool := p.room < size + g.size + text.length + 1
      if isOver && g.count = 0 then [.failed unfitting]
      else if isOver && p.strict && (p.lines.isSome || p.count.isSome) then [.failed "argument list too long"]
      else if isOver || p.count = some g.count then
        run :: p.groups size parts ⟨[text], 1, text.length + 1, g.lines⟩ false
      else
        p.groups size parts ⟨text :: g.args, g.count + 1, g.size + text.length + 1, g.lines⟩ isFirst
  | .lineEnd counts :: parts, g, isFirst =>
      let lines := if counts then g.lines + 1 else g.lines
      if p.lines.any (· ≤ lines) then
        .run (p.command ++ g.args.reverse) :: p.groups size parts ⟨[], 0, 0, 0⟩ false
      else p.groups size parts { g with lines } isFirst
  | .told text :: parts, g, isFirst => .told text :: p.groups size parts g isFirst
  | .failed text :: _, g, _ =>
      (if 0 < g.count && !p.strict then [.run (p.command ++ g.args.reverse)] else []) ++ [.failed text]

/-- The run of a command in whose arguments a text replaces a mark. -/
def Plan.replaced (p : Plan) (mark text : String) : Event :=
  let args := (p.command.drop 1).map fun arg => text.intercalate (arg.splitOn mark)
  if p.room < sizeOf (p.command.take 1) then .failed unfitting
  else if mark.isEmpty && !args.all String.isEmpty then .failed "command too long"
  else if p.room < sizeOf (p.command.take 1 ++ args) then .failed "argument list too long"
  else .run (p.command.take 1 ++ args)

/-- What happens with an input. -/
def Plan.events (p : Plan) (text : String) : List Event :=
  let size := sizeOf p.command
  let most := p.room - (if p.mark.isSome then 1 else size + 1)
  let parts := match p.delimiter with
    | some d => pieces most d text
    | none => p.parts most text.toList (.start false)
  match p.mark with
  | some mark => parts.filterMap fun
      | .argument text => some (p.replaced mark text)
      | .lineEnd _ => none
      | .told text => some (.told text)
      | .failed text => some (.failed text)
  | none => if p.room < size then [.failed unfitting] else p.groups size parts ⟨[], 0, 0, 0⟩ true

/-! ## Running. -/

/-- The exit code for the one of a program that got arguments, and whether there are
    more runs. -/
def collectedStatus (name : String) : Except FileError (Option Ending) → Step (Nat × Bool)
  | .ok none => throw .late
  | .ok (some (.exited 0)) => return (0, true)
  | .ok (some (.exited 255)) => do
      warn "xargs" (name ++ ": exited with status 255; aborting")
      return (124, false)
  | .ok (some (.exited _)) => return (123, true)
  | .ok (some (.killed signal)) => do
      warn "xargs" (name ++ ": terminated by signal " ++ toString signal)
      return (125, false)
  | .error e => do
      warn "xargs" (name ++ ": " ++ cause e)
      return (runningStatus e, false)

/-- How runs are shown. -/
structure Showing where
  /-- Whether commands are shown before they run. -/
  shown : Bool
  /-- Whether someone is asked before they run. -/
  asked : Bool

/-- Events in the order in which they show: what is told after a run began comes
    before what the run writes. -/
def settled (events : List Event) : List Event :=
  let (told, rest) := events.foldr (fun e (told, rest) =>
    match e with
    | .run _ => ([], told ++ e :: rest)
    | _ => (e :: told, rest)) ([], [])
  told ++ rest

/-- Lets events happen, as long as nothing fails. -/
def happen (spawn : Spawn) (w : Showing) (status : Nat) : List Event → Step Nat
  | [] => return status
  | .told text :: events => do
      warn "xargs" text
      happen spawn w status events
  | .failed text :: events => do
      warn "xargs" text
      discard <| happen spawn w status events
      return 1
  | .run command :: events => do
      let shown := " ".intercalate (command.map shownWord)
      if w.asked then
        report shown
        warn "xargs" "failed to open /dev/tty for reading: No such device or address"
        return 1
      else
        if w.shown then report (shown ++ "\n")
        let (code, goesOn) ← collectedStatus (command.headD "") (← spawn command)
        let status := if code = 0 then status else code
        if goesOn then happen spawn w status events else return status

/-! ## Options. -/

/-- Why options are refused, and whether help is suggested. -/
structure Refusal where
  text : String
  helps : Bool

/-- The number that an option asks for, which is at least `least`. -/
def readNumber (option : Char) (least : Int) (text : String) : Except Refusal Nat :=
  let cs := text.toList.dropWhile Printing.isBlank
  let (negative, digits) := Printing.leadingSign cs
  let named : String := " for -" ++ String.singleton option ++ " option"
  if digits.isEmpty || !digits.all Char.isDigit then .error ⟨"invalid number \"" ++ text ++ "\"" ++ named, true⟩
  else
    let n : Int := Sum.ofDigits 10 digits
    let n := if negative then -n else n
    if n < least then .error ⟨"value " ++ text ++ named ++ " should be >= " ++ toString least, true⟩
    else .ok n.toNat

/-- The character that a text describes: itself, or an escape sequence. -/
def readDelimiter (text : String) : Except Refusal Char :=
  let wrong (more : String) : Except Refusal Char :=
    .error ⟨"Invalid escape sequence " ++ text ++ " in input delimiter specification" ++ more, false⟩
  let coded (base : Nat) (most : String) (cs : List Char) : Except Refusal Char :=
    let digits := cs.takeWhile fun c => Sum.digitValue c < base
    let rest := cs.drop digits.length
    let n := Sum.ofDigits base digits
    if 255 < n then wrong ("; character values must not exceed " ++ most ++ ".")
    else if !rest.isEmpty then wrong ("; trailing characters " ++ String.ofList rest ++ " not recognised.")
    else .ok (Char.ofNat n)
  match text.toList with
  | [c] => .ok c
  | '\\' :: 'a' :: _ => .ok '\x07'
  | '\\' :: 'b' :: _ => .ok '\x08'
  | '\\' :: 'f' :: _ => .ok '\x0c'
  | '\\' :: 'n' :: _ => .ok '\n'
  | '\\' :: 'r' :: _ => .ok '\r'
  | '\\' :: 't' :: _ => .ok '\t'
  | '\\' :: 'v' :: _ => .ok '\x0b'
  | '\\' :: '\\' :: _ => .ok '\\'
  | '\\' :: 'x' :: cs => coded 16 "ff" cs
  | '\\' :: c :: cs => if c.isDigit then coded 8 "377" (c :: cs) else wrong "."
  | _ => .error ⟨"Invalid input delimiter specification " ++ text
      ++ ": the delimiter must be either a single character or an escape sequence starting with \\.", false⟩

/-- The largest number of characters of a run that can be asked for. -/
def largestRoom : Nat := 2092999

/-- What is told about an option that another one replaces. -/
def exclusive (before now : String) : String :=
  "warning: options " ++ before ++ " and " ++ now ++ " are mutually exclusive, ignoring previous " ++ before
    ++ " value"

/-- A plan after an option, and what is told about it. -/
def Plan.take (p : Plan) (letter : Char) (value : String) : Except Refusal (Plan × List String) :=
  let alone (isThere : Bool) (before now : String) : List String := if isThere then [exclusive before now] else []
  match letter with
  | '0' => .ok ({ p with delimiter := some '\x00' }, [])
  | 'd' => do return ({ p with delimiter := some (← readDelimiter value) }, [])
  | 'E' | 'e' => .ok ({ p with last := if value.isEmpty then none else some value }, [])
  | 'I' | 'i' =>
      let now := "--replace/-I/-i"
      .ok ({ p with mark := some (if letter = 'i' && value.isEmpty then "\x7b\x7d" else value), lines := none, count := none },
        alone p.lines.isSome "--max-lines" now ++ alone p.count.isSome "--max-args" now)
  | 'L' | 'l' => do
      let n ← if letter = 'l' && value.isEmpty then .ok 1 else readNumber letter 1 value
      let now := if letter = 'L' then "-L" else "--max-lines/-l"
      return ({ p with lines := some n, mark := none, count := none },
        alone p.count.isSome "--max-args" now ++ alone p.mark.isSome "--replace" now)
  | 'n' => do
      let n ← readNumber 'n' 1 value
      let now := "--max-args/-n"
      if n = 1 && p.mark.isSome then return (p, [])
      else
        return ({ p with count := some n, mark := none, lines := none },
          alone p.lines.isSome "--max-lines" now ++ alone p.mark.isSome "--replace" now)
  | 'P' => do
      let _ ← readNumber 'P' 0 value
      return (p, [])
  | 's' =>
      match readNumber 's' 1 value with
      | .ok n =>
          let tooMuch := "value " ++ value ++ " for -s option should be <= " ++ toString largestRoom
          .ok ({ p with room := min n largestRoom }, if largestRoom < n then [tooMuch] else [])
      | .error e => if e.text.startsWith "value" then .ok ({ p with room := 1 }, [e.text]) else .error e
  | 'x' => .ok ({ p with strict := true }, [])
  | 'r' => .ok ({ p with eager := false }, [])
  | _ => .ok (p, [])

/-- A plan after options, and what is told about them. -/
def Plan.takeAll (p : Plan) : List (Char × String) → Except (List String × Refusal) (Plan × List String)
  | [] => .ok (p, [])
  | (letter, value) :: options =>
      match p.take letter value with
      | .error e => .error ([], e)
      | .ok (p, told) =>
          match p.takeAll options with
          | .ok (p, more) => .ok (p, told ++ more)
          | .error (more, e) => .error (told ++ more, e)

/-- The options. -/
def accepted : Accepted :=
  ⟨"0oprtx", "adEILnPs\x01", [("null", '0'), ("arg-file", 'a'), ("delimiter", 'd'), ("eof", 'e'),
    ("replace", 'i'), ("max-lines", 'l'), ("max-args", 'n'), ("open-tty", 'o'), ("interactive", 'p'),
    ("no-run-if-empty", 'r'), ("max-chars", 's'), ("verbose", 't'), ("exit", 'x'), ("max-procs", 'P'),
    ("process-slot-var", '\x01')], "eil"⟩

/-- Runs a program with what an input names; a failure of the input is told at the
    end. -/
def runWith (spawn : Spawn) (a : Args) (p : Plan) (input : Except FileError String) : Step Nat := do
  for name in a.values '\x01' do
    modify fun s => s.change name fun v => { v with value := some "0", exported := true }
  let status ← happen spawn ⟨a.has 't', a.has 'p'⟩ 0 (settled (p.events (input.toOption.getD "")))
  match input with
  | .ok _ => return status
  | .error e => do
      warn "xargs" ("error closing file" ++ if e matches .isDirectory then "" else ": " ++ cause e)
      return 1

end Arguments

open Arguments in
/-- Runs a program with arguments from the input. -/
def xargs (spawn : Spawn) : Utility := fun args => do
  match accepted.read false (args.length + 1) args with
  | .error e => refuseArgs "xargs" 1 e
  | .ok a => do
      let plan : Plan :=
        { command := if a.operands.isEmpty then ["echo"] else a.operands
          delimiter := none, mark := none, count := none, lines := none, room := 131072, strict := false
          last := none, eager := true }
      match plan.takeAll a.options with
      | .error (told, e) => do
          for text in told do warn "xargs" text
          if e.helps then refuseUse "xargs" e.text 1
          else do
            warn "xargs" e.text
            return 1
      | .ok (plan, told) => do
          for text in told do warn "xargs" text
          if plan.last.isSome && plan.delimiter.isSome then
            warn "xargs" "warning: the -E option has no effect if -0 or -d is used.\n"
          match a.value? 'a' with
          | some path => do
              match ← readPath path with
              | .ok text => runWith spawn a plan (.ok text)
              | .error .isDirectory => runWith spawn a plan (.ok "")
              | .error e => do
                  warn "xargs" ("Cannot open input file " ++ inQuotes path ++ ": " ++ cause e)
                  return 1
          | none => do
              let input ← readStream 0
              modify fun s => { s with streams := s.streams.filter (·.1 != 0) }
              match ← openPath "/dev/null" .read with
              | .ok number => setStream 0 (some number)
              | .error _ => pure ()
              runWith spawn a plan input

end GuardedCnf.Utility
