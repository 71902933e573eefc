import GuardedCnf.Host
import GuardedCnf.Script.Sum
/-! # Shells — processes of a host in memory

    Processes run one after the other: a process that is started runs to its end
    before the one that started it goes on, and what they would do at the same
    time takes the time of the longest.  A shell is a process with variables,
    functions and parameters.  What all processes share is the machine. -/

namespace GuardedCnf.Host

/-! ## What processes ask of a host, besides what a session asks. -/

/-- Whether a time in microseconds is longer than there is. -/
def isLate (h : Host) (time : Nat) : Bool := h.limit.any (· < Int.ofNat time)

/-- The host after some microseconds. -/
def after (h : Host) (time : Nat) : Host := { h with limit := h.limit.map (· - Int.ofNat time) }

/-- Opens a new pipe: the opening to read from, and the one to write to. -/
def openPipe (h : Host) : Nat × Nat × Host :=
  let (id, tree) := h.tree.push (.pipe .empty 0)
  let (reader, h) := { h with tree := tree }.openNode id false
  let (writer, h) := h.openNode id true
  (reader, writer, h)

/-- Takes back the last bytes that were read at an opening. -/
def unread (h : Host) (number count : Nat) : Host :=
  let opening := h.opening number
  match h.tree.node opening.node with
  | .file .. =>
      { h with openings :=
          h.openings.setIfInBounds number { opening with offset := opening.offset - count } }
  | .pipe .. =>
      { h with tree := h.tree.modify opening.node fun
        | .pipe bytes taken => .pipe bytes (taken - count)
        | n => n }
  | _ => h

/-- How many bytes are left of the current line at an opening, with its end. -/
def lineSize (h : Host) (number : Nat) : Nat :=
  let sizeFrom (bytes : ByteArray) (start : Nat) : Nat := scan bytes (bytes.size - start) start 0
  let opening := h.opening number
  match h.tree.node opening.node with
  | .file bytes _ => sizeFrom bytes opening.offset
  | .pipe bytes taken => sizeFrom bytes taken
  | _ => 0
where
  /-- Counts the bytes of a line from a place on. -/
  scan (bytes : ByteArray) : Nat → Nat → Nat → Nat
    | 0, _, count => count
    | fuel + 1, place, count =>
        if bytes.get! place = 10 then count + 1 else scan bytes fuel (place + 1) (count + 1)

end GuardedCnf.Host

namespace GuardedCnf.Script

/-- What a process wrote to a pipe, and when. -/
structure Record where
  pid : Nat
  node : NodeId
  time : Nat
  bytes : ByteArray

/-- What all processes share. -/
structure Machine where
  host : Host
  /-- The time since the tool began, in microseconds. -/
  time : Nat
  /-- How much work may still be done, about one unit in a microsecond. -/
  budget : Nat
  /-- The number of the last process. -/
  lastPid : Nat
  /-- The signals that processes have not yet noticed. -/
  signals : List (Nat × Nat)
  /-- How many temporary names were made. -/
  names : Nat
  /-- The pipes that lead out of the tool. -/
  outlets : List NodeId
  /-- What was written to these pipes. -/
  records : Array Record
  /-- The processes that kept these pipes open, and when they ended if they did. -/
  holders : List (Nat × Option Nat)
  /-- The processes in the background, and when they end if they do. -/
  processes : List (Nat × Option Nat)
  /-- The processes that were killed, the signals and the times. -/
  kills : List (Nat × Nat × Nat)

/-- What a variable holds besides its value. -/
inductive Shape where
  | single
  /-- Items with numbers; the value is the item with number 0. -/
  | listed
  /-- Items with texts as keys; the value is the item with key `0`. -/
  | keyed
deriving DecidableEq

/-- A variable of a shell. -/
structure Variable where
  name : String
  value : Option String
  exported : Bool
  fixed : Bool
  /-- Whether its values are sums. -/
  isNumber : Bool
  shape : Shape
  items : List (String × String)

namespace Variable

/-- A variable without marks. -/
def plain (name : String) (value : Option String) : Variable :=
  ⟨name, value, false, false, false, .single, []⟩

/-- The items of a variable; a value without shape is one item. -/
def allItems (v : Variable) : List (String × String) :=
  match v.shape, v.value with
  | .single, some value => [("0", value)]
  | .single, none => []
  | _, _ => v.items

/-- A variable with items. -/
def withItems (v : Variable) (shape : Shape) (items : List (String × String)) : Variable :=
  let sorted := match shape with
    | .keyed => items
    | _ => items.mergeSort fun a b => a.1.toNat?.getD 0 ≤ b.1.toNat?.getD 0
  { v with shape := shape, items := sorted, value := sorted.lookup "0" }

/-- A variable where an item has a value. -/
def setItem (v : Variable) (key value : String) : Variable :=
  let shape := if v.shape = .single then .listed else v.shape
  let items := v.allItems
  v.withItems shape <|
    if items.any (·.1 = key) then items.map fun item => if item.1 = key then (key, value) else item
    else items ++ [(key, value)]

/-- A variable with a value. -/
def setValue (v : Variable) (value : String) : Variable :=
  if v.shape = .single then { v with value := some value } else v.setItem "0" value

/-- The number of an index, which counts from the end if it is negative. -/
def position? (v : Variable) (index : Int) : Option Nat :=
  if 0 ≤ index then some index.toNat
  else
    let length : Nat := ((v.allItems.getLast?.bind fun item => item.1.toNat?).map (· + 1)).getD 0
    let position : Int := (length : Int) + index
    if 0 ≤ position then some position.toNat else none

end Variable

/-- A function of a shell. -/
structure Function where
  name : String
  body : Command
  /-- The script that it is in. -/
  source : String

/-- How a process ended. -/
inductive Ending where
  | exited (status : Nat)
  | killed (signal : Nat)

/-- The exit code that shells show for an ending. -/
def Ending.code : Ending → Nat
  | .exited status => status
  | .killed signal => 128 + signal

/-- A command that runs in the background. -/
structure Job where
  /-- Its place among the jobs, from 1 on. -/
  place : Nat
  pid : Nat
  ending : Ending
  /-- When it ends; `none` if it does not. -/
  finish : Option Nat
  /-- Whether it was waited for. -/
  waited : Bool

/-- Whether a job has ended at a time. -/
def Job.isOver (j : Job) (now : Nat) : Bool := j.finish.any (· ≤ now)

/-- A shell. -/
structure Shell where
  machine : Machine
  pid : Nat
  /-- The number of the process that runs the script as a whole. -/
  scriptPid : Nat
  /-- The streams, and their openings. -/
  streams : List (Nat × Nat)
  folder : NodeId
  /-- The path of the folder as it was reached, which may lead through links. -/
  path : String
  vars : List Variable
  /-- The name of the script. -/
  title : String
  params : List String
  functions : List Function
  /-- The table of texts for here redirections. -/
  texts : Array Word
  options : List Char
  /-- Whether its scripts are in the extended dialect, which has messages of its own
      too. -/
  extended : Bool
  /-- More options, of the extended dialect. -/
  choices : List String
  /-- Whether the script was given as a text. -/
  isText : Bool
  /-- The script that is running, for messages, if it is not the main one. -/
  source : Option String
  /-- The part of a script that is being read, for messages. -/
  part : Option String
  /-- The line that the reading of the script has come to. -/
  readTo : Nat
  /-- The functions that are running, the innermost one first. -/
  running : List String
  /-- The exit codes of the commands of the last pipe. -/
  pipeCodes : List Nat
  /-- The last word of the last command. -/
  lastWord : String
  /-- The actions for signals; 0 is the end of the shell. -/
  traps : List (Nat × String)
  /-- The exit code of the last command. -/
  status : Nat
  /-- The exit code of the last command whose output was expanded. -/
  outputStatus : Nat
  line : Nat
  /-- The command that is running, for messages. -/
  command : Option String
  /-- The jobs, the last one most recent. -/
  jobs : List Job
  lastJob : Option Nat
  /-- How many loops are around the current command. -/
  loops : Nat
  /-- How many functions and sourced scripts are around it. -/
  calls : Nat
  /-- The variables to restore at the end of functions. -/
  locals : List (List Variable)
  /-- What users may not do with new files. -/
  mask : Nat
  /-- The parameter whose options are read next. -/
  optionIndex : Nat
  /-- How many options of it were read. -/
  optionOffset : Nat

/-- Why a shell does not go on with the next command. -/
inductive Jump where
  /-- The process ends with its exit code. -/
  | exit
  /-- The same, because of an error in a command. -/
  | failure
  /-- The rest of the line does not run. -/
  | discard
  | return
  | break (levels : Nat)
  | continue (levels : Nat)
  | killed (signal : Nat)
  /-- The tool does not end in the time there is. -/
  | late

/-- A step of a shell. -/
abbrev Step := ExceptT Jump (StateM Shell)

/-- How a command is run. -/
structure Mode where
  /-- Whether its exit code is tested, so that it does not end the shell. -/
  tested : Bool
  /-- Whether nothing comes after it in its process. -/
  final : Bool

/-- Runs commands. -/
abbrev Run := Mode → Command → Step Unit

/-! ## The machine. -/

/-- Applies a change to the host. -/
def onHost {α : Type} (f : Host → α × Host) : Step α := modifyGet fun s =>
  let (a, host) := f s.machine.host
  (a, { s with machine.host := host })

/-- The host. -/
def host : Step Host := return (← get).machine.host

/-- Lets time pass, in microseconds. -/
def spend (time : Nat) : Step Unit := do
  modify fun s => { s with machine.time := s.machine.time + time }
  let s ← get
  if s.machine.host.isLate s.machine.time then throw .late

/-- Does some work. -/
def work (amount : Nat) : Step Unit := do
  let budget := (← get).machine.budget
  if budget < amount then throw .late
  modify fun s => { s with machine.budget := budget - amount }

/-! ## Streams. -/

/-- The largest number of bytes in a pipe; a writer that goes on has no
    reader. -/
def maxPipe : Nat := Nat.pow 2 23

/-- The signal of a writer without reader. -/
def signalPipe : Nat := 13

/-- The opening of a stream. -/
def Shell.opening? (s : Shell) (stream : Nat) : Option Nat := s.streams.lookup stream

/-- The node that a stream is open on. -/
def Shell.nodeOf? (s : Shell) (stream : Nat) : Option NodeId :=
  (s.opening? stream).map fun number => (s.machine.host.opening number).node

/-- Sets the opening of a stream. -/
def setStream (stream : Nat) (opening : Option Nat) : Step Unit := modify fun s =>
  let others := s.streams.filter (·.1 != stream)
  { s with streams := match opening with
    | some number => (stream, number) :: others
    | none => others }

/-- Writes octets to an opening; an error if that fails. -/
def writeOpening (number : Nat) (text : String) : Step (Except FileError Unit) := do
  let s ← get
  let id := (s.machine.host.opening number).node
  let isOutlet := s.machine.outlets.contains id
  let isFull : Bool := match s.machine.host.tree.node id with
    | .pipe bytes _ => maxPipe < bytes.size
    | _ => false
  if isFull then throw (if isOutlet then .late else .killed signalPipe)
  let bytes := Octets.toBytes text
  if isOutlet then
    modify fun s => { s with
      machine.records := s.machine.records.push ⟨s.pid, id, s.machine.time, bytes⟩ }
  onHost fun h => h.write number bytes

/-- Writes octets to a stream; an error if that fails. -/
def write (stream : Nat) (text : String) : Step (Except FileError Unit) := do
  if text.isEmpty then return .ok ()
  match (← get).opening? stream with
  | none => return .error (.other "Bad file descriptor")
  | some number => writeOpening number text

/-- Writes octets to the standard error output. -/
def report (text : String) : Step Unit := discard <| write 2 text

/-- Opens what a path leads to. -/
def openPath (path : String) (mode : OpenMode) : Step (Except FileError Nat) := do
  let s ← get
  match s.machine.host.openPath s.nodeOf? s.folder path mode with
  | .error e => return .error e
  | .ok (number, h) => do
      modify fun s => { s with machine.host := h }
      return .ok number

/-- Reads what is left at an opening, at most so many bytes if there is a
    maximum. -/
def readOpening (number : Nat) (most : Option Nat) : Step (Except FileError String) := do
  let bytes ← onHost fun h => h.read number most
  return bytes.map Octets.ofBytes

/-- Reads what is left on a stream. -/
def readStream (stream : Nat) : Step (Except FileError String) := do
  match (← get).opening? stream with
  | some number => readOpening number none
  | none => return .error (.other "Bad file descriptor")

/-- Reads a file. -/
def readPath (path : String) : Step (Except FileError String) := do
  match ← openPath path .read with
  | .ok number => readOpening number none
  | .error e => return .error e

/-- What a path leads to. -/
def find (through : Bool) (path : String) : Step (Except FileError Found) := do
  let s ← get
  return s.machine.host.tree.find s.nodeOf? through s.folder path

/-- Changes the file tree. -/
def onTree (f : Tree → Tree) : Step Unit :=
  onHost fun h => ((), { h with tree := f h.tree })

/-! ## Variables. -/

/-- The variable with a name. -/
def Shell.var? (s : Shell) (name : String) : Option Variable := s.vars.find? (·.name = name)

/-- The value of a variable. -/
def Shell.value? (s : Shell) (name : String) : Option String :=
  (s.var? name).bind (·.value)

/-- Changes a variable, which is made if there is none. -/
def Shell.change (s : Shell) (name : String) (f : Variable → Variable) : Shell :=
  if s.vars.any (·.name = name) then
    { s with vars := s.vars.map fun v => if v.name = name then f v else v }
  else
    let new : Variable := { Variable.plain name none with exported := s.options.contains 'a' }
    { s with vars := f new :: s.vars }

/-- The separators of fields. -/
def Shell.separators (s : Shell) : List Char := (s.value? "IFS").getD " \t\n" |>.toList

/-- The names of options. -/
def optionNames : List (String × Char) :=
  [("errexit", 'e'), ("noglob", 'f'), ("ignoreeof", 'I'), ("interactive", 'i'), ("monitor", 'm'),
    ("noexec", 'n'), ("stdin", 's'), ("xtrace", 'x'), ("verbose", 'v'), ("vi", 'V'), ("emacs", 'E'),
    ("noclobber", 'C'), ("allexport", 'a'), ("notify", 'b'), ("nounset", 'u'), ("privileged", 'p'),
    ("nolog", 'G'), ("debug", 'D')]

/-- Whether an option is set. -/
def Shell.has (s : Shell) (option : Char) : Bool := s.options.contains option

/-- Sets the exit code. -/
def setStatus (status : Nat) : Step Unit := modify fun s => { s with status := status }

/-! ## Messages. -/

/-- The beginning of messages. -/
def Shell.where_ (s : Shell) : String :=
  (if s.extended then s.source.getD s.title ++ ": line " else s.title ++ ": ")
    ++ toString s.line ++ ": " ++ (s.command.map (· ++ ": ")).getD ""

/-- Writes a message. -/
def complain (text : String) : Step Unit := do report ((← get).where_ ++ text ++ "\n")

/-- Writes a message and fails. -/
def abort {α : Type} (text : String) : Step α := do
  complain text
  setStatus 2
  throw .failure

/-- Writes a message in the words of the dialect and fails, in the extended one with
    an exit code. -/
def protest {α : Type} (portable extended : String) (status : Nat) : Step α := do
  if (← get).extended then
    complain extended
    setStatus status
    throw .failure
  else abort portable

/-- Writes a message in the words of the dialect about an expansion, and fails; in the
    extended one only the rest of the line does not run. -/
def giveUp {α : Type} (portable extended : String) : Step α := do
  if (← get).extended then
    complain extended
    setStatus 1
    throw .discard
  else abort portable

/-- Writes a message in the words of the dialect about a parameter without value, and
    ends the shell. -/
def demand {α : Type} (portable extended : String) : Step α := do
  if (← get).extended then
    complain extended
    setStatus (if (← get).isText then 127 else 1)
    throw .exit
  else abort portable

/-! ## Sums. -/

/-- The value of a place, if it has one. -/
def Shell.placeText? (s : Shell) (parameter? : String → Option String) (place : Place) :
    Option String :=
  match place.index with
  | none => parameter? place.name
  | some key => do
      let v ← s.var? place.name
      if v.shape = .keyed then v.allItems.lookup key
      else
        let n ← v.position? (← key.toInt?)
        v.allItems.lookup (toString n)

/-- What expressions know of the variables of a shell, given the values of
    parameters. -/
def Shell.surroundings (s : Shell) (parameter? : String → Option String) : Sum.Surroundings where
  extended := s.extended
  textOf := s.placeText? parameter?
  isKeyed name := (s.var? name).any (·.shape = .keyed)
  strict := s.has 'u'

/-- The words of the extended dialect for an expression that cannot be read. -/
def misreadingWords (expression message text : String) : String :=
  let shown := String.ofList (expression.toList.dropWhile fun c => c = ' ' || c = '\t')
  shown ++ ": " ++ message ++ " (error token is \"" ++ text ++ "\")"

/-- Why an expression has no value, in the words of the extended dialect. -/
def failureWords : Sum.Failure → String
  | .divisionByZero expression text => misreadingWords expression "division by 0" text
  | .noNumber text => text ++ ": expression recursion level exceeded (error token is \"" ++ text ++ "\")"
  | .unset name => name ++ ": unbound variable"
  | .misread expression e => misreadingWords expression e.extended e.text
  | .negativePower expression text => misreadingWords expression "exponent less than 0" text

/-! ## Assignments. -/

/-- Fails if a variable cannot change. -/
def checkFixed (name : String) : Step Unit := do
  match (← get).var? name with
  | some v => if v.fixed then giveUp (name ++ ": is read only") (name ++ ": readonly variable")
  | none => pure ()

/-- What a variable is set to by a text. -/
def storedText (name value : String) : Step String := do
  let s ← get
  if (s.var? name).any (·.isNumber) then
    match Sum.valueOf (s.surroundings s.value?) value with
    | .ok (n, _) => return toString n
    | .error e => giveUp "" (failureWords e)
  else return value

/-- Sets a variable. -/
def assign (name value : String) : Step Unit := do
  checkFixed name
  let value ← storedText name value
  modify fun s => s.change name fun v => v.setValue value
  if name = "OPTIND" then
    modify fun s => { s with optionIndex := value.toNat?.getD 1, optionOffset := 0 }

/-- Sets an item of a variable. -/
def assignItem (name key value : String) : Step Unit := do
  checkFixed name
  let value ← storedText name value
  modify fun s => s.change name fun v => v.setItem key value

/-- Adds to a variable or one of its items: texts are joined, and numbers are
    added. -/
def assignMore (name : String) (key : Option String) (value : String) : Step Unit := do
  let v := ((← get).var? name).getD (.plain name none)
  let old := (match key with
    | some key => v.allItems.lookup key
    | none => v.value).getD ""
  let sum := if v.isNumber && !old.isEmpty then old ++ "+" ++ value else old ++ value
  match key with
  | some key => assignItem name key sum
  | none => assign name sum

/-- Sets the items of a list. -/
def assignItems (name : String) (values : List String) : Step Unit := do
  checkFixed name
  let items := values.zipIdx.map fun (value, n) => (toString n, value)
  modify fun s => s.change name fun v => v.withItems .listed items

/-- The words of the system for an error, without its number. -/
def cause (e : FileError) : String := (e.message.splitOn " (os error").headD ""

/-! ## Processes. -/

/-- A machine without content. -/
def Machine.empty : Machine := ⟨⟨⟨#[]⟩, #[], none, 0⟩, 0, 0, 0, [], 0, [], #[], [], [], []⟩

/-- Whether a process keeps a pipe open that leads out of the tool. -/
def Shell.holdsOutlet (s : Shell) : Bool := s.streams.any fun (_, number) =>
  s.machine.outlets.contains (s.machine.host.opening number).node

/-- Runs a process that begins as a copy of this one, and tells how it ended if
    there was time for that. -/
def tryFork (x : Step Unit) : Step (Option Ending) := fun s =>
  let machine := s.machine
  let s := { s with machine := .empty }
  let pid := machine.lastPid + 1
  let (result, t) := x.run { s with machine := { machine with lastPid := pid }, pid := pid }
  let (ending, finish) : Option Ending × Option Nat := match result with
    | .error (.killed signal) => (some (.killed signal), some t.machine.time)
    | .error .late => (none, none)
    | _ => (some (.exited (t.status % 256)), some t.machine.time)
  let holds := t.holdsOutlet
  let machine := t.machine
  (.ok ending, { s with machine :=
    if holds then { machine with holders := (pid, finish) :: machine.holders } else machine })

/-- The jobs from a place on, where a process that starts takes the first place that
    is free, or whose job is over and was waited for. -/
def Shell.placeFrom (s : Shell) : Nat → Nat → Nat × List Job
  | 0, place => (place, s.jobs)
  | fuel + 1, place =>
      match s.jobs.find? (·.place = place) with
      | none => (place, s.jobs)
      | some job =>
          if job.waited && job.isOver s.machine.time then (place, s.jobs.filter (·.place != place))
          else s.placeFrom fuel (place + 1)

/-- Takes a place for a process that starts. -/
def takePlace : Step Nat := modifyGet fun s =>
  let (place, jobs) := s.placeFrom (s.jobs.length + 1) 1
  (place, { s with jobs := jobs })

/-- The same as `tryFork`, where this process waits. -/
def fork (x : Step Unit) : Step Ending := do
  discard takePlace
  match ← tryFork x with
  | some ending => return ending
  | none => throw .late

/-- Runs steps whose exit code is their result. -/
def settingStatus (x : Step Nat) : Step Unit := do setStatus (← x)

end GuardedCnf.Script
