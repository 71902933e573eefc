import GuardedCnf.Utility.Awk.Pattern
import GuardedCnf.Utility.Awk.Program
import GuardedCnf.Utility.Awk.Random
import GuardedCnf.Utility.Awk.Table
import GuardedCnf.Utility.Basic
/-! # The state of programs on records

    Records are taken from texts when they are needed.  What is written waits
    until it is closed, until all of it is flushed, or up to the end; a command
    that is written to runs then. -/

namespace GuardedCnf.Utility.Awk

open Script

/-- What a name stands for in a function. -/
inductive Slot where
  | value (v : Value)
  | table (place : Nat)

/-- A text that records are taken from. -/
structure Inlet where
  text : Array Char
  pos : Nat
  /-- How the command ended that wrote the text. -/
  code : Nat

/-- What texts are written to. -/
inductive Sink where
  | main
  | file (opening : Nat)
  | command

/-- What is written and has to wait. -/
structure Outlet where
  name : String
  sink : Sink
  waiting : Array String

/-- The state of a program. -/
structure State where
  program : Program
  globals : Std.HashMap String Value
  tables : Array Table
  tableNames : Std.HashMap String Nat
  /-- The variables of the function that runs. -/
  frame : List (String × Slot)
  record : String
  fields : Array Value
  /-- The file that records come from. -/
  current : Option Inlet
  /-- The next operand. -/
  place : Nat
  /-- Whether a file was among the operands. -/
  opened : Bool
  inlets : List (String × Inlet)
  /-- The outlets, the ones that were used last first. -/
  outlets : List Outlet
  patterns : Std.HashMap String Regex
  /-- The ranges that are open, by their rules. -/
  ranges : List Nat
  random : Random
  seed : Value
  status : Nat
  /-- Whether the program failed. -/
  failed : Bool

/-- Why a program does not go on with the next statement. -/
inductive Halt where
  | next
  | nextFile
  | exit
  | return (v : Value)
  | break
  | continue

/-- A piece of work of a program. -/
abbrev Work := ExceptT Halt (StateT State Step)

/-- A step of the process. -/
def step {α : Type} (x : Step α) : Work α := liftM (m := StateT State Step) (liftM x)

/-- Ends the program with a message. -/
def failure {α : Type} (message : String) : Work α := do
  step (report ("awk: " ++ message ++ "\n"))
  modify fun s => { s with status := 2, failed := true }
  throw .exit

/-! ## Variables. -/

/-- The value of a global variable. -/
def global (name : String) : Work Value := return (← get).globals.getD name .missing

/-- How numbers become texts. -/
def spec : Work String := do
  match ← global "CONVFMT" with
  | .text s | .both s _ => return s
  | _ => return "%.6g"

/-- The text of a value. -/
def textOf (v : Value) : Work String := return v.toText (← spec)

/-- The text of a global variable. -/
def globalText (name : String) : Work String := do textOf (← global name)

/-- Sets a global variable. -/
def setGlobal (name : String) (v : Value) : Work Unit :=
  modify fun s => { s with globals := s.globals.insert name v }

/-- Ends the program with a message that tells the place in the input. -/
def runtimeFailure {α : Type} (message : String) : Work α := do
  let name ← globalText "FILENAME"
  let place := "\tFILENAME=\"" ++ name ++ "\" FNR=" ++ (← globalText "FNR") ++ " NR=" ++ (← globalText "NR")
  failure ("run time error: " ++ message ++ "\n" ++ place)

/-- The pattern of a text. -/
def patternOf (text : String) : Work Regex := do
  match (← get).patterns.get? text with
  | some r => return r
  | none =>
      match Pattern.ofText text with
      | .error e => runtimeFailure ("regular expression compile failed (" ++ e.message ++ ")\n" ++ text)
      | .ok r => do
          modify fun s => { s with patterns := s.patterns.insert text r }
          return r

/-! ## Records and fields. -/

/-- The parts of a text between matches. -/
def splitAt (r : Regex) (text : Array Char) : Nat → Nat → Nat → List String
  | 0, _, _ => []
  | fuel + 1, start, from_ =>
      let part (stop : Nat) : String := String.ofList (text.extract start stop).toList
      match r.search text from_ with
      | none => [part text.size]
      | some m =>
          if m.stop = m.start then
            if m.start < text.size then splitAt r text fuel start (m.start + 1) else [part text.size]
          else part m.start :: splitAt r text fuel m.stop m.stop

/-- The words of a text between blanks. -/
def blankWords (text : String) : List String :=
  let isBlank (c : Char) : Bool := c = ' ' || c = '\t' || c = '\n'
  ((text.toList.splitBy fun a b => isBlank a = isBlank b).filter fun cs => !cs.any isBlank).map
    String.ofList

/-- The fields of a text by a separator. -/
def fieldsBy (separator text : String) : Work (List String) := do
  if text.isEmpty then return []
  else if separator = " " then return blankWords text
  else match separator.toList with
    | [] => return text.toList.map String.singleton
    | [c] => return text.splitOn (String.singleton c)
    | _ => do
        let r ← patternOf separator
        return splitAt r text.toList.toArray (text.length + 2) 0 0

/-- Makes a text the record. -/
def setRecord (text : String) : Work Unit := do
  let fields := ((← fieldsBy (← globalText "FS") text).map Value.ofInput).toArray
  modify fun s => { s with
    record := text
    fields := fields
    globals := s.globals.insert "NF" (.ofNat fields.size) }

/-- Makes the record from the fields. -/
def joinFields : Work Unit := do
  let separator ← globalText "OFS"
  let texts ← (← get).fields.toList.mapM textOf
  modify fun s => { s with
    record := separator.intercalate texts
    globals := s.globals.insert "NF" (.ofNat s.fields.size) }

/-- Sets a field. -/
def setField (n : Nat) (v : Value) : Work Unit := do
  if n = 0 then setRecord (← textOf v)
  else
    modify fun s =>
      let fields := s.fields ++ (Array.replicate (n - s.fields.size) (Value.text ""))
      { s with fields := fields.setIfInBounds (n - 1) v }
    joinFields

/-- Sets the number of fields. -/
def setFieldCount (v : Value) : Work Unit := do
  let n := Value.toInt v.toNumber
  if n < 0 then runtimeFailure "negative value assigned to NF"
  else
    modify fun s => { s with
      fields := (s.fields.extract 0 n.toNat)
        ++ Array.replicate (n.toNat - s.fields.size) (Value.text "") }
    joinFields

/-- A field. -/
def field (n : Nat) : Work Value := do
  let s ← get
  if n = 0 then return Value.ofInput s.record else return s.fields.getD (n - 1) (.text "")

/-! ## Tables. -/

/-- Makes a table. -/
def newTable : Work Nat := do
  let place := (← get).tables.size
  modify fun s => { s with tables := s.tables.push .empty }
  return place

/-- The place of the table with a name. -/
def tablePlace (name : String) : Work Nat := do
  let s ← get
  match s.frame.lookup name with
  | some (.table place) => return place
  | some (.value _) => do
      let place ← newTable
      modify fun s => { s with
        frame := s.frame.map fun (n, slot) => if n = name then (n, .table place) else (n, slot) }
      return place
  | none =>
      match s.tableNames.get? name with
      | some place => return place
      | none => do
          let place ← newTable
          modify fun s => { s with tableNames := s.tableNames.insert name place }
          return place

/-- Changes a table. -/
def onTable (place : Nat) (f : Table → Table) : Work Unit :=
  modify fun s => { s with tables := s.tables.modify place f }

/-- Looks for an element of a table. -/
def element? (place : Nat) (key : Key) : Work (Option Value) := do
  onTable place (·.touch key)
  return (← get).tables[place]?.bind (·.values.get? key.toText)

/-- An element of a table, which is made if there is none. -/
def element (place : Nat) (key : Key) : Work Value := do
  match ← element? place key with
  | some v => return v
  | none => do
      onTable place (·.add key .missing)
      return .missing

/-! ## Output. -/

/-- Writes what waits for an outlet of a file or for the standard output. -/
def Outlet.flush (o : Outlet) : Step Unit := do
  let text := String.join o.waiting.toList
  if !text.isEmpty then
    match o.sink with
    | .main => discard <| write 1 text
    | .file number => discard <| writeOpening number text
    | .command => return ()

/-- Writes what waits for some outlets. -/
def flush (chosen : Outlet → Bool) : Work Unit := do
  for o in (← get).outlets do
    if chosen o then step o.flush
  modify fun s => { s with
    outlets := s.outlets.map fun o =>
      if chosen o && !(o.sink matches .command) then { o with waiting := #[] } else o }

/-- Writes what waits for the standard output. -/
def flushMain : Work Unit := flush fun o => o.sink matches .main

/-- Writes all that waits. -/
def flushAll : Work Unit := flush fun _ => true

/-- How a command of a shell ends. -/
def runCommand (spawn : Spawn) (command : String) : Work Nat := do
  match ← step (spawn ["/bin/sh", "-c", command]) with
  | .ok (some (.exited code)) => return code
  | .ok (some (.killed signal)) => return 256 + signal
  | .ok none => step (throw .late)
  | .error _ => return 127

/-- Runs steps with another opening for a stream. -/
def withStream {α : Type} (stream opening : Nat) (x : Work α) : Work α := do
  let before := (← step get).streams
  step (setStream stream (some opening))
  let a ← x
  step (modify fun s => { s with streams := before })
  return a

/-- Ends an outlet: a command runs, with the text as its input. -/
def endOutlet (spawn : Spawn) (o : Outlet) : Work Nat := do
  match o.sink with
  | .command => do
      let (reader, writer) ← step newPipe
      discard <| step (writeOpening writer (String.join o.waiting.toList))
      withStream 0 reader (runCommand spawn o.name)
  | _ => do
      step o.flush
      return 0

/-- Adds a text to an outlet, which comes to the front. -/
def addTo (name : String) (isCommand : Bool) (text : String) (make : Work Sink) : Work Unit := do
  let isHere (o : Outlet) : Bool := o.name = name && (o.sink matches .command) = isCommand
  match (← get).outlets.find? isHere with
  | some o => modify fun s => { s with
      outlets := { o with waiting := o.waiting.push text } :: s.outlets.filter (!isHere ·) }
  | none => do
      let sink ← make
      modify fun s => { s with outlets := ⟨name, sink, #[text]⟩ :: s.outlets }

/-- The name of the standard output among the outlets. -/
def mainName : String := "/dev/stdout"

/-- Writes a text where an output statement says. -/
def emit (into : Option (String × String)) (text : String) : Work Unit := do
  match into with
  | none => modify fun s => { s with
      outlets := s.outlets.map fun o =>
        if o.sink matches .main then { o with waiting := o.waiting.push text } else o }
  | some ("|", command) => addTo command true text do
      flushMain
      return .command
  | some (_, "/dev/stderr") => step (report text)
  | some (op, path) =>
      let path := if path = "-" then mainName else path
      addTo path false text do
        match ← step (openPath path (if op = ">>" then .append else .create)) with
        | .ok number => return .file number
        | .error e => failure ("cannot open \"" ++ path ++ "\" for output (" ++ cause e ++ ")")

/-! ## Input. -/

/-- The first place from one on with a property, among so many. -/
def findPlace (p : Nat → Bool) : Nat → Nat → Nat
  | 0, start => start
  | fuel + 1, start => if p start then start else findPlace p fuel (start + 1)

/-- Takes a record of a text. -/
def takeRecord (i : Inlet) : Work (Option (String × Inlet)) := do
  let size := i.text.size
  let part (start stop next : Nat) : Option (String × Inlet) :=
    some (String.ofList (i.text.extract start stop).toList, { i with pos := next })
  let find (p : Nat → Bool) (start : Nat) : Nat := findPlace p (size - start) start
  if size ≤ i.pos then return none
  else match (← globalText "RS").toList with
    | [] =>
        let start := find (fun n => i.text[n]? != some '\n') i.pos
        if size ≤ start then return none
        else
          let stop := find (fun n => i.text[n]? = some '\n' && (i.text[n + 1]?).all (· = '\n')) start
          return part start stop (find (fun n => i.text[n]? != some '\n') stop)
    | [c] =>
        let stop := find (fun n => i.text[n]? = some c) i.pos
        return part i.pos stop (stop + 1)
    | cs => do
        let r ← patternOf (String.ofList cs)
        match r.search i.text i.pos with
        | some m =>
            if m.start < m.stop then return part i.pos m.start m.stop else return part i.pos size size
        | none => return part i.pos size size

/-- The variable and the value that an operand sets. -/
def setting? (operand : String) : Option (String × String) :=
  let name := operand.toList.takeWhile isNameChar
  match operand.toList.drop name.length with
  | '=' :: value => if isName (String.ofList name) then some (String.ofList name, String.ofList value) else none
  | _ => none

/-- Sets a variable that is no table. -/
def setVar (name : String) (v : Value) : Work Unit := do
  let s ← get
  match s.frame.lookup name with
  | some _ => set { s with
      frame := s.frame.map fun (n, slot) => if n = name then (n, .value v) else (n, slot) }
  | none => do
      if name = "NF" then setFieldCount v
      setGlobal name v

/-- The text that records come from next, if there is one: operands that are
    settings are carried out. -/
def openNext : Nat → Work Bool
  | 0 => return false
  | fuel + 1 => do
      let s ← get
      let opened (name : Option String) (text : String) : Work Bool := do
        modify fun s => { s with current := some ⟨text.toList.toArray, 0, 0⟩, opened := true }
        match name with
        | some name => setGlobal "FILENAME" (.text name)
        | none => pure ()
        setGlobal "FNR" (.number 0)
        return true
      if (← global "ARGC").toNumber ≤ s.place.toFloat then
        if s.opened then return false
        else
          let text ← step (readStream 0)
          opened none (text.toOption.getD "")
      else
        set { s with place := s.place + 1 }
        match ← element? 0 (.number (Int.ofNat s.place)) with
        | none => openNext fuel
        | some v =>
            let operand ← textOf v
            match setting? operand with
            | some (name, value) => do
                setVar name (Value.ofInput (unescaped value))
                openNext fuel
            | none =>
                if operand.isEmpty then openNext fuel
                else match ← step (input operand) with
                  | .ok text => opened (some operand) text
                  | .error .isDirectory => failure ("read error (" ++ cause .isDirectory ++ ")")
                  | .error e => failure ("cannot open \"" ++ operand ++ "\" (" ++ cause e ++ ")")

/-- Takes the next record of the input. -/
def nextRecord : Nat → Work (Option String)
  | 0 => return none
  | fuel + 1 => do
      match (← get).current with
      | none => if ← openNext fuel then nextRecord fuel else return none
      | some i =>
          match ← takeRecord i with
          | none => do
              modify fun s => { s with current := none }
              nextRecord fuel
          | some (text, i) => do
              modify fun s => { s with current := some i }
              setGlobal "NR" (.number ((← global "NR").toNumber + 1.0))
              setGlobal "FNR" (.number ((← global "FNR").toNumber + 1.0))
              return some text

/-- How many files are opened at most for one record. -/
def manyFiles : Nat := 100000

/-- Takes the next record of a file or of the output of a command; without a
    file there is no answer. -/
def nextOf (spawn : Spawn) (isCommand : Bool) (source : String) : Work (Option (Option String)) := do
  let inlet : Option Inlet ← match (← get).inlets.lookup source with
    | some i => pure (some i)
    | none => do
        if isCommand then
          let (reader, writer) ← step newPipe
          flushMain
          let code ← withStream 1 writer (runCommand spawn source)
          let text ← step (readOpening reader none)
          pure (some ⟨(text.toOption.getD "").toList.toArray, 0, code⟩)
        else
          let text ← step (if source = "/dev/stdin" then readStream 0 else input source)
          pure (text.toOption.map fun text => ⟨text.toList.toArray, 0, 0⟩)
  match inlet with
  | none => return none
  | some i => do
      let next ← takeRecord i
      let rest := (next.map (·.2)).getD { i with pos := i.text.size }
      modify fun s => { s with inlets := (source, rest) :: s.inlets.filter (·.1 != source) }
      return some (next.map (·.1))

/-- Ends what is read or written, and tells how. -/
def close (spawn : Spawn) (name : String) : Work Int := do
  let s ← get
  let found := s.outlets.filter fun o => o.name = name
  match found, s.inlets.lookup name with
  | [], none => return -1
  | [], some i => do
      set { s with inlets := s.inlets.filter (·.1 != name) }
      return i.code
  | _, _ => do
      set { s with
        outlets := s.outlets.filter fun o => o.name != name
        inlets := s.inlets.filter (·.1 != name) }
      let codes ← found.mapM (endOutlet spawn)
      return codes.getLast?.getD 0

end GuardedCnf.Utility.Awk
