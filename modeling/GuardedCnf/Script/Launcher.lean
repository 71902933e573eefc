import GuardedCnf.Script.Evaluation
/-! # Tools of a host in memory

    What a tool does is up to the system, and all that is known of runs holds for
    any launcher of tools.  Where there is no system somebody has to play the tools,
    and a tool that is a script can do whatever shells and the programs they call
    can do.  This launcher plays them, so that a whole run can be played on a host in
    memory, its tools included.  It belongs to the surroundings of runs, not to what
    runs are: nothing but the choice of a launcher depends on it.

    A tool is a program of the host.  It reads nothing, and what it writes goes
    into two pipes.  It has ended when nobody keeps these pipes open any more. -/

namespace GuardedCnf.Script

/-- The variables that tools get. -/
def standardVariables : List (String × String) :=
  [("PATH", standardPath), ("HOME", "/root"),
    ("PWD", Tree.workingPath)]

/-- How deep commands may be nested, through functions too. -/
def maxDepth : Nat := 4000

/-- How much work a tool may do. -/
def maxWork : Nat := 2500000

/-- The number of the first process. -/
def firstPid : Nat := 1000

/-- The process that runs a tool, with its openings. -/
def Shell.ofHost (h : Host) : Shell :=
  let (input, tree) := h.tree.push (.device .null)
  let (input, h) := { h with tree := tree }.openNode input false
  let (_, output, h) := h.openPipe
  let (_, errors, h) := h.openPipe
  let machine : Machine :=
    { host := h
      time := 0
      budget := maxWork
      lastPid := firstPid
      signals := []
      names := 0
      outlets := [(h.opening output).node, (h.opening errors).node]
      records := #[]
      holders := []
      processes := []
      kills := [] }
  { machine := machine
    pid := firstPid
    scriptPid := firstPid
    streams := [(0, input), (1, output), (2, errors)]
    folder := Tree.working
    path := Tree.workingPath
    vars := standardVariables.map fun (name, value) => { Variable.plain name (some value) with exported := true }
    title := ""
    params := []
    functions := []
    texts := #[]
    options := []
    extended := false
    choices := []
    isText := false
    source := none
    part := none
    readTo := 1
    running := []
    pipeCodes := [0]
    lastWord := ""
    traps := []
    status := 0
    outputStatus := 0
    line := 0
    command := none
    jobs := []
    lastJob := none
    loops := 0
    calls := 0
    locals := []
    mask := 18
    optionIndex := 1
    optionOffset := 0 }

/-- Becomes a tool, unless there is none. -/
def startTool (words : List String) : Step (Except FileError Unit) := do
  let name := words.headD ""
  if name.isEmpty then return .error .notFound
  match ← search name with
  | .error e => return .error e
  | .ok path => become (evaluate maxDepth) manyPrograms path words

/-- The bytes that were written to an outlet, in the order of time. -/
def Machine.written (m : Machine) (outlet : NodeId) : List UInt8 :=
  let records := m.records.toList.filter (·.node = outlet)
  let ordered := records.mergeSort fun a b => a.time ≤ b.time
  ordered.flatMap fun r => r.bytes.toList

/-- When the last process that keeps an outlet open ends, if it does. -/
def Machine.finish? (m : Machine) : Option Nat :=
  m.holders.foldl (fun last holder => do return max (← last) (← holder.2)) (some m.time)

/-- Runs tools on a host in memory. -/
def launcher : Host.Launcher := fun l path => do
  let words := (l.tool.command :: l.tool.args).map Octets.ofText ++ [path]
  if words.any (·.toList.contains '\x00') then return .notStarted .zeroInArgument
  let start := Shell.ofHost (← get)
  let (result, s) := (startTool words).run start
  let machine := s.machine
  let ended (code signal : Option Int) : StateM Host LaunchResult := do
    match machine.finish? with
    | none => return .outOfTime
    | some time => do
        modify (·.after time)
        if machine.host.isLate time then return .outOfTime
        let bytesOf (n : Nat) : List UInt8 := (start.machine.outlets[n]?.map machine.written).getD []
        return .ended ⟨bytesOf 0, bytesOf 1, code, signal⟩
  match result with
  | .ok (.error e) => return .notStarted e
  | .error .late => do
      set machine.host
      return .outOfTime
  | .error (.killed signal) => do
      set machine.host
      ended none (some (Int.ofNat signal))
  | _ => do
      set machine.host
      ended (some (Int.ofNat (s.status % 256))) none

/-- The host of a working folder with files, where the programs are there. -/
def hostOf (files : List (String × List UInt8)) : Host := .ofFiles programNames files

end GuardedCnf.Script
