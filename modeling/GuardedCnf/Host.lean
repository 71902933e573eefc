import GuardedCnf.Host.Standard
import GuardedCnf.Session
import GuardedCnf.Text.Octets
/-! # Hosts in memory — sessions without a system

    A host answers the requests of a session from a file tree in memory, and
    keeps what the session writes.  Whoever reads or writes a node does so
    through an opening, which knows how far it got.  The clock of a host stands
    still, so time only passes where a tool takes some.  How tools run is up to a
    launcher, any of which will do for what is known of runs. -/

namespace GuardedCnf

/-- A way to a node for readers and writers. -/
structure Opening where
  node : NodeId
  /-- Where the next byte is read or written. -/
  offset : Nat
  /-- Whether bytes are always written at the end. -/
  appends : Bool

/-- What a path is opened for. -/
inductive OpenMode where
  | read
  /-- For writing, without the bytes there are. -/
  | create
  /-- For writing after the bytes there are. -/
  | append
  /-- For reading, and for writing over the bytes there are. -/
  | update

/-- The surroundings of a session. -/
structure Host where
  tree : Tree
  /-- The openings so far; the first three are the streams of the session. -/
  openings : Array Opening
  /-- How much time is left, in microseconds. -/
  limit : Option Int
  /-- The instant at which the clock stands. -/
  date : Int

namespace Host

/-- The host of a working folder with files, at the beginning of 2026. -/
def ofFiles (programs : List String) (files : List (String × List UInt8)) : Host :=
  let tree := (Tree.standard programs)
  let addFile (t : Tree) (f : String × List UInt8) : Tree :=
    (t.insert Tree.working (Octets.ofText f.1) (.file ⟨f.2.toArray⟩ false)).2
  let tree := files.foldl addFile tree
  let (input, tree) := tree.push (.device .null)
  let (output, tree) := tree.push (.pipe .empty 0)
  let (errors, tree) := tree.push (.pipe .empty 0)
  ⟨tree, #[⟨input, 0, false⟩, ⟨output, 0, true⟩, ⟨errors, 0, true⟩], none, 1767225600000⟩

/-! ## Openings. -/

/-- The opening with a number. -/
def opening (h : Host) (number : Nat) : Opening := h.openings.getD number ⟨0, 0, false⟩

/-- The node behind an opening. -/
def nodeAt (h : Host) (number : Nat) : Node := h.tree.node (h.opening number).node

/-- Whether a node is a device that is not there. -/
def lacks (h : Host) (id : NodeId) : Bool := h.tree.node id matches .device .terminal

/-- Opens a node. -/
def openNode (h : Host) (id : NodeId) (appends : Bool) : Nat × Host :=
  (h.openings.size, { h with openings := h.openings.push ⟨id, 0, appends⟩ })

/-- Removes the bytes of a file. -/
def clear (h : Host) (id : NodeId) : Host :=
  { h with tree := h.tree.modify id fun
      | .file _ executable => .file .empty executable
      | n => n }

/-- Opens what a path from a folder leads to, given the nodes of the streams. -/
def openPath (h : Host) (streams : Nat → Option NodeId) (folder : NodeId) (path : String)
    (mode : OpenMode) : Except FileError (Nat × Host) := do
  match mode with
  | .read =>
      match ← h.tree.find streams true folder path with
      | .node id => if h.lacks id then throw .noDevice else return h.openNode id false
      | .free .. => throw .notFound
  | _ =>
      match ← h.tree.findTarget streams folder path with
      | .node id =>
          if h.tree.isFolder id then throw .isDirectory
          if h.lacks id then throw .noDevice
          let h := match mode with
            | .create => h.clear id
            | _ => h
          return h.openNode id (mode matches .append)
      | .free folder name =>
          let (id, tree) := h.tree.insert folder name (.file .empty false)
          return { h with tree := tree }.openNode id (mode matches .append)

/-- How many bytes are read of what has no end, if there is no maximum. -/
def endless : Nat := 1048576

/-- Reads the bytes that are left, at most so many if there is a maximum. -/
def read (h : Host) (number : Nat) (most : Option Nat) : Except FileError ByteArray × Host :=
  let opening := h.opening number
  let upTo (size from_ : Nat) : Nat := min size (from_ + most.getD size)
  match h.tree.node opening.node with
  | .file bytes _ =>
      let stop := upTo bytes.size opening.offset
      (.ok (bytes.extract opening.offset stop),
        { h with openings :=
            h.openings.setIfInBounds number { opening with offset := max opening.offset stop } })
  | .pipe bytes taken =>
      let stop := upTo bytes.size taken
      (.ok (bytes.extract taken stop),
        { h with tree := h.tree.modify opening.node fun
          | .pipe bytes _ => .pipe bytes stop
          | n => n })
  | .device .null => (.ok .empty, h)
  | .device _ => (.ok ⟨Array.replicate (most.getD endless) 0⟩, h)
  | .folder .. => (.error .isDirectory, h)
  | _ => (.ok .empty, h)

/-- Bytes with others written over them from an offset. -/
def splice (bytes : ByteArray) (offset : Nat) (new : ByteArray) : ByteArray :=
  if offset = bytes.size then bytes ++ new
  else
    let before := bytes.extract 0 offset
    let gap : ByteArray := ⟨Array.replicate (offset - bytes.size) 0⟩
    before ++ gap ++ new ++ bytes.extract (offset + new.size) bytes.size

/-- Writes bytes. -/
def write (h : Host) (number : Nat) (new : ByteArray) : Except FileError Unit × Host :=
  let opening := h.opening number
  match h.tree.node opening.node with
  | .file bytes _ =>
      let offset := if opening.appends then bytes.size else opening.offset
      let moved : Opening := { opening with offset := offset + new.size }
      (.ok (), { h with
        openings := h.openings.setIfInBounds number moved
        tree := h.tree.modify opening.node fun
          | .file bytes executable => .file (splice bytes offset new) executable
          | n => n })
  | .pipe .. =>
      (.ok (), { h with tree := h.tree.modify opening.node fun
        | .pipe bytes taken => .pipe (bytes ++ new) taken
        | n => n })
  | .device .full => (if new.isEmpty then .ok () else .error .noSpace, h)
  | _ => (.ok (), h)

/-- The bytes that were written to a pipe. -/
def written (h : Host) (number : Nat) : ByteArray :=
  match h.nodeAt number with
  | .pipe bytes _ => bytes
  | _ => .empty

/-! ## Sessions. -/

/-- The nodes of the streams of the session. -/
def streams (h : Host) (number : Nat) : Option NodeId :=
  if number < 3 then some (h.opening number).node else none

/-- Opens what a path of the session leads to. -/
def openFor (h : Host) (path : String) (mode : OpenMode) : Except FileError (Nat × Host) :=
  if path.toList.contains (Char.ofNat 0) then .error .zeroInName
  else h.openPath h.streams Tree.working (Octets.ofText path) mode

/-- A way to run tools, given the path of the file that a tool gets. -/
abbrev Launcher := Launch → String → StateM Host LaunchResult

/-- Runs a tool on a file with a name, which is there as long as the tool runs,
    and longer if it is kept or the tool does not end. -/
def launch (launcher : Launcher) (name : String) (l : Launch) : StateM Host LaunchResult := do
  modify fun h =>
    { h with tree := (h.tree.insert Tree.temporary name (.file l.input.toUTF8 false)).2 }
  let result ← launcher l (Tree.temporaryPath ++ "/" ++ name)
  let kept := match result with
    | .outOfTime => true
    | _ => l.keepInput
  if !kept then modify fun h => { h with tree := h.tree.unbind Tree.temporary name }
  return result

/-- Writes a text to an opening of the session. -/
def writeText (number : Nat) (text : String) : StateM Host (Except FileError Unit) :=
  fun h => h.write number text.toUTF8

/-- The answer to a request. -/
def answer (launcher : Launcher) (name : String) : (r : Request) → StateM Host r.Answer
  | .load path => fun h =>
      match h.openFor path .read with
      | .error e => (.error e, h)
      | .ok (number, h) =>
          let (bytes, h) := h.read number none
          (.ok (bytes.map (·.toList)), h)
  | .create path => fun h =>
      match h.openFor path .create with
      | .error e => (.error e, h)
      | .ok (number, h) => (.ok ⟨number⟩, h)
  | .write file text => writeText file.number text
  | .print text => discard <| writeText 1 text
  | .report text => discard <| writeText 2 text
  | .launch l => launch launcher name l
  | .observe _ => pure ()
  | .clock => pure 0
  | .date => return (← get).date
  | .limit ms => modify fun h => { h with limit := some (1000 * ms) }
  | .expired => pure false

/-- Runs a session on a host, where the files for tools have a name. -/
def run {α : Type} (launcher : Launcher) (name : String) (s : Session α) (h : Host) : α × Host :=
  StateT.run (s.runWith (answer launcher name)) h

/-! ## Results. -/

/-- What was written to the standard output. -/
def output (h : Host) : String := Text.decodeReplacing (h.written 1).toList

/-- What was written to the standard error output. -/
def errors (h : Host) : String := Text.decodeReplacing (h.written 2).toList

/-- How many temporary files there are. -/
def temporaryCount (h : Host) : Nat := (h.tree.entries Tree.temporary).length

/-- The files in the working folder that are not as they were; links count as the
    files that they lead to. -/
def changedFiles (h : Host) (before : List (String × List UInt8)) :
    List (String × List UInt8) :=
  let files := (h.tree.entries Tree.working).filterMap fun (name, _) =>
    match h.tree.find h.streams true Tree.working name with
    | .ok (.node id) =>
        match h.tree.node id with
        | .file bytes _ => some (Octets.toText name, bytes.toList)
        | _ => none
    | _ => none
  files.filter fun (name, bytes) => before.lookup name != some bytes

end Host

end GuardedCnf
