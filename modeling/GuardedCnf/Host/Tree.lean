import GuardedCnf.FileError
import GuardedCnf.Path
/-! # File trees — what paths lead to

    A tree is a table of nodes.  A folder holds names of other nodes, so a file
    that loses its name, or gets another one, stays the same node.  A path is
    followed name by name; only a folder can be followed further, even by an
    empty name, and names have a bounded size. -/

namespace GuardedCnf

/-- The place of a node in the table. -/
abbrev NodeId := Nat

/-- A file without content of its own. -/
inductive Device where
  /-- Has no bytes and takes all. -/
  | null
  /-- Has zeros and takes all. -/
  | zero
  /-- Has zeros and takes none. -/
  | full
  /-- A terminal that is not there. -/
  | terminal

/-- A node of a tree. -/
inductive Node where
  | folder (parent : NodeId) (entries : List (String × NodeId))
  | file (bytes : ByteArray) (executable : Bool)
  /-- A program of the system, by its name. -/
  | program (name : String)
  /-- Leads to where a path leads. -/
  | link (path : String)
  | device (d : Device)
  /-- Bytes on their way from writers to readers, and how many are read. -/
  | pipe (bytes : ByteArray) (taken : Nat)
  /-- Leads to what a stream of the process is open on. -/
  | stream (number : Nat)

/-- The nodes, by their places.  The root is at place 0. -/
structure Tree where
  nodes : Array Node

/-- Where a path ends. -/
inductive Found where
  | node (id : NodeId)
  /-- Nothing has this name in a folder. -/
  | free (folder : NodeId) (name : String)

namespace Tree

/-- The largest size of a name, in bytes. -/
def maxName : Nat := 255

/-- The largest size of a path, in bytes. -/
def maxPath : Nat := 4095

/-- How many links a path may follow. -/
def maxLinks : Nat := 40

/-- A node; places outside of the table hold nothing. -/
def node (t : Tree) (id : NodeId) : Node := t.nodes.getD id (.device .null)

/-- Changes a node. -/
def modify (t : Tree) (id : NodeId) (f : Node → Node) : Tree := ⟨t.nodes.modify id f⟩

/-- Adds a node without a name. -/
def push (t : Tree) (n : Node) : NodeId × Tree := (t.nodes.size, ⟨t.nodes.push n⟩)

/-- The names in a folder. -/
def entries (t : Tree) (id : NodeId) : List (String × NodeId) :=
  match t.node id with
  | .folder _ entries => entries
  | _ => []

/-- Whether a node is a folder. -/
def isFolder (t : Tree) (id : NodeId) : Bool :=
  match t.node id with
  | .folder .. => true
  | _ => false

/-- Names a node in a folder. -/
def bind (t : Tree) (folder : NodeId) (name : String) (id : NodeId) : Tree :=
  t.modify folder fun
    | .folder parent entries => .folder parent (entries.filter (·.1 != name) ++ [(name, id)])
    | n => n

/-- Removes a name from a folder. -/
def unbind (t : Tree) (folder : NodeId) (name : String) : Tree :=
  t.modify folder fun
    | .folder parent entries => .folder parent (entries.filter (·.1 != name))
    | n => n

/-- Adds a node with a name. -/
def insert (t : Tree) (folder : NodeId) (name : String) (n : Node) : NodeId × Tree :=
  let (id, t) := t.push n
  (id, t.bind folder name id)

/-! ## Paths. -/

/-- The names of a path, which must not be empty or too long. -/
def names (path : String) : Except FileError (List String) :=
  if path.isEmpty then .error .notFound
  else if maxPath < path.length then .error .nameTooLong
  else .ok ((Path.split '/' path.toList).map String.ofList)

/-- Follows names from a node.  A link at the end is followed if `through`;
    `streams` gives the nodes of open streams. -/
def follow (t : Tree) (streams : Nat → Option NodeId) (through : Bool) :
    Nat → Nat → NodeId → List String → Except FileError Found
  | 0, _, _, _ => .error .tooManyLinks
  | _, _, id, [] => .ok (.node id)
  | fuel + 1, links, id, name :: rest =>
      match t.node id with
      | .folder parent entries =>
          if name = "" || name = "." then t.follow streams through fuel links id rest
          else if name = ".." then t.follow streams through fuel links parent rest
          else if maxName < name.length then .error .nameTooLong
          else match entries.lookup name with
            | none => if rest.isEmpty then .ok (.free id name) else .error .notFound
            | some next =>
                if rest.isEmpty && !through then .ok (.node next)
                else match t.node next with
                  | .link path =>
                      match links, names path with
                      | 0, _ => .error .tooManyLinks
                      | _, .error e => .error e
                      | links + 1, .ok ("" :: more) =>
                          t.follow streams through fuel links 0 (more ++ rest)
                      | links + 1, .ok more =>
                          t.follow streams through fuel links id (more ++ rest)
                  | .stream number =>
                      match streams number with
                      | some target => t.follow streams through fuel links target rest
                      | none => .error .notFound
                  | _ => t.follow streams through fuel links next rest
      | _ => .error .notDirectory

/-- Where a path leads from a folder. -/
def find (t : Tree) (streams : Nat → Option NodeId) (through : Bool) (folder : NodeId)
    (path : String) : Except FileError Found := do
  match ← names path with
  | "" :: rest => t.follow streams through (maxPath * maxLinks) maxLinks 0 rest
  | parts => t.follow streams through (maxPath * maxLinks) maxLinks folder parts

/-- Where a path creates a file.  A name at its end that is followed by a slash
    can only be that of a folder. -/
def findTarget (t : Tree) (streams : Nat → Option NodeId) (folder : NodeId) (path : String) :
    Except FileError Found := do
  let parts ← names path
  match parts.reverse, parts.reverse.dropWhile (· = "") with
  | "" :: _, name :: before =>
      if name = "." || name = ".." then t.find streams true folder path
      else do
        if !before.isEmpty then
          discard <| t.find streams true folder ("/".intercalate before.reverse ++ "/")
        throw .isDirectory
  | _, _ => t.find streams true folder path

end Tree

end GuardedCnf
