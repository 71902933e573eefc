import GuardedCnf.Script.Printing
import GuardedCnf.Utility.Date
import GuardedCnf.Utility.Files
/-! # Lists of files — what files are and how large

    A node has a kind, a mode, a size and links to it.  All belong to the same
    user, and were changed when the host began. -/

namespace GuardedCnf.Utility

open Script

/-! ## Nodes. -/

/-- The kind of a node and what users may do with it. -/
def modeText : Node → String
  | .folder .. => "drwxr-xr-x"
  | .file _ executable => if executable then "-rwxr-xr-x" else "-rw-r--r--"
  | .program _ => "-rwxr-xr-x"
  | .link _ => "lrwxrwxrwx"
  | .device _ => "crw-rw-rw-"
  | .pipe .. => "prw-------"
  | .stream _ => "lrwx------"

/-- What users may do with a node, in octal digits. -/
def modeDigits : Node → String
  | .folder .. | .program _ | .file _ true => "755"
  | .file _ false => "644"
  | .link _ => "777"
  | .device _ => "666"
  | .pipe .. => "600"
  | .stream _ => "700"

/-- What a node is called. -/
def kindText : Node → String
  | .folder .. => "directory"
  | .file bytes _ => if bytes.isEmpty then "regular empty file" else "regular file"
  | .program _ => "regular file"
  | .link _ | .stream _ => "symbolic link"
  | .device _ => "character special file"
  | .pipe .. => "fifo"

/-- The size of a node in bytes. -/
def sizeOf (n : Node) : Nat :=
  match n with
  | .file bytes _ => bytes.size
  | .folder .. => 4096
  | .link path => path.length
  | .program _ => 100000
  | .stream _ => 64
  | _ => 0

/-- How many kilobytes a node takes. -/
def blocksOf (n : Node) : Nat :=
  match n with
  | .file .. | .folder .. | .program _ => 4 * ((sizeOf n + 4095) / 4096)
  | _ => 0

/-- How many names a node has. -/
def linksOf (t : Tree) (id : NodeId) : Nat :=
  match t.node id with
  | .folder _ entries => 2 + (entries.filter fun e => t.isFolder e.2).length
  | _ =>
      let names := t.nodes.foldl (fun n node => match node with
        | .folder _ entries => n + (entries.filter (·.2 = id)).length
        | _ => n) 0
      max names 1

/-! ## Lists. -/

/-- The line of a node in a long list, for columns of some widths. -/
def longLine (t : Tree) (date : String) (linksWidth sizeWidth : Nat) (name : String) (id : NodeId) :
    String :=
  let n := t.node id
  let shown := match n with
    | .link path => name ++ " -> " ++ path
    | _ => name
  modeText n ++ " " ++ aligned linksWidth (linksOf t id) ++ " root root "
    ++ aligned sizeWidth (sizeOf n) ++ " " ++ date ++ " " ++ shown

/-- The mark of the kind of a node after its name. -/
def kindMark (n : Node) (all : Bool) : String :=
  match n with
  | .folder .. => "/"
  | .file _ true | .program _ => if all then "*" else ""
  | .link _ => if all then "@" else ""
  | .pipe .. => if all then "|" else ""
  | _ => ""

/-- The lines of a list of names. -/
def listLines (t : Tree) (date : String) (a : Args) (entries : List (String × NodeId)) : List String :=
  let larger (x y : String × NodeId) : Bool :=
    let (m, n) := (sizeOf (t.node x.2), sizeOf (t.node y.2))
    n < m || (m = n && x.1 ≤ y.1)
  let sorted := if a.has 'U' || a.has 'f' then entries
    else entries.mergeSort (if a.has 'S' then larger else fun x y => x.1 ≤ y.1)
  let sorted := if a.has 'r' then sorted.reverse else sorted
  let width (f : NodeId → Nat) : Nat :=
    (sorted.map fun e => (toString (f e.2)).length).foldl max 1
  let linksWidth := width (linksOf t)
  let sizeWidth := width fun id => sizeOf (t.node id)
  sorted.map fun (name, id) =>
    let mark := if a.has 'F' then kindMark (t.node id) true
      else if a.has 'p' then kindMark (t.node id) false else ""
    if a.has 'l' then longLine t date linksWidth sizeWidth name id ++ mark else name ++ mark

/-- The entries of a folder that are listed. -/
def listedEntries (t : Tree) (a : Args) (id : NodeId) : List (String × NodeId) :=
  let parent := match t.node id with
    | .folder parent _ => parent
    | _ => id
  let entries := t.entries id
  if a.has 'a' || a.has 'f' then (".", id) :: ("..", parent) :: entries
  else if a.has 'A' then entries
  else entries.filter (!·.1.startsWith ".")

/-- The list of a folder. -/
def folderList (t : Tree) (date : String) (a : Args) (id : NodeId) : String :=
  let entries := listedEntries t a id
  let total := entries.foldl (fun n e => n + blocksOf (t.node e.2)) 0
  (if a.has 'l' then "total " ++ toString total ++ "\n" else "") ++ unlines (listLines t date a entries)

/-- A folder and the folders below it, with their paths, in the order of a list. -/
def foldersBelow (t : Tree) (a : Args) : Nat → String → NodeId → List (String × NodeId)
  | 0, _, _ => []
  | fuel + 1, path, id =>
      let inner := (listedEntries t a id).filter fun e => t.isFolder e.2 && e.1 != "." && e.1 != ".."
      let sorted := inner.mergeSort fun x y => x.1 ≤ y.1
      (path, id) :: (if a.has 'r' then sorted.reverse else sorted).flatMap fun (name, id) =>
        foldersBelow t a fuel (inFolder path name) id

/-- Lists files, and what is in folders. -/
def ls : Utility := fun args =>
  withArgs "ls" 2 (.of "1aAdFRrtlhisSUCxqbpQNfngoGm" "" [("all", 'a'), ("almost-all", 'A'), ("directory", 'd'),
    ("reverse", 'r'), ("recursive", 'R'), ("human-readable", 'h'), ("color", 'q')]) args fun a => do
    let operands := if a.operands.isEmpty then ["."] else a.operands
    let mut status := 0
    let mut files := #[]
    let mut folders := #[]
    for path in operands.mergeSort fun x y => x ≤ y do
      let isLong := a.has 'l' || a.has 'd' || a.has 'F'
      match ← nodeOf (!isLong || path.endsWith "/") path with
      | .error e => do
          warn "ls" ("cannot access " ++ inQuotes path ++ ": " ++ cause e)
          status := 2
      | .ok id =>
          if (← host).tree.isFolder id && !a.has 'd' then folders := folders.push (path, id)
          else files := files.push (path, id)
    let h ← host
    let t := h.tree
    let seconds := h.date.fdiv 1000
    let date := (Moment.ofSeconds seconds).filled seconds 0 "%b %e %H:%M".toList
    let ordered := if a.has 'r' then folders.toList.reverse else folders.toList
    let all := if a.has 'R' then ordered.flatMap fun (path, id) => foldersBelow t a 1000 path id
      else ordered
    let titled := 1 < operands.length || a.has 'R'
    let blocks := all.map fun (path, id) =>
      (if titled then path ++ ":\n" else "") ++ folderList t date a id
    let fileBlock := if files.isEmpty then [] else [unlines (listLines t date a files.toList)]
    output "ls" ("\n".intercalate (fileBlock ++ blocks)) status

/-! ## Facts. -/

/-- The fact about a node that a letter of a format stands for. -/
def factOf (t : Tree) (seconds : Int) (path : String) (id : NodeId) (letter : Char) : Option String :=
  let n := t.node id
  match letter with
  | 'n' => some path
  | 'N' => some (inQuotes path)
  | 's' => some (toString (sizeOf n))
  | 'a' => some (modeDigits n)
  | 'A' => some (modeText n)
  | 'F' => some (kindText n)
  | 'h' => some (toString (linksOf t id))
  | 'i' => some (toString id)
  | 'u' | 'g' => some "0"
  | 'U' | 'G' => some "root"
  | 'b' => some (toString (2 * blocksOf n))
  | 'B' => some "512"
  | 'X' | 'Y' | 'Z' => some (toString seconds)
  | '%' => some "%"
  | _ => none

/-- Fills a format with facts about a node. -/
def factsIn (t : Tree) (seconds : Int) (path : String) (id : NodeId) : List Char → String
  | '%' :: c :: cs =>
      (factOf t seconds path id c).getD (String.ofList ['?']) ++ factsIn t seconds path id cs
  | c :: cs => String.singleton c ++ factsIn t seconds path id cs
  | [] => ""

/-- Shows facts about files in a format. -/
def stat : Utility := fun args =>
  withArgs "stat" 1 (.of "Lft" "cp" [("format", 'c'), ("printf", 'p'), ("dereference", 'L')]) args fun a => do
    if a.operands.isEmpty then return ← missingOperand "stat" 1
    let mut status := 0
    for path in a.operands do
      match ← nodeOf (a.has 'L') path with
      | .error e => do
          warn "stat" ("cannot statx " ++ inQuotes path ++ ": " ++ cause e)
          status := 1
      | .ok id => do
          let h ← host
          let text (format : String) : String :=
            factsIn h.tree (h.date.fdiv 1000) path id format.toList
          let shown := match a.value? 'p', a.value? 'c' with
            | some format, _ => text (Printing.unescaped format).1
            | none, some format => text format ++ "\n"
            | none, none => text "  File: %n\n  Size: %s\t\tBlocks: %b\tIO Block: 4096   %F\n"
          status := max status (← output "stat" shown 0)
    return status

end GuardedCnf.Utility
