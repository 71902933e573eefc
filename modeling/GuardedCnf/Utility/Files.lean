import GuardedCnf.Script.Builtin
import GuardedCnf.Utility.Basic
/-! # Programs on files — names, copies and removals -/

namespace GuardedCnf.Utility

open Script

/-! ## Paths. -/

/-- A path without the slashes at its end. -/
def trimSlashes (path : String) : String :=
  let trimmed := path.toList.reverse.dropWhile (· = '/')
  if trimmed.isEmpty && !path.isEmpty then "/" else String.ofList trimmed.reverse

/-- The part of a path before the last name, and that name. -/
def splitPath (path : String) : String × String :=
  let cs := (trimSlashes path).toList.reverse
  let name := cs.takeWhile (· != '/')
  let before := trimSlashes (String.ofList (cs.drop name.length).reverse)
  (if name.length = cs.length then "." else before, String.ofList name.reverse)

/-- The last name of a path. -/
def baseName (path : String) : String :=
  let name := (splitPath path).2
  if name.isEmpty && !path.isEmpty then "/" else name

/-- The node of a path, where a link at the end is followed if `through`. -/
def nodeOf (through : Bool) (path : String) : Step (Except FileError NodeId) := do
  match ← find through path with
  | .ok (.node id) => return .ok id
  | .ok (.free ..) => return .error .notFound
  | .error e => return .error e

/-- Whether a path leads to a folder. -/
def isFolderAt (path : String) : Step Bool := do
  match ← nodeOf true path with
  | .ok id => return (← host).tree.isFolder id
  | .error _ => return false

/-- The folder and the name that a path ends with. -/
def entryOf (path : String) : Step (Except FileError (NodeId × String)) := do
  let (folder, name) := splitPath path
  match ← nodeOf true folder with
  | .ok id =>
      if (← host).tree.isFolder id then return .ok (id, name) else return .error .notDirectory
  | .error e => return .error e

/-- A path in a folder. -/
def inFolder (folder name : String) : String :=
  if folder.endsWith "/" then folder ++ name else folder ++ "/" ++ name

/-! ## Making and removing. -/

/-- Makes an empty file unless there is one. -/
def touch : Utility := fun args =>
  withArgs "touch" 1 (.of "acfmh" "drt" []) args fun a => do
    if a.operands.isEmpty then
      warn "touch" "missing file operand"
      suggestHelp "touch"
      return 1
    let mut status := 0
    for path in a.operands do
      match ← nodeOf true path with
      | .ok _ => pure ()
      | .error _ =>
          if !a.has 'c' then
            match ← openPath path .append with
            | .ok _ => pure ()
            | .error e => do
                warn "touch" ("cannot touch " ++ inQuotes path ++ ": " ++ cause e)
                status := 1
    return status

/-- Makes a folder. -/
def makeFolder (path : String) : Step (Except FileError Unit) := do
  match ← entryOf path with
  | .error e => return .error e
  | .ok (folder, name) => do
      if ((← host).tree.entries folder).any (·.1 = name) || name = "." || name = ".." || name.isEmpty then
        return .error .exists
      else
        onTree fun t => (t.insert folder name (.folder folder [])).2
        return .ok ()

/-- Makes folders, with the ones above them if wanted. -/
def mkdir : Utility := fun args =>
  withArgs "mkdir" 1 (.of "pv" "m" [("parents", 'p')]) args fun a => do
    if a.operands.isEmpty then return ← missingOperand "mkdir" 1
    let mut status := 0
    for path in a.operands do
      if a.has 'p' then
        let names := (Path.split '/' path.toList).map String.ofList
        let mut sofar := ""
        let mut failed := false
        for (name, i) in names.zipIdx do
          sofar := if i = 0 then name else sofar ++ "/" ++ name
          if !failed && !name.isEmpty && !(← isFolderAt sofar) then
            match ← makeFolder sofar with
            | .ok () => pure ()
            | .error e => do
                warn "mkdir" ("cannot create directory " ++ inQuotes sofar ++ ": " ++ cause e)
                status := 1
                failed := true
      else
        match ← makeFolder path with
        | .ok () =>
            if a.has 'v' then
              discard <| output "mkdir" ("mkdir: created directory " ++ inQuotes path ++ "\n") 0
        | .error e => do
            warn "mkdir" ("cannot create directory " ++ inQuotes path ++ ": " ++ cause e)
            status := 1
    return status

/-- Removes folders that are empty. -/
def rmdir : Utility := fun args =>
  withArgs "rmdir" 1 (.of "pv" "" []) args fun a => do
    if a.operands.isEmpty then return ← missingOperand "rmdir" 1
    let mut status := 0
    let above (path : String) : List String :=
      let names := (Path.split '/' path.toList).map String.ofList
      ((List.range names.length).map fun n => "/".intercalate (names.take (n + 1))).reverse
    for path in (if a.has 'p' then a.operands.flatMap above else a.operands) do
      let problem : Option FileError ← match ← nodeOf false path, ← entryOf path with
        | .error e, _ | _, .error e => pure (some e)
        | .ok id, .ok (folder, name) => do
            let t := (← host).tree
            if !t.isFolder id then pure (some .notDirectory)
            else if !(t.entries id).isEmpty then pure (some .notEmpty)
            else do
              onTree fun t => t.unbind folder name
              pure none
      match problem with
      | none => pure ()
      | some e => do
          warn "rmdir" ("failed to remove " ++ inQuotes path ++ ": " ++ cause e)
          status := 1
    return status

/-- Removes names. -/
def rm : Utility := fun args =>
  withArgs "rm" 1 (.of "fiIrRdv" "" [("force", 'f'), ("recursive", 'r')]) args fun a => do
    if a.operands.isEmpty && !a.has 'f' then return ← missingOperand "rm" 1
    let mut status := 0
    for path in a.operands do
      match ← nodeOf false path, ← entryOf path with
      | .error .notFound, _ =>
          if !a.has 'f' then
            warn "rm" ("cannot remove " ++ inQuotes path ++ ": " ++ cause .notFound)
            status := 1
      | .error e, _ | _, .error e => do
          warn "rm" ("cannot remove " ++ inQuotes path ++ ": " ++ cause e)
          status := 1
      | .ok id, .ok (folder, name) => do
          let t := (← host).tree
          if t.isFolder id && !a.has 'r' && !a.has 'R' && !(a.has 'd' && (t.entries id).isEmpty) then
            warn "rm" ("cannot remove " ++ inQuotes path ++ ": " ++ cause .isDirectory)
            status := 1
          else if name = "." || name = ".." then
            warn "rm" ("refusing to remove '.' or '..' directory: skipping " ++ inQuotes path)
            status := 1
          else do
            onTree fun t => t.unbind folder name
            if a.has 'v' then
              let kind := if t.isFolder id then "removed directory " else "removed "
              discard <| output "rm" (kind ++ inQuotes path ++ "\n") 0
    return status

/-- Makes a name for a temporary file, and the file. -/
def mktemp : Utility := fun args =>
  withArgs "mktemp" 1 (.of "duqt" "p" [("directory", 'd'), ("dry-run", 'u'), ("tmpdir", 'p')]) args fun a => do
    let s ← get
    let template := a.operands.headD "tmp.XXXXXXXXXX"
    let cs := template.toList.reverse
    let suffix := cs.takeWhile (· != 'X')
    let marks := (cs.drop suffix.length).takeWhile (· = 'X')
    if marks.length < 3 then
      warn "mktemp" ("too few X's in template " ++ inQuotes template)
      return 1
    let n := s.machine.names + 1
    modify fun s => { s with machine.names := n }
    let digits := toString n
    let name := String.ofList (cs.drop (suffix.length + marks.length)).reverse
      ++ String.ofList (List.replicate (marks.length - digits.length) 'a') ++ digits
      ++ String.ofList suffix.reverse
    let folder := (a.value? 'p').getD ((s.value? "TMPDIR").getD Tree.temporaryPath)
    let path := if a.operands.isEmpty || a.has 'p' || a.has 't' then inFolder folder name else name
    let made : Except FileError Unit ←
      if a.has 'u' then pure (.ok ())
      else if a.has 'd' then makeFolder path
      else do
        let r ← openPath path .append
        pure (r.map fun _ => ())
    match made with
    | .ok () => output "mktemp" (path ++ "\n") 0
    | .error e => do
        warn "mktemp" ("failed to create " ++ (if a.has 'd' then "directory" else "file")
          ++ " via template " ++ inQuotes (if path = name then template else inFolder folder template) ++ ": " ++ cause e)
        return 1

/-! ## Copying and moving. -/

/-- Where an operand goes: into the target if that is a folder. -/
def destination (target source : String) : Step String := do
  return if ← isFolderAt target then inFolder target (baseName source) else target

/-- Copies the content of a node to a path. -/
def copyTo : Nat → NodeId → String → Step (Except FileError Unit)
  | 0, _, _ => return .ok ()
  | fuel + 1, id, target => do
      match (← host).tree.node id with
      | .folder _ entries => do
          if !(← isFolderAt target) then
            match ← makeFolder target with
            | .ok () => pure ()
            | .error e => return .error e
          for (name, inner) in entries do
            discard <| copyTo fuel inner (inFolder target name)
          return .ok ()
      | node => do
          match ← openPath target .create with
          | .error e => return .error e
          | .ok number => do
              match node with
              | .file bytes executable => do
                  onTree fun t => match t.node ((t.nodes.size) - 1) with
                    | .file old _ =>
                        if old.isEmpty && executable then t.modify (t.nodes.size - 1) fun _ => .file old true else t
                    | _ => t
                  writeOpening number (Octets.ofBytes bytes)
              | _ => do
                  let h ← host
                  let (source, h) := h.openNode id false
                  let (bytes, h) := h.read source none
                  modify fun s => { s with machine.host := h }
                  writeOpening number (Octets.ofBytes (bytes.toOption.getD .empty))

/-- The operands of a program that have a target, with a message if there is
    none. -/
def withTarget (name : String) (a : Args) (f : List String → String → Step Nat) : Step Nat := do
  let sources := match a.value? 't' with
    | some _ => a.operands
    | none => a.operands.dropLast
  let help : Step Nat := do
    suggestHelp name
    return 1
  match a.operands, (a.value? 't').or a.operands.getLast? with
  | [], _ | _, none => do
      warn name "missing file operand"
      help
  | first :: _, some target => do
      if sources.isEmpty then
        warn name ("missing destination file operand after " ++ inQuotes first)
        help
      else if 1 < sources.length && !(← isFolderAt target) then
        match ← nodeOf true target with
        | .ok _ => warn name ("target " ++ inQuotes target ++ ": Not a directory")
        | .error e => warn name ("target " ++ inQuotes target ++ ": " ++ cause e)
        return 1
      else f sources target

/-- Tells where something went. -/
def tellPair (name done source target : String) : Step Unit :=
  discard <| output name (done ++ inQuotes source ++ " -> " ++ inQuotes target ++ "\n") 0

/-- Copies files. -/
def cp : Utility := fun args =>
  withArgs "cp" 1 (.of "rRpafdnuvLP" "t" [("recursive", 'r'), ("archive", 'a'), ("force", 'f')]) args fun a =>
    withTarget "cp" a fun sources target => do
      let mut status := 0
      for source in sources do
        match ← nodeOf true source with
        | .error e => do
            warn "cp" ("cannot stat " ++ inQuotes source ++ ": " ++ cause e)
            status := 1
        | .ok id => do
            let path ← destination target source
            let t := (← host).tree
            let there ← nodeOf true path
            if t.isFolder id && !a.has 'r' && !a.has 'R' && !a.has 'a' then
              warn "cp" ("-r not specified; omitting directory " ++ inQuotes source)
              status := 1
            else if there.toOption = some id then
              warn "cp" (inQuotes source ++ " and " ++ inQuotes path ++ " are the same file")
              status := 1
            else
              match ← copyTo 100 id path with
              | .ok () => if a.has 'v' then tellPair "cp" "" source path
              | .error e => do
                  warn "cp" ("cannot create " ++ (if t.isFolder id then "directory " else "regular file ")
                    ++ inQuotes path ++ ": " ++ cause e)
                  status := 1
      return status

/-- The number of bytes that a text asks for, perhaps in larger units. -/
def byteCount? (text : String) : Option Nat :=
  let ds := text.toList.takeWhile Char.isDigit
  let unit : Option Nat := match text.toList.drop ds.length with
    | [] | ['c'] => some 1
    | ['w'] => some 2
    | ['b'] => some 512
    | ['k'] | ['K'] => some 1024
    | ['M'] => some 1048576
    | ['G'] => some 1073741824
    | ['k', 'B'] | ['K', 'B'] => some 1000
    | ['M', 'B'] => some 1000000
    | _ => none
  match natural? (String.ofList ds), unit with
  | some n, some u => some (n * u)
  | _, _ => none

/-- Copies blocks of bytes. -/
def dd : Utility := fun args => do
  let settings := args.map fun arg =>
    let name := arg.toList.takeWhile (· != '=')
    (String.ofList name, String.ofList (arg.toList.drop (name.length + 1)))
  let known := ["if", "of", "bs", "ibs", "obs", "count", "skip", "seek", "status", "conv", "iflag", "oflag"]
  match args.find? fun arg => !known.any fun name => arg.startsWith (name ++ "=") with
  | some arg => do
      warn "dd" ("unrecognized operand " ++ inQuotes arg)
      suggestHelp "dd"
      return 1
  | none => do
      let numbers := settings.filter fun (name, _) => ["bs", "ibs", "obs", "count", "skip", "seek"].contains name
      match numbers.find? fun (_, value) => (byteCount? value).isNone with
      | some (_, value) => do
          warn "dd" ("invalid number: " ++ inQuotes value)
          return 1
      | none => do
          let number (name : String) : Option Nat := (settings.lookup name).bind byteCount?
          let size := max 1 (((number "bs").or (number "ibs")).getD 512)
          let skipped := (number "skip").getD 0 * size
          let opened : Except FileError Nat ← match settings.lookup "if" with
            | some path => openPath path .read
            | none => pure (match (← get).opening? 0 with
              | some stream => .ok stream
              | none => .error (.other "Bad file descriptor"))
          match opened with
          | .error e => do
              warn "dd" ("failed to open " ++ inQuotes ((settings.lookup "if").getD "") ++ ": " ++ cause e)
              return 1
          | .ok source => do
              let most := (number "count").map fun n => n * size + skipped
              let bytes ← readOpening source most
              let text := String.ofList ((bytes.toOption.getD "").toList.drop skipped)
              let failed (e : FileError) : Step Nat := do
                warn "dd" ("failed to open " ++ inQuotes ((settings.lookup "of").getD "") ++ ": " ++ cause e)
                return 1
              let status ← match settings.lookup "of" with
                | none => output "dd" text 0
                | some path => do
                    match ← openPath path .create with
                    | .error e => failed e
                    | .ok number => do
                        discard <| writeOpening number text
                        pure 0
              let records := toString (text.length / size) ++ "+"
                ++ (if text.length % size = 0 then "0" else "1") ++ " records "
              if settings.lookup "status" != some "none" then
                report (records ++ "in\n" ++ records ++ "out\n")
                if settings.lookup "status" != some "noxfer" then
                  report (toString text.length ++ " bytes copied, 0.0001 s, 1.0 MB/s\n")
              return status

/-- Gives files other names. -/
def mv : Utility := fun args =>
  withArgs "mv" 1 (.of "finuvT" "t" [("force", 'f'), ("no-clobber", 'n')]) args fun a =>
    withTarget "mv" a fun sources target => do
      let mut status := 0
      for source in sources do
        match ← nodeOf false source, ← entryOf source with
        | .error e, _ | _, .error e => do
            warn "mv" ("cannot stat " ++ inQuotes source ++ ": " ++ cause e)
            status := 1
        | .ok id, .ok (folder, name) => do
            let path ← destination target source
            match ← entryOf path with
            | .error e => do
                warn "mv" ("cannot move " ++ inQuotes source ++ " to " ++ inQuotes path ++ ": " ++ cause e)
                status := 1
            | .ok (other, newName) => do
                if ((← nodeOf false path).toOption = some id) then
                  warn "mv" (inQuotes source ++ " and " ++ inQuotes path ++ " are the same file")
                  status := 1
                else do
                  onTree fun t =>
                    let t := (t.unbind folder name).bind other newName id
                    t.modify id fun
                      | .folder _ entries => .folder other entries
                      | n => n
                  if a.has 'v' then tellPair "mv" "renamed " source path
      return status

/-- Gives files more names. -/
def ln : Utility := fun args =>
  withArgs "ln" 1 (.of "sfnv" "t" [("symbolic", 's'), ("force", 'f')]) args fun a =>
    withTarget "ln" ⟨a.options, if a.operands.length = 1 then a.operands ++ ["."] else a.operands⟩
      fun sources target => do
      let mut status := 0
      for source in sources do
        let path ← destination target source
        let kind := if a.has 's' then "symbolic link " else "hard link "
        match ← entryOf path with
        | .error e => do
            warn "ln" ("failed to create " ++ kind ++ inQuotes path ++ ": " ++ cause e)
            status := 1
        | .ok (folder, name) => do
            if !a.has 'f' && ((← host).tree.entries folder).any (·.1 = name) then
              warn "ln" ("failed to create " ++ kind ++ inQuotes path ++ ": " ++ cause .exists)
              status := 1
            else if a.has 's' then onTree fun t => (t.insert folder name (.link source)).2
            else
              match ← nodeOf false source with
              | .ok id => onTree fun t => t.bind folder name id
              | .error e => do
                  warn "ln" ("failed to access " ++ inQuotes source ++ ": " ++ cause e)
                  status := 1
      return status

/-- Makes files executable, or not. -/
def chmod : Utility := fun args => do
  let operands := args.filter fun arg => arg != "-R" && arg != "-v" && arg != "-f" && arg != "--"
  match operands with
  | [] => missingOperand "chmod" 1
  | [mode] => do
      warn "chmod" ("missing operand after " ++ inQuotes mode)
      suggestHelp "chmod"
      return 1
  | mode :: paths => do
      let cs := mode.toList
      let change : Option Bool :=
        if cs.all Char.isDigit then some (cs.any fun c => (c.toNat - 48) % 2 = 1)
        else if !cs.contains 'x' then none
        else some (!cs.contains '-')
      let isMode := cs.all fun c => c.isDigit || ['u', 'g', 'o', 'a', '+', '-', '=', 'r', 'w', 'x', 'X', 's', 't', ','].contains c
      if !isMode then
        warn "chmod" ("invalid mode: " ++ inQuotes mode)
        suggestHelp "chmod"
        return 1
      let mut status := 0
      for path in paths do
        match ← nodeOf true path with
        | .error e => do
            warn "chmod" ("cannot access " ++ inQuotes path ++ ": " ++ cause e)
            status := 1
        | .ok id =>
            match change with
            | none => pure ()
            | some executable => onTree fun t => t.modify id fun
                | .file bytes _ => .file bytes executable
                | n => n
      return status

/-! ## Looking. -/

/-- The last name of a path, perhaps without an ending. -/
def basename : Utility := fun args =>
  withArgs "basename" 1 (.of "az" "s" [("multiple", 'a'), ("suffix", 's')]) args fun a => do
    let without (ending name : String) : String :=
      if name.endsWith ending && name != ending then
        String.ofList (name.toList.take (name.length - ending.length))
      else name
    match a.operands with
    | [] => missingOperand "basename" 1
    | path :: rest =>
        match a.value? 's', a.has 'a' || (a.value? 's').isSome with
        | ending, true =>
            output "basename" (unlines (a.operands.map fun p => without (ending.getD "") (baseName p))) 0
        | _, _ =>
            match rest with
            | [] => output "basename" (baseName path ++ "\n") 0
            | [ending] => output "basename" (without ending (baseName path) ++ "\n") 0
            | _ :: extra :: _ => extraOperand "basename" extra 1

/-- The path of the folder of a path. -/
def dirname : Utility := fun args =>
  withArgs "dirname" 1 (.of "z" "" []) args fun a => do
    if a.operands.isEmpty then missingOperand "dirname" 1
    else
      let shown (path : String) : String :=
        let (folder, _) := splitPath path
        if folder.isEmpty then "." else folder
      output "dirname" (unlines (a.operands.map shown)) 0

/-- Shows the paths of files without links. -/
def realpath : Utility := fun args =>
  withArgs "realpath" 1 (.of "emqsLPz" "" []) args fun a => do
    if a.operands.isEmpty then return ← missingOperand "realpath" 1
    let mut status := 0
    for path in a.operands do
      let refused (e : FileError) : Step Nat := do
        if !a.has 'q' then warn "realpath" (path ++ ": " ++ cause e)
        return 1
      let code ← match ← nodeOf true path with
        | .ok id =>
            let h ← host
            if h.tree.isFolder id then
              let found := Builtin.pathOf h.tree 1000 id
              output "realpath" ((if found.isEmpty then "/" else found) ++ "\n") 0
            else match ← entryOf path with
              | .ok (folder, name) => output "realpath" (Builtin.pathOf h.tree 1000 folder ++ "/" ++ name ++ "\n") 0
              | .error e => refused e
        | .error e =>
            match ← entryOf path with
            | .ok (folder, name) =>
                if a.has 'e' || path.endsWith "/" then refused e
                else output "realpath" (Builtin.pathOf (← host).tree 1000 folder ++ "/" ++ name ++ "\n") 0
            | .error e => refused e
      status := max status code
    return status

/-- Where a link leads. -/
def readlink : Utility := fun args =>
  withArgs "readlink" 1 (.of "fenmsqvz" "" []) args fun a => do
    match a.operands.head? with
    | none => missingOperand "readlink" 1
    | some path =>
        match ← nodeOf false path with
        | .ok id =>
            match (← host).tree.node id with
            | .link target => output "readlink" (target ++ "\n") 0
            | _ => if a.has 'f' || a.has 'e' || a.has 'm' then output "readlink" (path ++ "\n") 0 else return 1
        | .error _ => return 1

end GuardedCnf.Utility
