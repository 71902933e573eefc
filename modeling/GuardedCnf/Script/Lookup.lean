import GuardedCnf.Script.Shell
/-! # Looking up programs

    A program is named by its path, or by a name that is looked for in the folders
    of `PATH`. -/

namespace GuardedCnf.Script

/-- What can be run. -/
inductive Executable where
  /-- A program of the system, by its name. -/
  | utility (name : String)
  /-- A file that is a script. -/
  | script (text : String)

/-- What a path leads to, if it can be run. -/
def locate (path : String) : Step (Except FileError Executable) := do
  match ← find true path with
  | .error e => return .error e
  | .ok (.free ..) => return .error .notFound
  | .ok (.node id) =>
      match (← host).tree.node id with
      | .program name => return .ok (.utility name)
      | .file bytes true => return .ok (.script (Octets.ofBytes bytes))
      | _ => return .error .permissionDenied

/-- The folders for programs, where nothing else is set. -/
def standardPath : String := "/usr/local/sbin:/usr/local/bin:/usr/sbin:/usr/bin:/sbin:/bin"

/-- The folders of `PATH`. -/
def Shell.searchPath (s : Shell) : List String := ((s.value? "PATH").getD "").splitOn ":"

/-- Looks for a name in folders; of the reasons why it is not there the last one
    other than that nothing has the name counts. -/
def searchIn (name : String) : List String → FileError → Step (Except FileError String)
  | [], e => return .error e
  | folder :: folders, e => do
      let path := if folder.isEmpty then name else folder ++ "/" ++ name
      match ← locate path with
      | .ok _ => return .ok path
      | .error .notFound | .error .notDirectory => searchIn name folders e
      | .error e => searchIn name folders e

/-- The path of the program with a name; a name with a slash is a path itself. -/
def search (name : String) : Step (Except FileError String) := do
  if name.toList.contains '/' then return .ok name
  else searchIn name (← get).searchPath .notFound

/-- The same, where there are folders to look in without `PATH` too. -/
def searchAnyway (name : String) : Step (Except FileError String) := do
  let isUnset := ((← get).value? "PATH").isNone
  if isUnset && !name.toList.contains '/' then searchIn name ["/bin", "/usr/bin"] .notFound
  else search name

/-- The words of the extended dialect for a reason why the program that a name stands
    for does not run. -/
def extendedCause (name : String) (e : FileError) : String :=
  match e with
  | .notFound | .notDirectory =>
      if name.toList.contains '/' then name ++ ": " ++ cause e else name ++ ": command not found"
  | e => name ++ ": " ++ cause e

/-- The words for a reason why a program does not run. -/
def runningCause (e : FileError) : String :=
  match e with
  | .notFound | .notDirectory => "not found"
  | e => cause e

/-- The exit code for such a reason. -/
def runningStatus (e : FileError) : Nat :=
  match e with
  | .notFound | .notDirectory | .nameTooLong | .tooManyLinks => 127
  | _ => 126

end GuardedCnf.Script
