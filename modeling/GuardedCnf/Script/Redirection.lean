import GuardedCnf.Script.Expansion
/-! # Redirections — where a command of a script reads and writes

    Redirections take effect one after the other, so later ones build on earlier
    ones.  When one fails the command does not run. -/

namespace GuardedCnf.Script

/-- The words for an error when a file is opened. -/
def openingCause (e : FileError) (missing : String) : String :=
  match e with
  | .notFound | .notDirectory => missing
  | e => cause e

/-- Tells why a redirection fails, in the words of the dialect. -/
def refuse (portable extended : String) : Step Bool := do
  let isExtended := (← get).extended
  complain (if isExtended then extended else portable)
  setStatus (if isExtended then 1 else 2)
  return false

/-- Opens a file for a stream. -/
def openStream (stream : Nat) (path : String) (mode : OpenMode) : Step Bool := do
  match ← openPath path mode with
  | .ok number => do
      setStream stream (some number)
      return true
  | .error e =>
      let extended := path ++ ": " ++ cause e
      match mode with
      | .read => refuse ("cannot open " ++ path ++ ": " ++ openingCause e "No such file") extended
      | _ => refuse ("cannot create " ++ path ++ ": " ++ openingCause e "Directory nonexistent") extended

/-- Makes a stream the same as another one, or closes it. -/
def duplicateStream (stream : Nat) (target : String) : Step Bool := do
  if target = "-" then do
    setStream stream none
    return true
  else match (if target.length = 1 || (← get).extended then target.toNat? else none) with
    | none => do
        if (← get).extended then refuse "" (target ++ ": ambiguous redirect")
        else do
          modify fun s => { s with line := s.readTo }
          abort "Syntax error: Bad fd number"
    | some n =>
        match (← get).opening? n with
        | some number => do
            setStream stream (some number)
            return true
        | none =>
            let text := toString n ++ ": Bad file descriptor"
            refuse text text

/-- Whether a path leads to a file. -/
def isFile (path : String) : Step Bool := do
  match ← find true path with
  | .ok (.node id) => return ((← host).tree.node id matches .file ..)
  | _ => return false

/-- Makes a stream read a text. -/
def readText (stream : Nat) (text : String) : Step Bool := do
  let (reader, writer) ← onHost fun h =>
    let (reader, writer, h) := h.openPipe
    ((reader, writer), h)
  discard <| onHost fun h => h.write writer (Octets.toBytes text)
  setStream stream (some reader)
  return true

/-- Makes a redirection, and tells whether it succeeds. -/
def redirectOne (run : Run) (r : Redirection Word) : Step Bool := do
  match r.direction with
  | .here place => do
      let text ← hereText run ((← get).texts.getD place [])
      readText r.stream text
  | direction => do
      let target ← textOf run r.target
      match direction with
      | .read => openStream r.stream target .read
      | .append => openStream r.stream target .append
      | .update => openStream r.stream target .update
      | .duplicate => duplicateStream r.stream target
      | .line => readText r.stream (target ++ "\n")
      | .writeBoth append =>
          if ← openStream 1 target (if append then .append else .create) then duplicateStream 2 "1"
          else return false
      | .write => do
          let isProtected ← if (← get).has 'C' then isFile target else pure false
          if isProtected then
            refuse ("cannot create " ++ target ++ ": File exists") (target ++ ": cannot overwrite existing file")
          else openStream r.stream target .create
      | _ => openStream r.stream target .create

/-- Makes redirections, and tells whether all succeed. -/
def redirect (run : Run) : List (Redirection Word) → Step Bool
  | [] => return true
  | r :: rs => do
      if ← redirectOne run r then redirect run rs else return false

/-- Runs steps, after which the streams are as they were. -/
def keepingStreams {α : Type} (x : Step α) : Step α := do
  let streams := (← get).streams
  let restore : Step Unit := modify fun s => { s with streams := streams }
  let a ← tryCatch x fun jump => do
    restore
    throw jump
  restore
  return a

end GuardedCnf.Script
