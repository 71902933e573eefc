import GuardedCnf.Program
import Std.Time.DateTime.Timestamp
/-! # The command line program

    Sessions run on the files and the clock of the system.  Tools are not
    started here: every request to run one is answered with an error. -/

namespace GuardedCnf

/-- What the file system answers, from an error of the system. -/
def FileError.ofSystem : IO.Error → FileError
  | .noFileOrDirectory .. => .notFound
  | .inappropriateType _ _ details =>
      if details.toLower == "not a directory" then .notDirectory else .isDirectory
  | .permissionDenied .. => .permissionDenied
  | .invalidArgument _ code details =>
      if code = 36 then .nameTooLong else .other s!"{details} (os error {code})"
  | .resourceExhausted _ code details =>
      if code = 28 then .noSpace else .other s!"{details} (os error {code})"
  | e => .other (toString e)

/-- Runs an action and gives its error as an answer. -/
def answering {α : Type} (action : IO α) : IO (Except FileError α) := do
  try return .ok (← action)
  catch e => return .error (.ofSystem e)

/-- What a session on a system needs to remember. -/
structure SystemState where
  /-- The instant at which the session has to end. -/
  deadline : IO.Ref (Option Int)
  /-- The files that are open for writing. -/
  files : IO.Ref (Array IO.FS.Handle)

/-- The answers of a system to the requests of a session. -/
def systemAnswer (state : SystemState) : (r : Request) → IO r.Answer
  | .load path => do
      match ← answering (IO.FS.readBinFile path) with
      | .ok bytes => return .ok (.ok bytes.toList)
      | .error .isDirectory => return .ok (.error .isDirectory)
      | .error e => return .error e
  | .create path => answering do
      let handle ← IO.FS.Handle.mk path .write
      let files ← state.files.get
      state.files.set (files.push handle)
      return ⟨files.size⟩
  | .write file text => answering do
      match (← state.files.get)[file.number]? with
      | some handle => do
          handle.putStr text
          handle.flush
      | none => pure ()
  | .print text => do
      let out ← IO.getStdout
      out.putStr text
      out.flush
  | .report text => do (← IO.getStderr).putStr text
  | .launch _ => return .notStarted (.other "Operation not supported (os error 95)")
  | .observe _ => return ()
  | .clock => IO.monoMsNow
  | .date => do return (← Std.Time.Timestamp.now).toMillisecondsSinceUnixEpoch.val
  | .limit ms => do state.deadline.set (some ((← IO.monoMsNow : Nat) + ms))
  | .expired => do
      match ← state.deadline.get with
      | none => return false
      | some time => return decide (time < (← IO.monoMsNow : Nat))

end GuardedCnf

/-- Runs the program. -/
def main (args : List String) : IO UInt32 := do
  let state ← GuardedCnf.SystemState.mk <$> IO.mkRef none <*> IO.mkRef #[]
  (GuardedCnf.Program.ofArguments args).runWith (GuardedCnf.systemAnswer state)
