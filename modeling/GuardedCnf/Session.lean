import GuardedCnf.FileError
import GuardedCnf.Statistics
import GuardedCnf.Tool
/-! # Sessions — what a run asks of its surroundings

    A session is either done or asks for one thing and goes on with the answer:
    a file, a tool, the clock.  It says what happens, and nothing of how it is
    done, so that the same session runs on a real file system or on one in
    memory, and its effects can be reasoned about. -/

namespace GuardedCnf

/-- A request to run a tool on a DIMACS file. -/
structure Launch where
  tool : Tool
  /-- The text of the file. -/
  input : String
  /-- Whether the file is kept for inspection. -/
  keepInput : Bool

/-- How a request to run a tool ends. -/
inductive LaunchResult where
  | notStarted (e : FileError)
  | ended (r : ToolRun)
  /-- The tool was still running when no time was left. -/
  | outOfTime

/-- A file that is open for writing, by the number that it got. -/
structure OpenFile where
  number : Nat

/-- What a session can ask for. -/
inductive Request where
  /-- Opens a file and reads it. -/
  | load (path : String)
  /-- Makes a file empty, creating it if needed, and opens it for writing. -/
  | create (path : String)
  /-- Writes a text where the last one written to an open file ends. -/
  | write (file : OpenFile) (text : String)
  /-- Writes to the standard output. -/
  | print (text : String)
  /-- Writes to the standard error output. -/
  | report (text : String)
  /-- Runs a tool. -/
  | launch (l : Launch)
  /-- Takes note of an event. -/
  | observe (e : Event)
  /-- Reads a clock, in milliseconds. -/
  | clock
  /-- Reads the calendar: the milliseconds since the beginning of 1970. -/
  | date
  /-- Limits the time from now on, in milliseconds. -/
  | limit (ms : Int)
  /-- Tells whether no time is left. -/
  | expired

/-- The answers to a request. -/
@[reducible] def Request.Answer : Request → Type
  | .load _ => Except FileError Source
  | .create _ => Except FileError OpenFile
  | .write _ _ => Except FileError Unit
  | .print _ => Unit
  | .report _ => Unit
  | .launch _ => LaunchResult
  | .observe _ => Unit
  | .clock => Nat
  | .date => Int
  | .limit _ => Unit
  | .expired => Bool

/-- A computation that interacts with its surroundings. -/
inductive Session (α : Type) where
  | done (a : α)
  | ask (r : Request) (next : r.Answer → Session α)

namespace Session

variable {α β : Type}

/-- Goes on with the result of a session. -/
def bind (f : α → Session β) : Session α → Session β
  | .done a => f a
  | .ask r next => .ask r fun answer => (next answer).bind f

instance : Monad Session where
  pure := .done
  bind s f := s.bind f

/-- The session of a single request. -/
def request (r : Request) : Session r.Answer := .ask r .done

/-- Collects the events of a session instead of passing them on. -/
def collect (c : Collector) : Session α → Session (α × Collector)
  | .done a => .done (a, c)
  | .ask (.observe e) next => (next ()).collect (c.observe e)
  | .ask r next => .ask r fun answer => (next answer).collect c

/-- Runs a session in surroundings that answer its requests. -/
def runWith {m : Type → Type} [Monad m] (answer : (r : Request) → m r.Answer) :
    Session α → m α
  | .done a => pure a
  | .ask r next => do (next (← answer r)).runWith answer

end Session

end GuardedCnf
