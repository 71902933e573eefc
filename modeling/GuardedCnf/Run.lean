import GuardedCnf.Encoding
import GuardedCnf.Format.Registry
import GuardedCnf.Options
import GuardedCnf.Search
import GuardedCnf.Session
/-! # Runs — from options to results

    A run reads a formula, encodes it and does what the goal asks: it writes the
    encoding, decides its satisfiability under assumptions, or counts models.
    Results go to a JSON file if one is named, and to the standard outputs if
    not. -/

namespace GuardedCnf

/-- Why a run fails. -/
inductive RunError where
  | input (e : InputError)
  | encoding (path : String) (e : EncodingError)
  /-- The file for results cannot be created. -/
  | results (path : String) (e : FileError)
  /-- Conjuncts are chosen, though the goal has no use for that. -/
  | needlessSelection
  /-- The file for the encoding cannot be created. -/
  | output (path : String) (e : FileError)
  | selection (e : Encoding.SelectionError)
  | search (e : SearchError)
  | tool (e : ToolError)
  /-- The results cannot be written. -/
  | writingResults (path : String) (e : FileError)
  /-- The names of the variables of the encoding cannot be written. -/
  | writingNames (e : FileError)
  /-- The clauses of the encoding cannot be written. -/
  | writingClauses (e : FileError)
  /-- The end of the encoding cannot be written. -/
  | writingOutput (path : String) (e : FileError)

/-- The wording of a failure, the outermost part first. -/
def RunError.messages : RunError → List String
  | .input e => e.messages
  | .encoding path e => [s!"encoding {path}", e.message]
  | .results path e => [s!"opening {path} to write results", e.message]
  | .needlessSelection => ["--negated and --free only apply to check, solve and count"]
  | .output path e => [s!"creating {path}", e.message]
  | .selection e => [e.message]
  | .search e => [e.message]
  | .tool e => e.messages
  | .writingResults path e => [s!"writing result to {path}", e.message]
  | .writingNames e => ["writing variable names", e.message]
  | .writingClauses e => ["writing dimacs clauses", e.message]
  | .writingOutput path e => [s!"writing {path}", e.message]

/-- Why a run ends early. -/
inductive Stop where
  | failed (e : RunError)
  | outOfTime

/-- A session that may end early. -/
abbrev Run := ExceptT Stop Session

namespace Run

/-! ## Requests. -/

/-- Fails unless there is a result. -/
def ofExcept {ε α : Type} (cause : ε → RunError) : Except ε α → Run α
  | .ok a => pure a
  | .error e => throw (.failed (cause e))

/-- Makes a request. -/
def ask (r : Request) : Run r.Answer := ExceptT.lift (Session.request r)

/-- Opens a file and reads it. -/
def load (path : String) : Run Source := do
  ofExcept (fun e => .input (.opening path e)) (← ask (.load path))

/-- Creates an empty file and opens it. -/
def create (path : String) (cause : FileError → RunError) : Run OpenFile := do
  ofExcept cause (← ask (.create path))

/-- Writes a text to an open file. -/
def write (file : OpenFile) (text : String) (cause : FileError → RunError) : Run Unit := do
  ofExcept cause (← ask (.write file text))

/-- Ends the run if no time is left. -/
def checkTime : Run Unit := do
  if ← ask .expired then throw .outOfTime

/-- Passes on how long an activity took that began at `start`. -/
def observeTime (activity : String) (start : Nat) : Run Unit := do
  let now ← ask .clock
  ask (.observe (.ended activity (now - start)))

/-- Runs a tool on clauses under assumptions. -/
def launch (tool : Tool) (input : Dimacs) (keepInput : Bool) : Run ToolRun := do
  let start ← ask .clock
  match ← ask (.launch ⟨tool, input.toText, keepInput⟩) with
  | .outOfTime => throw .outOfTime
  | .notStarted e => do
      observeTime "external_tool" start
      throw (.failed (.tool (.notStarted tool.command e)))
  | .ended r => do
      observeTime "external_tool" start
      return r

/-! ## Steps. -/

/-- Reads the formula of a file, in the format with a name or in the one for its
    extension, and declares its variables. -/
def readFormula (formats : Registry) (path : String) (name : Option String) :
    Run (Formula × VariableMap) := do
  let format ← ofExcept (fun e => .input (.format e)) (formats.choose path name)
  let source ← load path
  match (format.parse source).run (.empty VariableMap.defaultLimit) with
  | .ok f vars => return (f, vars)
  | .error e _ => throw (.failed (.input (.content path format.name e)))

/-- The events that describe an encoding: the sizes of its conjuncts, counted
    from `i`. -/
def conjunctEvents (i : Nat) : List GuardedConjunct → List Event
  | [] => []
  | g :: gs =>
      ⟨true, [("conjunct", .integer i), ("holds_clauses", .integer g.holds.length),
        ("fails_clauses", .integer g.fails.length)]⟩ :: conjunctEvents (i + 1) gs

/-- The event that describes an encoding as a whole. -/
def sizeEvent (s : Encoding.Summary) : Event :=
  ⟨true, [("conjuncts", .integer s.conjuncts), ("clauses", .integer s.clauses),
    ("literals", .integer s.literals), ("variables", .integer s.varCount)]⟩

/-- Encodes a formula. -/
def encode (path : String) (f : Formula) (vars : VariableMap) :
    Run (Encoding × VariableMap) := do
  let start ← ask .clock
  match (Encoding.ofFormula f).run vars with
  | .ok e vars => do
      (conjunctEvents 1 e.conjuncts).forM fun event => ask (.observe event)
      observeTime "encode" start
      ask (.observe (sizeEvent (e.summary vars)))
      return (e, vars)
  | .error (.notConjunction root) _ => throw (.failed (.encoding path (.notConjunction root)))
  | .error e _ => do
      observeTime "encode" start
      throw (.failed (.encoding path e))

/-- The file for results, and its path for messages. -/
structure ResultFile where
  path : String
  file : OpenFile

/-- Creates the file for results, if one is named. -/
def createResults (o : Options) : Run (Option ResultFile) := do
  match o.json with
  | some path => return some ⟨path, ← create path (.results path)⟩
  | none => return none

/-- Writes results to the file for them, or shows them if there is none. -/
def conclude (sink : Option ResultFile) (results : Json) (shown : Run Unit) : Run Unit :=
  match sink with
  | some ⟨path, file⟩ => write file results.pretty (.writingResults path)
  | none => shown

/-- How many bytes of an encoding are held back before they are written. -/
def bufferSize : Nat := 8192

/-- The failure of a file that takes no bytes of a text, which begins with the
    names of variables.  It shows when the bytes held back become too many,
    while the names or the clauses are written, or else at the end. -/
def writingFailure (path names text : String) (e : FileError) : RunError :=
  if bufferSize < names.utf8ByteSize then .writingNames e
  else if bufferSize < text.utf8ByteSize then .writingClauses e
  else .writingOutput path e

/-- Writes the encoding in DIMACS format. -/
def writeEncoding (o : Options) (sink : Option ResultFile) (e : Encoding) (vars : VariableMap) :
    Run Unit := do
  if !(o.negated.isEmpty && o.free.isEmpty) then throw (.failed .needlessSelection)
  let text := Dimacs.named e.cnf vars
  match o.output with
  | some path => do
      let file ← create path (.output path)
      write file text (writingFailure path (Dimacs.names vars) text)
  | none => ask (.print text)
  let summary := e.summary vars
  conclude sink summary.toJson (ask (.report (summary.toText ++ "\n")))

/-- The verdict of a solver on clauses under assumptions. -/
def solveBy (tool : Tool) (f : Cnf) (varCount : Nat) (assumptions : List Literal)
    (keepInput : Bool) : Run Verdict := do
  let r ← launch tool (Tool.input f varCount assumptions) keepInput
  ofExcept .tool (tool.verdict f varCount assumptions r)

/-- The number of models of clauses under assumptions, by a counter. -/
def countBy (tool : Tool) (f : Cnf) (varCount : Nat) (assumptions : List Literal)
    (keepInput : Bool) : Run Nat := do
  let r ← launch tool (Tool.input f varCount assumptions) keepInput
  ofExcept .tool (tool.count r)

/-- Whether the files for tools are kept for inspection. -/
def keepsInput (o : Options) : Bool := o.debug || o.stats.isSome

/-- The verdict on the clauses under assumptions, by search or by the solver. -/
def decideWith (o : Options) (e : Encoding) (vars : VariableMap)
    (assumptions : List Literal) : Run Verdict := do
  if o.goal = .check then
    let found ← ofExcept .search (Search.solve e.cnf vars.size assumptions)
    checkTime
    return match found with
      | some m => .satisfiable m
      | none => .unsatisfiable
  else
    solveBy ⟨o.solver, o.solverArgs⟩ e.cnf vars.size assumptions (keepsInput o)

/-- The values of a model as JSON. -/
def modelJson (vars : VariableMap) : Option Model → Json
  | none => .null
  | some m => .obj ((m.namedValues vars).map fun (name, b) => (name, .bool b))

/-- The line that shows a verdict. -/
def verdictText (vars : VariableMap) : Verdict → String
  | .satisfiable m => s!"Satisfiable: {m.displayNamed vars}\n"
  | .unsatisfiable => "Unsatisfiable\n"

/-- Decides satisfiability under the chosen assumptions. -/
def decide (o : Options) (sink : Option ResultFile) (e : Encoding) (vars : VariableMap) :
    Run Unit := do
  let assumptions ← ofExcept .selection (e.assumptions o.negated o.free)
  let verdict ← decideWith o e vars assumptions
  ask (.observe (.single "satisfiable" (.flag verdict.model?.isSome)))
  conclude sink
    (.obj [("satisfiable", .bool verdict.model?.isSome),
      ("model", modelJson vars verdict.model?), ("encoding", (e.summary vars).toJson)])
    (ask (.print (verdictText vars verdict)))

/-- The number of models under assumptions, by search or by the counter. -/
def countWith (o : Options) (e : Encoding) (vars : VariableMap)
    (assumptions : List Literal) : Run Nat := do
  match o.counter with
  | none =>
      let n ← ofExcept .search (Search.count e.cnf vars.size assumptions)
      checkTime
      return n
  | some command =>
      countBy ⟨command, o.counterArgs⟩ e.cnf vars.size assumptions (keepsInput o)

/-- Counts models under the chosen assumptions. -/
def count (o : Options) (sink : Option ResultFile) (e : Encoding) (vars : VariableMap) :
    Run Unit := do
  let assumptions ← ofExcept .selection (e.countingAssumptions o.negated o.free)
  let n ← countWith o e vars assumptions
  ask (.observe (.single "model_count" (.text (toString n))))
  conclude sink (.obj [("count", .str (toString n)), ("encoding", (e.summary vars).toJson)])
    (ask (.print s!"Models: {n}\n"))

/-- Does what options ask for. -/
def ofOptions (formats : Registry) (o : Options) : Run Unit := do
  let (f, vars) ← readFormula formats o.input o.format
  let (e, vars) ← encode o.input f vars
  let sink ← createResults o
  match o.goal with
  | .encode => writeEncoding o sink e vars
  | .check => decide o sink e vars
  | .solve => decide o sink e vars
  | .count => count o sink e vars

end Run

end GuardedCnf
