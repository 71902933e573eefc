import GuardedCnf.Text.Decimal
/-! # Command lines

    A command line has one input file and options.  An option takes its value
    from the next argument or after an equals sign; `--negated` and `--free`
    take all following arguments that begin no option, and the arguments of
    tools may begin with a hyphen.  After `--` no argument is an option. -/

namespace GuardedCnf

/-- What to do with the encoding. -/
inductive Goal where
  | encode
  | check
  | solve
  | count
deriving DecidableEq

/-- The configuration of a run. -/
structure Options where
  input : String
  format : Option String
  goal : Goal
  output : Option String
  negated : List Nat
  free : List Nat
  solver : String
  solverArgs : List String
  counter : Option String
  counterArgs : List String
  json : Option String
  /-- The time limit, in milliseconds. -/
  timeout : Option Int
  debug : Bool
  stats : Option String

/-- Why a command line gives no configuration. -/
inductive UsageError where
  | unknownArgument
  | missingInput
  | invalidGoal
  | emptyValue
  | invalidNumber
  /-- The time limit is the least 64-bit integer, which is no duration: every
      duration has an opposite. -/
  | noDuration
  | repeated
  | helpWanted
  | versionWanted
deriving DecidableEq

namespace Options

/-- The options with values. -/
inductive Setting where
  | format
  | goal
  | output
  | negated
  | free
  | solver
  | solverArg
  | counter
  | counterArg
  | json
  | timeout
  | stats
deriving DecidableEq

/-- The options without values. -/
inductive Switch where
  | debug
  | help
  | version

namespace Setting

/-- Whether an option takes several values at once. -/
def takesMany (s : Setting) : Bool := s = .negated || s = .free

/-- Whether the value of an option may look like an option. -/
def takesHyphens (s : Setting) : Bool := s = .solverArg || s = .counterArg

/-- Whether an option may occur several times. -/
def mayRepeat (s : Setting) : Bool := s.takesMany || s.takesHyphens

/-- All options with values. -/
def all : List Setting :=
  [.format, .goal, .output, .negated, .free, .solver, .solverArg, .counter, .counterArg, .json,
    .timeout, .stats]

end Setting

/-- The option with a one-letter name. -/
def ofLetter? : Char → Option (Setting ⊕ Switch)
  | 'F' => some (.inl .format)
  | 'g' => some (.inl .goal)
  | 'o' => some (.inl .output)
  | 'n' => some (.inl .negated)
  | 'f' => some (.inl .free)
  | 'j' => some (.inl .json)
  | 'T' => some (.inl .timeout)
  | 'd' => some (.inr .debug)
  | 'h' => some (.inr .help)
  | 'V' => some (.inr .version)
  | _ => none

/-- The option with a long name. -/
def ofName? : String → Option (Setting ⊕ Switch)
  | "format" => some (.inl .format)
  | "goal" => some (.inl .goal)
  | "output" => some (.inl .output)
  | "negated" => some (.inl .negated)
  | "free" => some (.inl .free)
  | "solver" => some (.inl .solver)
  | "solver-arg" => some (.inl .solverArg)
  | "counter" => some (.inl .counter)
  | "counter-arg" => some (.inl .counterArg)
  | "json" => some (.inl .json)
  | "timeout" => some (.inl .timeout)
  | "stats" => some (.inl .stats)
  | "debug" => some (.inr .debug)
  | "help" => some (.inr .help)
  | "version" => some (.inr .version)
  | _ => none

/-! ## Reading the arguments. -/

/-- What the arguments so far say. -/
structure Progress where
  input : Option String
  /-- The occurrences of options, each `none`, and their values, in order. -/
  given : List (Setting × Option String)
  /-- How often debugging was asked for. -/
  debug : Nat
  /-- The option that takes the next argument as a value. -/
  awaiting : Option Setting
  /-- Whether `--` was met. -/
  inputOnly : Bool

namespace Progress

/-- Nothing is said. -/
def start : Progress := ⟨none, [], 0, none, false⟩

/-- Adds a value of an option. -/
def addValue (p : Progress) (s : Setting) (value : String) : Progress :=
  { p with given := p.given ++ [(s, some value)] }

/-- Adds an occurrence of an option, with its value if it has one; without an
    equals sign before it, an option that takes several may get more. -/
def addOccurrence (p : Progress) (s : Setting) : Option (String × Bool) → Progress
  | none => { p with given := p.given ++ [(s, none)], awaiting := some s }
  | some (value, afterEquals) =>
      { p with
        given := p.given ++ [(s, none), (s, some value)]
        awaiting := if s.takesMany && !afterEquals then some s else none }

/-- The values of an option. -/
def values (p : Progress) (s : Setting) : List String :=
  p.given.filterMap fun (t, value) => if t = s then value else none

/-- How often an option occurs. -/
def occurrences (p : Progress) (s : Setting) : Nat :=
  p.given.countP fun (t, value) => t = s && value.isNone

end Progress

/-- A text without the equals signs it begins with. -/
def afterEquals (cs : List Char) : String := String.ofList (cs.dropWhile (· == '='))

/-- Reads an option with a long name, with its value after the first equals
    sign. -/
def readLong (p : Progress) (cs : List Char) : Except UsageError Progress :=
  let name := cs.takeWhile (· != '=')
  let value :=
    if name.length < cs.length then some (afterEquals (cs.drop name.length), true) else none
  match ofName? (String.ofList name) with
  | none => .error .unknownArgument
  | some (.inr .help) => .error .helpWanted
  | some (.inr .version) => .error .versionWanted
  | some (.inr .debug) => .ok { p with debug := p.debug + 1, awaiting := none }
  | some (.inl s) => .ok (p.addOccurrence s value)

/-- Reads options with one-letter names. -/
def readLetters (p : Progress) : List Char → Except UsageError Progress
  | [] => .ok { p with awaiting := none }
  | c :: cs =>
      match ofLetter? c with
      | none => .error .unknownArgument
      | some (.inr .help) => .error .helpWanted
      | some (.inr .version) => .error .versionWanted
      | some (.inr .debug) => readLetters { p with debug := p.debug + 1 } cs
      | some (.inl s) =>
          match cs with
          | [] => .ok (p.addOccurrence s none)
          | d :: _ => .ok (p.addOccurrence s (some (afterEquals cs, d == '=')))

/-- Reads the input file. -/
def readInput (p : Progress) (arg : String) : Except UsageError Progress :=
  match p.input with
  | some _ => .error .unknownArgument
  | none => .ok { p with input := some arg }

/-- Whether an argument begins an option. -/
def beginsOption : List Char → Bool
  | ['-'] => false
  | '-' :: _ => true
  | _ => false

/-- Reads an argument as an option or as the input file. -/
def readFresh (p : Progress) (arg : String) : Except UsageError Progress :=
  match arg.toList with
  | ['-', '-'] => .ok { p with inputOnly := true }
  | '-' :: '-' :: cs => readLong p (cs.dropWhile (· == '-'))
  | '-' :: c :: cs => readLetters p (c :: cs)
  | _ => readInput p arg

/-- Reads an argument. -/
def readArgument (p : Progress) (arg : String) : Except UsageError Progress :=
  if p.inputOnly then readInput p arg
  else match p.awaiting with
    | none => readFresh p arg
    | some s =>
        if beginsOption arg.toList && !s.takesHyphens then readFresh p arg
        else .ok { p.addValue s arg with awaiting := if s.takesMany then some s else none }

/-- Reads arguments. -/
def readArguments (p : Progress) : List String → Except UsageError Progress
  | [] => .ok p
  | arg :: args => do readArguments (← readArgument p arg) args

/-! ## Checking what was read. -/

/-- The goal with a name, in letters of either case. -/
def goal? (name : String) : Option Goal :=
  match name.toLower with
  | "encode" => some .encode
  | "check" => some .check
  | "solve" => some .solve
  | "count" => some .count
  | _ => none

/-- The value an option has when none is given. -/
def fallback? : Setting → Option String
  | .goal => some "encode"
  | .solver => some "kissat"
  | _ => none

/-- The values of an option, or the one it has when none is given. -/
def valuesOf (p : Progress) (s : Setting) : List String :=
  match p.values s with
  | [] => (fallback? s).toList
  | values => values

/-- Whether a value of an option is well-formed. -/
def checkValue (s : Setting) (value : String) : Except UsageError Unit :=
  match s with
  | .goal => if (goal? value).isSome then .ok () else .error .invalidGoal
  | .negated | .free => if (Text.readNat64 value).isOk then .ok () else .error .invalidNumber
  | .timeout =>
      match Text.readInt64 value with
      | .error _ => .error .invalidNumber
      | .ok ms => if ms = -(Nat.pow 2 63 : Nat) then .error .noDuration else .ok ()
  | _ => .ok ()

/-- Checks the values of an option and how often it occurs. -/
def checkSetting (p : Progress) (s : Setting) : Except UsageError Unit := do
  if (valuesOf p s).isEmpty then
    if p.occurrences s = 0 then return () else throw .emptyValue
  (valuesOf p s).forM (checkValue s)
  if !s.mayRepeat && 1 < p.occurrences s then throw .repeated

/-- The configuration, once everything is read. -/
def ofProgress (p : Progress) : Except UsageError Options := do
  let some input := p.input | throw .missingInput
  match p.awaiting with
  | some s => if (valuesOf p s).isEmpty then throw .emptyValue
  | none => pure ()
  Setting.all.forM (checkSetting p)
  if 1 < p.debug then throw .repeated
  let value (s : Setting) := (valuesOf p s).head?
  let numbers (s : Setting) := (valuesOf p s).filterMap fun v => (Text.readNat64 v).toOption
  return {
    input := input
    format := value .format
    goal := ((value .goal).bind goal?).getD .encode
    output := value .output
    negated := numbers .negated
    free := numbers .free
    solver := (value .solver).getD ""
    solverArgs := valuesOf p .solverArg
    counter := value .counter
    counterArgs := valuesOf p .counterArg
    json := value .json
    timeout := (value .timeout).bind fun v => (Text.readInt64 v).toOption
    debug := p.debug != 0
    stats := value .stats }

/-- The configuration that arguments ask for. -/
def ofArguments (args : List String) : Except UsageError Options := do
  ofProgress (← readArguments .start args)

end Options

end GuardedCnf
