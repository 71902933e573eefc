import GuardedCnf.Utility.Awk.State
import GuardedCnf.Utility.Date
/-! # Running programs on records

    The rules of a program run for each record of the input. -/

namespace GuardedCnf.Utility

open Script

namespace Awk

/-! ## Texts. -/

/-- The replacement of a match.  Backslashes count before an ampersand only. -/
def replacement (matched : String) (new : List Char) : List Char :=
  go new.length 0 new
where
  /-- The rest of the replacement after so many backslashes. -/
  go : Nat → Nat → List Char → List Char
    | _, n, [] => List.replicate n '\\'
    | 0, n, cs => List.replicate n '\\' ++ cs
    | fuel + 1, n, '\\' :: cs => go fuel (n + 1) cs
    | fuel + 1, n, '&' :: cs =>
        List.replicate (n / 2) '\\' ++ (if n % 2 = 1 then ['&'] else matched.toList) ++ go fuel 0 cs
    | fuel + 1, n, c :: cs => List.replicate n '\\' ++ c :: go fuel 0 cs

/-- Replaces matches from a place on. -/
def replaceFrom (r : Regex) (new : List Char) (everywhere : Bool) (text : Array Char) :
    Nat → Nat → Option Nat → Array Char → Nat → Array Char × Nat
  | 0, start, _, sofar, n => (sofar ++ text.extract start text.size, n)
  | fuel + 1, start, barred, sofar, n =>
      let rest (place : Nat) : Array Char := text.extract place text.size
      match r.search text start with
      | none => (sofar ++ rest start, n)
      | some m =>
          let before := text.extract start m.start
          if m.start = m.stop && barred = some m.start then
            match text[m.start]? with
            | some c => replaceFrom r new everywhere text fuel (m.start + 1) none ((sofar ++ before).push c) n
            | none => (sofar ++ before, n)
          else
            let sofar := sofar ++ before ++ (replacement (m.group text 0) new).toArray
            if !everywhere then (sofar ++ rest m.stop, n + 1)
            else if m.stop = m.start then
              match text[m.start]? with
              | some c => replaceFrom r new everywhere text fuel (m.start + 1) none (sofar.push c) (n + 1)
              | none => (sofar, n + 1)
            else replaceFrom r new everywhere text fuel m.stop (some m.stop) sofar (n + 1)

/-- The part of a text from a place on, of some size.  Places before the first
    character make it longer. -/
def part (text : String) (start : Float) (size : Option Float) : String :=
  let first := Value.toInt start
  let size := match size with
    | some n => Value.toInt n
    | none => Value.toInt Value.largest
  let size := if first < 0 then size - first else size
  let skipped := (first - 1).toNat
  if size ≤ 0 then "" else String.ofList ((text.toList.drop skipped).take size.toNat)

/-- The place of a text in another one, from 1 on, or 0. -/
def placeIn (text wanted : String) : Nat :=
  let rec go : Nat → List Char → Nat
    | n, [] => if wanted.isEmpty then n else 0
    | n, c :: cs => if wanted.toList.isPrefixOf (c :: cs) then n else go (n + 1) cs
  go 1 text.toList

/-- A character as a value shows it: numbers are codes. -/
def characterOf (spec : String) (v : Value) : String :=
  match v with
  | .number x | .both _ x => String.singleton (Char.ofNat ((Value.toInt x).emod 256).toNat)
  | v => String.singleton ((v.toText spec).toList.head?.getD '\x00')

/-- Fills a format with values.  What is there already is written before the
    program fails. -/
def fill (whole : String) (partly : String → Work Unit) :
    Nat → List Char → List Value → Nat → Array Char → Work String
  | 0, _, _, _, sofar => return String.ofList sofar.toList
  | _, [], _, _, sofar => return String.ofList sofar.toList
  | fuel + 1, '%' :: '%' :: cs, values, n, sofar => fill whole partly fuel cs values n (sofar.push '%')
  | fuel + 1, '%' :: cs, values, n, sofar => do
      let fails (message : String) : Work String := do
        partly (String.ofList sofar.toList)
        runtimeFailure message
      let marks := cs.takeWhile Value.flags.contains
      let cs := cs.drop marks.length
      let size (cs : List Char) (values : List Value) : Int × List Char × List Value :=
        match cs with
        | '*' :: rest => (Value.toInt ((values.headD .missing).toNumber), rest, values.drop 1)
        | _ =>
            let ds := cs.takeWhile Char.isDigit
            (Int.ofNat (Sum.ofDigits 10 ds), cs.drop ds.length, values)
      let (width, cs, values) := size cs values
      let (precision, cs, values) : Option Nat × List Char × List Value := match cs with
        | '.' :: rest =>
            let (n, rest, values) := size rest values
            (some n.toNat, rest, values)
        | _ => (none, cs, values)
      let cs := cs.dropWhile ['l', 'h'].contains
      let form : Form :=
        { left := marks.contains '-' || width < 0
          plus := marks.contains '+'
          space := marks.contains ' '
          full := marks.contains '#'
          zeros := marks.contains '0'
          width := width.natAbs
          precision := precision }
      match cs, values with
      | [], _ => return String.ofList sofar.toList
      | _, [] => fails ("not enough arguments passed to " ++ whole)
      | letter :: cs, v :: values => do
          let spec ← spec
          let shown : Option String := match letter with
            | 's' => some (form.text (v.toText spec))
            | 'c' => some ({ form with precision := none }.text (characterOf spec v))
            | _ => (⟨form, letter⟩ : Value.Directive).show v
          match shown with
          | some text => fill whole partly fuel cs values (n + 1) (sofar ++ text.toList.toArray)
          | none => fails ("improper conversion(number " ++ toString n ++ ") in " ++ whole)
  | fuel + 1, c :: cs, values, n, sofar => fill whole partly fuel cs values n (sofar.push c)

/-- Fills a format that is the first one of some values, for a function. -/
def filled (function : String) (partly : String → Work Unit) (values : List Value) : Work String := do
  match values with
  | [] => return ""
  | format :: values => do
      let format ← textOf format
      fill (function ++ "(\"" ++ format ++ "\")") partly (format.length + 2) format.toList values 1 #[]

/-- The value of a function of numbers. -/
def mathematical? (name : String) (a b : Float) : Option Float :=
  match name with
  | "int" => some (if a < 0.0 then a.ceil else a.floor)
  | "sqrt" => some a.sqrt
  | "exp" => some a.exp
  | "log" => some a.log
  | "sin" => some a.sin
  | "cos" => some a.cos
  | "atan2" => some (a.atan2 b)
  | _ => none

/-- The seconds since the beginning of 1970. -/
def now : Work Int := do
  let s ← step get
  return (1000 * s.machine.host.date + Int.ofNat s.machine.time).fdiv 1000000

/-- The seconds of a date, from its year on. -/
def dateOf (text : String) : Int :=
  match (blankWords text).map String.toInt? with
  | some year :: some month :: some day :: some hour :: some minute :: some second :: _ =>
      let months := 12 * year + month - 1
      86400 * (yearStart (months.fdiv 12) + daysBefore (months.fdiv 12) (months.fmod 12 + 1).toNat + day - 1)
        + 3600 * hour + 60 * minute + second
  | _ => -1

/-! ## Expressions. -/

/-- What is assigned to. -/
inductive Target where
  | var (name : String)
  | element (table : Nat) (key : Key)
  | field (n : Nat)

/-- The value of a target. -/
def Target.load : Target → Work Value
  | .var name => do
      let s ← get
      match s.frame.lookup name with
      | some (.value v) => return v
      | some (.table _) => return .missing
      | none => return s.globals.getD name .missing
  | .element table key => Awk.element table key
  | .field n => Awk.field n

/-- Assigns to a target. -/
def Target.store (t : Target) (v : Value) : Work Unit :=
  match t with
  | .var name => setVar name v
  | .element table key => onTable table (·.set key v)
  | .field n => setField n v

/-- The number of a field. -/
def fieldNumber (v : Value) : Work Nat := do
  let x := v.toNumber
  if x < 0.0 then runtimeFailure ("negative field index $" ++ Value.format "%.6g" (.number x))
  else return (Value.toInt x).toNat

/-- How many rounds a loop has at most. -/
def manyRounds : Nat := 1000000000

/-- Repeats a body as long as a condition holds and the loop is not left. -/
def repeated (holds body : Work Bool) (after : Work Unit) : Nat → Bool → Work Unit
  | 0, _ => step (throw .late)
  | fuel + 1, first => do
      step (Script.work 3)
      let goesOn ← if first then pure true else holds
      if goesOn then
        if ← body then
          after
          repeated holds body after fuel false

/-- Runs a body for each key until the loop is left. -/
def untilLeft (body : String → Work Bool) : List String → Work Unit
  | [] => return ()
  | key :: keys => do
      if ← body key then untilLeft body keys

mutual

/-- The value of an expression. -/
def eval (spawn : Spawn) : Nat → Expr → Work Value
  | 0, _ => failure "program limit exceeded: eval stack size=1024"
  | fuel + 1, e => do
      match e with
      | .number x => return .number x
      | .string s => return .text s
      | .regex s => return .ofBool ((← patternOf s).isIn (← get).record)
      | .var name => (Target.var name).load
      | .index .. | .field _ => do (← evalTarget spawn fuel e).load
      | .assign op target value => do
          let place ← evalTarget spawn fuel target
          let v ← eval spawn fuel value
          let v ← if op.isEmpty then pure v else do
            pure (Value.arithmetic op (← place.load) v)
          place.store v
          return v
      | .cond c a b =>
          if (← eval spawn fuel c).isTrue then eval spawn fuel a else eval spawn fuel b
      | .both a b =>
          if (← eval spawn fuel a).isTrue then return .ofBool (← eval spawn fuel b).isTrue
          else return .ofBool false
      | .either a b =>
          if (← eval spawn fuel a).isTrue then return .ofBool true
          else return .ofBool (← eval spawn fuel b).isTrue
      | .isIn keys name => do
          let key ← evalKey spawn fuel keys
          return .ofBool (← element? (← tablePlace name) key).isSome
      | .isMatch negated e r => do
          let text ← textOf (← eval spawn fuel e)
          let r ← evalPattern spawn fuel r
          return .ofBool (r.isIn text != negated)
      | .binary op a b => do
          let x ← eval spawn fuel a
          let y ← eval spawn fuel b
          if ["<", "<=", "==", "!=", ">", ">="].contains op then
            return .ofBool (Value.compare (← spec) op x y)
          else return Value.arithmetic op x y
      | .concat a b => do
          let x ← textOf (← eval spawn fuel a)
          let y ← textOf (← eval spawn fuel b)
          return .text (x ++ y)
      | .unary op e => do
          let v ← eval spawn fuel e
          return match op with
            | "!" => .ofBool (!v.isTrue)
            | "-" => v.negated
            | _ => v.numeric
      | .step amount before target => do
          let place ← evalTarget spawn fuel target
          let old ← place.load
          let new := Value.arithmetic "+" old (.number amount)
          place.store new
          return if before then new else old.numeric
      | .group es => do return .text (← evalKey spawn fuel es).toText
      | .getline target isCommand source => do
          let place ← match target with
            | some target => some <$> evalTarget spawn fuel target
            | none => pure none
          let record ← match source with
            | none => do pure (some (← nextRecord manyFiles))
            | some e => do nextOf spawn isCommand (← textOf (← eval spawn fuel e))
          match record with
          | none => return .number (-1)
          | some none => return .number 0
          | some (some text) => do
              match place with
              | some place => place.store (Value.ofInput text)
              | none => setRecord text
              return .number 1
      | .call name args => call spawn fuel name args
      | .invoke name args => invoke spawn fuel name args

/-- What an expression stands for as a target. -/
def evalTarget (spawn : Spawn) : Nat → Expr → Work Target
  | 0, _ => failure "program limit exceeded: eval stack size=1024"
  | fuel + 1, e => do
      match e with
      | .index name keys => do
          let key ← evalKey spawn fuel keys
          let table ← tablePlace name
          discard <| element table key
          return .element table key
      | .field e => do return .field (← fieldNumber (← eval spawn fuel e))
      | .var name => return .var name
      | _ => return .var ""

/-- The key that expressions stand for. -/
def evalKey (spawn : Spawn) : Nat → List Expr → Work Key
  | 0, _ => failure "program limit exceeded: eval stack size=1024"
  | fuel + 1, es => do
      match es with
      | [] => return .text ""
      | [e] => do
          match ← eval spawn fuel e with
          | .number x =>
              match Value.integer? x with
              | some n => return .number n
              | none => do return .text (← textOf (.number x))
          | v => do return .text (← textOf v)
      | e :: es => do
          let first ← textOf (← eval spawn fuel e)
          return .text (first ++ (← globalText "SUBSEP") ++ (← evalKey spawn fuel es).toText)

/-- The pattern that an expression stands for. -/
def evalPattern (spawn : Spawn) : Nat → Expr → Work Regex
  | 0, _ => failure "program limit exceeded: eval stack size=1024"
  | fuel + 1, e =>
      match e with
      | .regex s => patternOf s
      | e => do patternOf (← textOf (← eval spawn fuel e))

/-- The values of expressions. -/
def evalAll (spawn : Spawn) : Nat → List Expr → Work (List Value)
  | 0, _ => return []
  | _, [] => return []
  | fuel + 1, e :: es => do
      let v ← eval spawn fuel e
      return v :: (← evalAll spawn fuel es)

/-- Calls a function that every program has. -/
def call (spawn : Spawn) : Nat → String → List Expr → Work Value
  | 0, _, _ => failure "program limit exceeded: eval stack size=1024"
  | fuel + 1, name, args => do
      match name, args with
      | "length", [.var n] => do
          let s : State ← get
          let place? : Option Nat := match s.frame.lookup n with
            | some (.table place) => some place
            | some (.value _) => none
            | none => s.tableNames.get? n
          match place? with
          | some place => return .ofNat (((s.tables[place]?).map (·.values.size)).getD 0)
          | none => return .ofNat (← textOf (← (Target.var n).load)).length
      | "length", [] => return .ofNat (← get).record.length
      | "split", source :: .var table :: separator => do
          let source ← textOf (← eval spawn fuel source)
          let parts ← match separator with
            | [] => fieldsBy (← globalText "FS") source
            | .regex "" :: _ => fieldsBy "" source
            | .regex r :: _ => do
                if source.isEmpty then pure []
                else pure (splitAt (← patternOf r) source.toList.toArray (source.length + 2) 0 0)
            | e :: _ => do fieldsBy (← textOf (← eval spawn fuel e)) source
          let place ← tablePlace table
          onTable place fun _ => .ofList (parts.map Value.ofInput)
          return .ofNat parts.length
      | "sub", r :: new :: target | "gsub", r :: new :: target => do
          let r ← evalPattern spawn fuel r
          let new ← textOf (← eval spawn fuel new)
          let place ← evalTarget spawn fuel (target.headD (.field (.number 0)))
          let old := (← textOf (← place.load)).toList.toArray
          let (cs, n) := replaceFrom r new.toList (name = "gsub") old (old.size + 2) 0 none #[] 0
          if n != 0 then place.store (.text (String.ofList cs.toList))
          return .ofNat n
      | "match", [e, r] => do
          let cs := (← textOf (← eval spawn fuel e)).toList.toArray
          let (start, size) : Nat × Int := match (← evalPattern spawn fuel r).search cs 0 with
            | some m => (m.start + 1, Int.ofNat (m.stop - m.start))
            | none => (0, -1)
          setGlobal "RSTART" (.ofNat start)
          setGlobal "RLENGTH" (.ofInt size)
          return .ofNat start
      | _, _ => do
          let values ← evalAll spawn fuel args
          let texts ← values.mapM textOf
          let text (n : Nat) : String := texts.getD n ""
          let number (n : Nat) : Float := (values.getD n .missing).toNumber
          match name with
          | "length" => return .ofNat (text 0).length
          | "substr" => return .text (part (text 0) (number 1) ((values[2]?).map Value.toNumber))
          | "index" => return .ofNat (placeIn (text 0) (text 1))
          | "sprintf" => return .text (← filled "sprintf" (fun _ => return ()) values)
          | "tolower" => return .text (text 0).toLower
          | "toupper" => return .text (text 0).toUpper
          | "system" => do
              flushAll
              return .ofNat (← runCommand spawn (text 0))
          | "close" => return .ofInt (← close spawn (text 0))
          | "fflush" => do
              match texts with
              | [] => do
                  flushMain
                  return .number 0
              | name :: _ => do
                  let isHere (o : Outlet) : Bool := o.name = name
                  let known := (← get).outlets.any isHere
                  flush isHere
                  return .number (if known then 0 else -1)
          | "rand" => do
              let (x, random) := (← get).random.fraction
              modify fun s => { s with random := random }
              return .number x
          | "srand" => do
              let old := (← get).seed
              let new ← match values with
                | v :: _ => pure v
                | [] => do pure (Value.ofInt (← now))
              modify fun s => { s with seed := new, random := .ofSeed (Value.toInt new.toNumber) }
              return old
          | "systime" => return .ofInt (← now)
          | "mktime" => return .ofInt (dateOf (text 0))
          | "strftime" => do
              let seconds ← match values with
                | _ :: v :: _ => pure (Value.toLong v.toNumber)
                | _ => now
              let form := if values.isEmpty then "%c" else text 0
              let form := if (values[2]?).any Value.isTrue then "GMT".intercalate (form.splitOn "%Z") else form
              return .text ((Moment.ofSeconds seconds).filled seconds 0 form.toList)
          | _ =>
              match mathematical? name (number 0) (number 1) with
              | some x =>
                  return match (values.getD 0 .missing).invalid? with
                    | some negative => .nan negative
                    | none => .ofFloat x
              | none => return .missing

/-- Calls a function of the program. -/
def invoke (spawn : Spawn) : Nat → String → List Expr → Work Value
  | 0, _, _ => failure "program limit exceeded: eval stack size=1024"
  | fuel + 1, name, args => do
      match (← get).program.functions.find? (·.name = name) with
      | none => return .missing
      | some f => do
          let slots ← bindAll spawn fuel f f.params args
          let before := (← get).frame
          modify fun s => { s with frame := slots }
          let result ← tryCatch (do
              exec spawn fuel f.body
              return .missing) fun
            | .return v => return v
            | halt => throw halt
          modify fun s => { s with frame := before }
          return result

/-- The variables of a function that is called: tables stay what they are, and
    parameters without arguments are new. -/
def bindAll (spawn : Spawn) : Nat → Function → List String → List Expr → Work (List (String × Slot))
  | 0, _, _, _ => return []
  | _, _, [], _ => return []
  | fuel + 1, f, p :: ps, args => do
      let slot ← match args with
        | [] => if f.tables.contains p then .table <$> newTable else pure (.value .missing)
        | .var n :: _ =>
            if f.tables.contains p then .table <$> tablePlace n
            else do
              let s ← get
              match s.frame.lookup n with
              | some slot => pure slot
              | none =>
                  match s.tableNames.get? n with
                  | some place => pure (.table place)
                  | none => pure (.value (s.globals.getD n .missing))
        | e :: _ => do pure (.value (← eval spawn fuel e))
      return (p, slot) :: (← bindAll spawn fuel f ps (args.drop 1))

/-- Runs a statement. -/
def exec (spawn : Spawn) : Nat → Stmt → Work Unit
  | 0, _ => failure "program limit exceeded: eval stack size=1024"
  | fuel + 1, s => do
      match s with
      | .expr e => discard <| eval spawn fuel e
      | .print args isFormat into => do
          let values ← evalAll spawn fuel args
          let target ← match into with
            | none => pure none
            | some (op, e) => do pure (some (op, ← textOf (← eval spawn fuel e)))
          let text ←
            if isFormat then filled "printf" (emit target) values
            else if args.isEmpty then pure ((← get).record ++ (← globalText "ORS"))
            else do
              let form ← match ← global "OFMT" with
                | .text s | .both s _ => pure s
                | _ => pure "%.6g"
              pure ((← globalText "OFS").intercalate (values.map (·.toText form)) ++ (← globalText "ORS"))
          emit target text
      | .choice c yes no => do
          if (← eval spawn fuel c).isTrue then exec spawn fuel yes
          else match no with
            | some s => exec spawn fuel s
            | none => return ()
      | .loop c body after first => do
          let holds : Work Bool := match c with
            | some c => do return (← eval spawn fuel c).isTrue
            | none => return true
          let then_ : Work Unit := match after with
            | some s => exec spawn fuel s
            | none => return ()
          repeated holds (once spawn fuel body) then_ manyRounds first
      | .forIn name array body => do
          let place ← tablePlace array
          let (keys, table) := ((← get).tables.getD place .empty).keys
          onTable place fun _ => table
          untilLeft (fun key => do
            setVar name (.text key)
            once spawn fuel body) keys
      | .block ss => execAll spawn fuel ss
      | .next => throw .next
      | .nextFile => throw .nextFile
      | .exit e => do
          match e with
          | some e =>
              let n := Value.toInt (← eval spawn fuel e).toNumber
              modify fun s => { s with status := (n.emod 256).toNat }
          | none => pure ()
          throw .exit
      | .return e => do
          match e with
          | some e => throw (.return (← eval spawn fuel e))
          | none => throw (.return .missing)
      | .break => throw .break
      | .continue => throw .continue
      | .delete name keys => do
          let place ← tablePlace name
          if keys.isEmpty then onTable place fun _ => .empty
          else
            let key ← evalKey spawn fuel keys
            onTable place (·.erase key)

/-- Runs statements one after the other. -/
def execAll (spawn : Spawn) : Nat → List Stmt → Work Unit
  | 0, _ => return ()
  | _, [] => return ()
  | fuel + 1, s :: ss => do
      exec spawn fuel s
      execAll spawn fuel ss

/-- Runs the body of a loop; `false` if the loop is left. -/
def once (spawn : Spawn) : Nat → Stmt → Work Bool
  | 0, _ => return false
  | fuel + 1, body =>
      tryCatch (do
        exec spawn fuel body
        return true) fun
      | .break => return false
      | .continue => return true
      | halt => throw halt

end

/-! ## Programs. -/

/-- How deep programs may be nested. -/
def maxDepth : Nat := 6000

/-- Whether a rule is for the current record; `place` is that of the rule. -/
def applies (spawn : Spawn) (place : Nat) (p : Scope) : Work Bool := do
  match p with
  | .always => return true
  | .when e => return (← eval spawn maxDepth e).isTrue
  | .range a b => do
      let isOpen := (← get).ranges.contains place
      if isOpen || (← eval spawn maxDepth a).isTrue then
        let ends := (← eval spawn maxDepth b).isTrue
        modify fun s =>
          let others := s.ranges.filter (· != place)
          { s with ranges := if ends then others else place :: others }
        return true
      else return false
  | _ => return false

/-- Runs the rules for the current record. -/
def runRules (spawn : Spawn) : List (Rule × Nat) → Work Unit
  | [] => return ()
  | (r, place) :: rules => do
      if ← applies spawn place r.scope then
        match r.action with
        | some s => exec spawn maxDepth s
        | none => do emit none ((← get).record ++ (← globalText "ORS"))
      runRules spawn rules

/-- Runs the rules for all records. -/
def runRecords (spawn : Spawn) (rules : List (Rule × Nat)) : Nat → Work Unit
  | 0 => return ()
  | fuel + 1 => do
      match ← nextRecord manyFiles with
      | none => return ()
      | some text => do
          setRecord text
          tryCatch (runRules spawn rules) fun
            | .next => return ()
            | .nextFile => modify fun s => { s with current := none }
            | halt => throw halt
          runRecords spawn rules fuel

/-- Runs a program up to its end. -/
def runProgram (spawn : Spawn) : Work Unit := do
  let rules := (← get).program.rules
  let actions (isHere : Scope → Bool) : List Stmt := rules.filterMap fun r =>
    if isHere r.scope then r.action else none
  let begins := actions fun
    | .begin => true
    | _ => false
  let ends := actions fun
    | .finish => true
    | _ => false
  let main := rules.zipIdx.filter fun (r, _) => match r.scope with
    | .begin | .finish => false
    | _ => true
  let untilExit (x : Work Unit) : Work Bool := tryCatch (do x; return false) fun _ => return true
  let left ← untilExit (execAll spawn maxDepth begins)
  let left ← if left || (main.isEmpty && ends.isEmpty) then pure left else
    untilExit (runRecords spawn main 1000000000)
  if !(left && (← get).failed) then discard <| untilExit (execAll spawn maxDepth ends)
  for o in (← get).outlets do discard <| endOutlet spawn o

/-- The state before a program runs. -/
def State.start (p : Program) (vars : List (String × Value)) (tables : List (String × Table)) : State :=
  { program := p
    globals := Std.HashMap.ofList vars
    tables := (tables.map (·.2)).toArray
    tableNames := Std.HashMap.ofList (tables.zipIdx.map fun (t, n) => (t.1, n))
    frame := []
    record := ""
    fields := #[]
    current := none
    place := 1
    opened := false
    inlets := []
    outlets := [⟨mainName, .main, #[]⟩]
    patterns := ∅
    ranges := []
    random := .ofSeed 1
    seed := .number 0
    status := 0
    failed := false }

/-- The wording of a problem; `file` is what the program was read from. -/
def Problem.shown (p : Problem) (file : Option String) : String :=
  let place := if p.usual then "line " ++ toString p.line else toString p.line
  "awk: " ++ (file.map (· ++ ": ")).getD "" ++ place ++ ": " ++ p.message ++ "\n"

end Awk

/-- Runs a program on records. -/
def awk (spawn : Spawn) : Utility := fun args => do
  let accepted : Accepted := .of "" "Fvf" []
  let refuse (message : String) : Step Nat := do
    report ("awk: " ++ message ++ "\n")
    return 2
  match accepted.read false (args.length + 1) args with
  | .error (.unknown c) => refuse ("not an option: -" ++ String.singleton c)
  | .error (.noValue c) => refuse ("option -" ++ String.singleton c ++ " lacks argument")
  | .error e => refuse e.message
  | .ok a => do
      let mut texts : List String := []
      for path in a.values 'f' do
        match ← input path with
        | .ok text => texts := texts ++ [text]
        | .error e => return ← refuse ("cannot open \"" ++ path ++ "\" (" ++ cause e ++ ")")
      let (text, operands) := if texts.isEmpty then (a.operands.head?, a.operands.drop 1)
        else (some ("\n".intercalate texts), a.operands)
      match (a.values 'v').find? fun v => (Awk.setting? v).isNone with
      | some v => refuse ("improper assignment: -v " ++ v)
      | none =>
      match text with
      | none => do
          report "Usage: mawk [Options] [Program] [file ...]\n"
          return 2
      | some text =>
          match Awk.ofText text with
          | .error problems => do
              for p in problems do report (p.shown (a.value? 'f'))
              return 2
          | .ok p => do
              let separator := match a.value? 'F' with
                | some s => Awk.unescaped s
                | none => " "
              let given := (a.values 'v').filterMap fun v =>
                (Awk.setting? v).map fun (name, value) => (name, Awk.Value.ofInput (Awk.unescaped value))
              let vars : List (String × Awk.Value) :=
                [("FS", .text separator), ("OFS", .text " "), ("ORS", .text "\n"), ("RS", .text "\n"),
                  ("SUBSEP", .text "\x1c"), ("NR", .number 0.0), ("FNR", .number 0.0), ("NF", .number 0.0),
                  ("CONVFMT", .text "%.6g"), ("OFMT", .text "%.6g"), ("FILENAME", .text ""),
                  ("ARGC", .ofNat (operands.length + 1))] ++ given
              let env := (← get).vars.filterMap fun v =>
                if v.exported then v.value.map fun value => (v.name, value) else none
              let arguments : Awk.Table := ("awk" :: operands).zipIdx.foldl
                (fun t (arg, n) => t.set (.number (Int.ofNat n)) (Awk.Value.ofInput arg)) .empty
              let environment : Awk.Table := env.foldl
                (fun t (name, value) => t.set (.text name) (Awk.Value.ofInput value)) .empty
              let start := Awk.State.start p vars [("ARGV", arguments), ("ENVIRON", environment)]
              let (_, s) ← (Awk.runProgram spawn).run.run start
              return s.status

end GuardedCnf.Utility
