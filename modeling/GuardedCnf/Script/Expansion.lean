import GuardedCnf.Script.Brace
import GuardedCnf.Script.Running
import GuardedCnf.Script.Treatment
/-! # Expansion — from words to their fields

    The parts of a word are replaced by values, the result is cut into fields,
    and fields that are patterns are replaced by the paths that they match. -/

namespace GuardedCnf.Script

/-! ## Parameters. -/

/-- The options as a text. -/
def Shell.optionText (s : Shell) : String :=
  let letters := String.ofList ((optionNames.map (·.2)).reverse.filter s.has)
  if s.extended then letters ++ "hB" ++ (if s.isText then "c" else "") else letters

/-- The value of a parameter that the extended dialect computes. -/
def Shell.computed? (s : Shell) (name : String) : Option String :=
  match name with
  | "LINENO" => some (toString s.line)
  | "BASHPID" => some (toString s.pid)
  | "RANDOM" => some (toString (s.machine.time * 31421 % 32768))
  | "SECONDS" => some (toString (s.machine.time / 1000000))
  | "PIPESTATUS" => some (toString (s.pipeCodes.headD 0))
  | "FUNCNAME" => s.running.head?
  | "BASH_SOURCE" => s.source.or (if s.isText then none else some s.title)
  | "_" => some s.lastWord
  | _ => none

/-- The value of a parameter. -/
def Shell.parameter? (s : Shell) (name : String) : Option String :=
  match name with
  | "#" => some (toString s.params.length)
  | "?" => some (toString s.status)
  | "$" => some (toString s.scriptPid)
  | "!" => s.lastJob.map toString
  | "-" => some s.optionText
  | "0" => some s.title
  | "@" | "*" => if s.params.isEmpty then none else some (" ".intercalate s.params)
  | _ =>
      match name.toNat? with
      | some i => s.params[i - 1]?
      | none => (if s.extended then s.computed? name else none).or (s.value? name)

/-- What joins the parameters in one field. -/
def Shell.joint (s : Shell) : String :=
  match s.value? "IFS" with
  | none => " "
  | some ifs => String.ofList (ifs.toList.take 1)

/-- The items of a variable. -/
def Shell.itemsOf (s : Shell) (name : String) : List (String × String) :=
  match name with
  | "PIPESTATUS" => s.pipeCodes.zipIdx.map fun (code, n) => (toString n, toString code)
  | "FUNCNAME" => s.running.zipIdx.map fun (name, n) => (toString n, name)
  | "BASH_SOURCE" => ((s.computed? name).map fun source => ("0", source)).toList
  | _ => ((s.var? name).map (·.allItems)).getD []

/-- Whether an index stands for all items, and whether they are joined. -/
def allIndex? : Option Word → Option Bool
  | some [.char '@'] => some false
  | some [.char '*'] => some true
  | _ => none

/-- All values that a name with an index stands for, if it stands for several, and
    whether they are joined. -/
def Shell.values? (s : Shell) (name : String) (index : Option Word) : Option (Bool × List String) :=
  match name, allIndex? index with
  | "@", _ => some (false, s.params)
  | "*", _ => some (true, s.params)
  | _, some joined => some (joined, (s.itemsOf name).map (·.2))
  | _, none => none

/-- The glyphs of values. -/
def Shell.allGlyphs (s : Shell) (joined quoted : Bool) (values : List String) : List Glyph :=
  let origin : Origin := if quoted then .quotes else .value
  if quoted && joined then Glyph.ofText (s.joint.intercalate values) origin
  else [Glyph.cut].intercalate (values.map fun p =>
    (if quoted then [.mark] else []) ++ Glyph.ofText p origin)

/-- Whether a part stands for no field if there are no values. -/
def Part.isAllValues (extended : Bool) : Part → Bool
  | .param name index treatment _ _ =>
      let isPlain := match treatment with
        | .value => true
        | .length | .demand | .otherwise | .assignOtherwise | .instead => false
        | _ => extended
      isPlain && (name = "@" || allIndex? index = some false)
  | _ => false

/-! ## Parts. -/

/-- Fails if a parameter has no value although it must have one. -/
def checkSet (name : String) (value : Option String) : Step Unit := do
  if value.isNone && (← get).has 'u' && name != "@" && name != "*" then
    demand (name ++ ": parameter not set") (name ++ ": unbound variable")

/-- The value of an arithmetic expression, with its assignments. -/
def computeSum (text : String) : Step (Except Sum.Failure Int) := do
  let s ← get
  match Sum.valueOf (s.surroundings s.parameter?) text with
  | .error e => return .error e
  | .ok (n, assigned) => do
      for (place, value) in assigned.reverse do
        match place.index with
        | none => assign place.name (toString value)
        | some key => assignItem place.name key (toString value)
      return .ok n

/-- The value of an arithmetic expression. -/
def evalSum (text : String) : Step Int := do
  let failed {α : Type} (message : String) : Step α :=
    abort ("arithmetic expression: " ++ message ++ ": \"" ++ text ++ "\"")
  match ← computeSum text with
  | .ok n => return n
  | .error e => do
      if (← get).extended then giveUp "" (failureWords e)
      match e with
      | .misread _ e => failed e.portable
      | .noNumber text => abort ("Illegal number: " ++ text)
      | _ => failed "division by zero"

/-- The key of an item of a variable, given the text of the index. -/
def keyOf (name text : String) : Step String := do
  match (← get).var? name with
  | some v =>
      if v.shape = .keyed then return text
      else match v.position? (← evalSum text) with
        | some n => return toString n
        | none => giveUp "" (name ++ "[" ++ text ++ "]: bad array subscript")
  | none => return toString (← evalSum text)

/-- The value of the parameter that a text names, perhaps with an index, and whether
    the text can be a name. -/
def named (text : String) : Step (Option (List String)) := do
  let cs := text.toList
  let name := String.ofList (cs.takeWhile (· != '['))
  let s ← get
  match cs.drop name.length with
  | [] =>
      if isName name || (!name.isEmpty && name.all Char.isDigit) || (name.length = 1 && name.all isSpecial) then
        return (s.values? name none).map (·.2) <|> some (s.parameter? name).toList
      else return none
  | _ :: inner =>
      match String.ofList inner.dropLast with
      | "@" | "*" => return some ((s.itemsOf name).map (·.2))
      | index => do
          let key ← keyOf name index
          return some (((← get).itemsOf name).lookup key).toList

/-- A text without line ends at its end. -/
def dropLineEnds (text : String) : String :=
  String.ofList (text.toList.reverse.dropWhile (· = '\n')).reverse

/-- The parts of a word before and after a character. -/
def splitAt? (c : Char) : Word → Option (Word × Word)
  | [] => none
  | part :: rest =>
      let later : Option (Word × Word) :=
        (splitAt? c rest).map fun (before, after) => (part :: before, after)
      match part with
      | .char d => if c = d then some ([], rest) else later
      | _ => later

/-- Makes a stream that reads what commands write, and gives its path. -/
def feedPath (run : Run) (command : Option Command) : Step String := do
  let (text, _) ← capture run (match command with
    | some c => run ⟨false, true⟩ c
    | none => return ())
  let (reader, writer) ← onHost fun h =>
    let (reader, writer, h) := h.openPipe
    ((reader, writer), h)
  discard <| onHost fun h => h.write writer (Octets.toBytes text)
  let s ← get
  let stream := ((List.range 64).reverse.find? fun n => (s.opening? n).isNone).getD 63
  setStream stream (some reader)
  return "/dev/fd/" ++ toString stream

/-- Adds the glyphs of a part to those so far. -/
def expandPart (run : Run) : Nat → Bool → Array Glyph → Part → Step (Array Glyph)
  | 0, _, _, _ => throw .late
  | fuel + 1, quoted, sofar, part => do
      let origin : Origin := if quoted then .quotes else .value
      let expanded (quoted : Bool) (word : Word) : Step (List Glyph) := do
        return (← word.foldlM (expandPart run fuel quoted) #[]).toList
      let withText (text : String) : Step (Array Glyph) := do
        return sofar ++ (Glyph.ofText text origin).toArray
      match part with
      | .char c => return sofar.push (.char c (if quoted then .quotes else .script))
      | .exact text => return (sofar.push .mark) ++ (Glyph.ofText text .quotes).toArray
      | .quoted parts => do
          let inner ← expanded true parts
          if inner.isEmpty && parts.any (Part.isAllValues (← get).extended) then return sofar
          else return (sofar.push .mark) ++ inner.toArray
      | .items _ => return sofar
      | .feed command => do withText (← feedPath run command)
      | .output none => return sofar
      | .output (some command) => do
          let fileOf : Command → Option Word
            | .simple _ [] [] [⟨0, .read, target⟩] => some target
            | _ => none
          match if (← get).extended then fileOf command else none with
          | some target => do
              let path := Glyph.plain (← expanded false target)
              match ← readPath path with
              | .ok text => withText (dropLineEnds (String.ofList (text.toList.filter (· != '\x00'))))
              | .error e => do
                  complain (path ++ ": " ++ cause e)
                  modify fun s => { s with outputStatus := 1 }
                  return sofar
          | none => do
              let (text, ending) ← capture run (run ⟨false, true⟩ command)
              modify fun s => { s with outputStatus := ending.code }
              withText (dropLineEnds (String.ofList (text.toList.filter (· != '\x00'))))
      | .sum expression => do
          let text := Glyph.plain (← expanded true expression)
          withText (toString (← evalSum text))
      | .param name index treatment orEmpty word => do
          let several := (← get).values? name index
          let value ← match index, several with
            | some index, none => do
                let key ← keyOf name (Glyph.plain (← expanded true index))
                pure (((← get).itemsOf name).lookup key)
            | some _, some (_, values) =>
                pure (if values.isEmpty then none else some (" ".intercalate values))
            | none, _ => pure ((← get).parameter? name)
          let s ← get
          let isMissing := value.isNone || (orEmpty && value = some "")
          let withValues (joined : Bool) (values : List String) : Step (Array Glyph) := do
            return sofar ++ (s.allGlyphs joined quoted values).toArray
          let whole : Step (Array Glyph) :=
            match several with
            | some (joined, values) => withValues joined values
            | none => withText (value.getD "")
          let ofWord : Step (Array Glyph) := do
            return sofar ++ ((← expanded quoted word).map Glyph.asValue).toArray
          let mapped (f : List Char → List Char) : Step (Array Glyph) := do
            checkSet name value
            let change (text : String) : String := String.ofList (f text.toList)
            match if s.extended then several else none with
            | some (joined, values) => withValues joined (values.map change)
            | none => withText (change (value.getD ""))
          let trimmed (cut : List Glyph.Piece → List Char → List Char) : Step (Array Glyph) := do
            mapped (cut (Glyph.pattern (← expanded false word)))
          match treatment with
          | .value => do
              if !(s.extended && several.isSome) then checkSet name value
              whole
          | .length => do
              checkSet name value
              match if s.extended then several else none with
              | some (_, values) => withText (toString values.length)
              | none => withText (toString (value.getD "").length)
          | .otherwise => if isMissing then ofWord else whole
          | .instead => if isMissing then return sofar else ofWord
          | .assignOtherwise =>
              if isMissing then do
                let text := Glyph.plain (← expanded quoted word)
                if !isName name then
                  giveUp (name ++ ": bad variable name") ("$" ++ name ++ ": cannot assign in this way")
                assign name text
                withText text
              else whole
          | .demand =>
              if isMissing then do
                let message := Glyph.plain (← expanded quoted word)
                if word.isEmpty then
                  demand (name ++ ": parameter not set" ++ (if orEmpty then " or null" else ""))
                    (name ++ ": parameter " ++ (if orEmpty then "null or " else "") ++ "not set")
                else demand (name ++ ": " ++ message) (name ++ ": " ++ message)
              else whole
          | .dropStart longest => trimmed (Glyph.dropStart longest)
          | .dropEnd longest => trimmed (Glyph.dropEnd longest)
          | .letters large all => trimmed (Treatment.withLetters large all)
          | .replace everywhere anchor => do
              let (before, after) := (splitAt? '/' word).getD (word, [])
              let pattern := Glyph.pattern (← expanded false before)
              let replacement := Treatment.replacementOf (← expanded false after)
              mapped (Treatment.replaced pattern replacement everywhere anchor)
          | .form letter => if value.isNone then return sofar else mapped fun cs => (Treatment.formed letter (String.ofList cs)).toList
          | .slice => do
              checkSet name value
              let (before, after) : Word × Option Word := match splitAt? ':' word with
                | some (before, after) => (before, some after)
                | none => (word, none)
              let number (word : Word) : Step Int := do evalSum (Glyph.plain (← expanded true word))
              let start ← number before
              let length ← match after with
                | some word => do pure (some (← number word))
                | none => pure none
              let negative {α : Type} : Step α := do
                giveUp "" (Glyph.plain (← expanded true (after.getD [])) ++ ": substring expression < 0")
              match several with
              | none =>
                  match Treatment.slice? (value.getD "").toList start length with
                  | some cs => withText (String.ofList cs)
                  | none => negative
              | some (joined, values) =>
                  let isParams := name = "@" || name = "*"
                  let values := if isParams then s.title :: values else values
                  let start := if isParams && start < 0 && (values.length : Int) + start < 1 then
                    (values.length : Int) else start
                  match Treatment.slice? values start length with
                  | some values => withValues joined values
                  | none => negative
          | .indirect => do
              match value with
              | none => giveUp "" (name ++ ": invalid indirect expansion")
              | some text =>
                  match ← named text with
                  | some values => withValues false values
                  | none => giveUp "" (text ++ ": invalid variable name")
          | .keys => withValues ((several.map (·.1)).getD false) ((s.itemsOf name).map (·.1))
          | .bad text => giveUp "Bad substitution" (text ++ ": bad substitution")

/-! ## Words. -/

/-- How deep words may be nested. -/
def wordDepth : Nat := 1000

/-- The glyphs of a word. -/
def glyphs (run : Run) (quoted : Bool) (word : Word) : Step (List Glyph) := do
  return (← word.foldlM (expandPart run wordDepth quoted) #[]).toList

/-- The home folder of a user, or of the current one. -/
def Shell.homeOf? (s : Shell) (user : String) : Option String :=
  if user.isEmpty then s.value? "HOME" else if user = "root" then some "/root" else none

/-- The name after `~`, up to a slash or, in a setting, a colon; `none` if a part
    of it has quotes. -/
def userName? (setting : Bool) : Word → Option (List Char)
  | [] => some []
  | .char c :: rest =>
      if c = '/' || (setting && c = ':') then some []
      else (userName? setting rest).map (c :: ·)
  | _ => none

/-- A word where `~` with the name of a user is replaced by the home folder: where
    it may stand, and without the parts of a name that was replaced. -/
def replaceHomes (s : Shell) (setting : Bool) : (here : Bool) → (skipped : Nat) → Word → Word
  | _, _, [] => []
  | here, skipped + 1, _ :: rest => replaceHomes s setting here skipped rest
  | here, 0, part :: rest =>
      match here, part with
      | true, .char '~' =>
          match userName? setting rest with
          | some user =>
              match s.homeOf? (String.ofList user) with
              | some home => .exact home :: replaceHomes s setting false user.length rest
              | none => part :: replaceHomes s setting false 0 rest
          | none => part :: replaceHomes s setting false 0 rest
      | _, .char ':' => part :: replaceHomes s setting setting 0 rest
      | _, part => part :: replaceHomes s setting false 0 rest

/-- A word where `~` at its beginning, or after a colon in a setting, is replaced by
    the home folder. -/
def withHome (s : Shell) (setting : Bool) (word : Word) : Word :=
  replaceHomes s setting true 0 word

/-- The text of a word that is one field. -/
def textOf (run : Run) (word : Word) : Step String := do
  return Glyph.plain (← glyphs run false (withHome (← get) false word))

/-- The pattern of a word. -/
def patternOf (run : Run) (word : Word) : Step (List Glyph.Piece) := do
  return Glyph.pattern (← glyphs run false (withHome (← get) false word))

/-- The text of a here redirection. -/
def hereText (run : Run) (word : Word) : Step String := do
  return Glyph.plain (← glyphs run true word)

/-! ## Paths. -/

/-- Whether a name begins with a dot. -/
def isHidden (name : String) : Bool := name.startsWith "."

/-- The paths that match the parts of a pattern, after a path so far. -/
def matchingPaths (s : Shell) : List (List Glyph) → String → List String
  | [], path => [path]
  | part :: rest, path =>
      let isLast := rest.isEmpty
      let pattern := Glyph.pattern part
      let exists_ (path : String) : Bool :=
        match s.machine.host.tree.find s.nodeOf? isLast s.folder path with
        | .ok (.node _) => true
        | _ => false
      let goOn (name : String) : List String :=
        let next := path ++ name
        if isLast then if exists_ next then [next] else []
        else if name = "" || exists_ next then matchingPaths s rest (next ++ "/") else []
      if !Glyph.isWild pattern then goOn (Glyph.plain part)
      else
        let folder := if path.isEmpty then "." else path
        match s.machine.host.tree.find s.nodeOf? true s.folder folder with
        | .ok (.node id) =>
            let names := "." :: ".." :: (s.machine.host.tree.entries id).map (·.1)
            let starts := (Glyph.plain part).startsWith "."
            let found := names.filter fun name =>
              (starts || !isHidden name) && Glyph.isMatch pattern name.toList
            (found.mergeSort fun a b => a ≤ b).flatMap goOn
        | _ => []

/-- The parts of a path of glyphs. -/
def pathParts : List Glyph → List (List Glyph)
  | [] => [[]]
  | g :: gs =>
      match g, pathParts gs with
      | .char '/' _, parts => [] :: parts
      | g, p :: ps => (g :: p) :: ps
      | g, [] => [[g]]

/-- The paths that a field stands for, or its text if there are none. -/
def pathsOf (s : Shell) (field : List Glyph) : List String :=
  if s.has 'f' || !Glyph.isWild (Glyph.pattern field) then [Glyph.plain field]
  else
    match matchingPaths s (pathParts field) "" with
    | [] => if s.choices.contains "nullglob" then [] else [Glyph.plain field]
    | paths => paths

/-- The fields of words. -/
def fieldsOf (run : Run) (words : List Word) : Step (List String) := do
  let mut all := #[]
  let words := if (← get).extended then words.flatMap Brace.expand else words
  for word in words do
    let gs ← glyphs run false (withHome (← get) false word)
    let s ← get
    for field in Glyph.fields s.separators gs do
      all := all ++ (pathsOf s field).toArray
  return all.toList

end GuardedCnf.Script
