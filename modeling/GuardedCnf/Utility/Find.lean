import GuardedCnf.Script.Glyph
import GuardedCnf.Utility.Listing
/-! # Searching for files — conditions on what is below a folder

    A condition is made of tests and actions; an action is a condition that holds.
    Every path below the places where the search starts is checked, a folder
    before what is in it unless wanted otherwise. -/

namespace GuardedCnf.Utility

open Script

/-- A condition on a path. -/
inductive Query where
  | always
  | named (pattern : String) (anyCase : Bool)
  | at_ (pattern : String)
  | kinds (letters : List Char)
  | isEmpty
  /-- Whether the size in units is less than, equal to or greater than a number. -/
  | sized (order : Ordering) (count unit : Nat)
  | changed (order : Ordering)
  | not_ (q : Query)
  | both (p q : Query)
  | either (p q : Query)
  | print (ending : String)
  | printf (format : String)
  | delete
  | exec (words : List String)
  /-- Runs a program once for all paths. -/
  | execAll (words : List String)
  /-- Does not go below a folder. -/
  | prune
  | quit

namespace Query

/-- Whether a condition does more than test. -/
def acts : Query → Bool
  | .print _ | .printf _ | .delete | .exec _ | .execAll _ | .quit => true
  | .not_ q => q.acts
  | .both p q | .either p q => p.acts || q.acts
  | _ => false

/-- Whether a condition removes files, so that folders come last. -/
def deletes : Query → Bool
  | .delete => true
  | .not_ q => q.deletes
  | .both p q | .either p q => p.deletes || q.deletes
  | _ => false

/-! ## Reading. -/

/-- The words up to the end of a command. -/
def commandWords : List String → Option (List String × Bool × List String)
  | [] => none
  | ";" :: rest => some ([], false, rest)
  | "\x7b\x7d" :: "+" :: rest => some ([], true, rest)
  | word :: rest => (commandWords rest).map fun (words, all, rest) => (word :: words, all, rest)

/-- The order and the number that an argument asks for. -/
def readOrder (cs : List Char) : Ordering × List Char :=
  match cs with
  | '+' :: cs => (.gt, cs)
  | '-' :: cs => (.lt, cs)
  | cs => (.eq, cs)

/-- The condition on the size of a file. -/
def readSize (text : String) : Option Query :=
  let (order, cs) := readOrder text.toList
  let ds := cs.takeWhile Char.isDigit
  let unit : Option Nat := match cs.drop ds.length with
    | [] | ['b'] => some 512
    | ['c'] => some 1
    | ['w'] => some 2
    | ['k'] => some 1024
    | ['M'] => some 1048576
    | ['G'] => some 1073741824
    | _ => none
  match natural? (String.ofList ds), unit with
  | some n, some unit => some (.sized order n unit)
  | _, _ => none

/-- Reads a test or an action after its name. -/
def readTest (name : String) (args : List String) : Except String (Query × List String) :=
  let flag (q : Query) : Except String (Query × List String) := .ok (q, args)
  let valued (f : String → Except String Query) : Except String (Query × List String) :=
    match args with
    | [] => .error ("missing argument to \x60" ++ name ++ "'")
    | arg :: rest => (f arg).map (·, rest)
  match name with
  | "-true" | "-depth" | "-d" | "-xdev" | "-mount" | "-daystart" | "-follow" | "-noleaf" => flag .always
  | "-false" => flag (.not_ .always)
  | "-maxdepth" | "-mindepth" => valued fun arg =>
      if (natural? arg).isSome then .ok .always
      else .error ("Expected a positive decimal integer argument to " ++ name ++ ", but got " ++ inQuotes arg)
  | "-name" => valued fun arg => .ok (.named arg false)
  | "-iname" => valued fun arg => .ok (.named arg true)
  | "-path" | "-wholename" => valued fun arg => .ok (.at_ arg)
  | "-type" => valued fun arg =>
      let letters := arg.toList.filter (· != ',')
      match letters.find? fun c => ! ['f', 'd', 'l', 'b', 'c', 'p', 's'].contains c with
      | some c => .error ("Unknown argument to -type: " ++ String.singleton c)
      | none => .ok (.kinds letters)
  | "-empty" => flag .isEmpty
  | "-size" => valued fun arg =>
      match readSize arg with
      | some q => .ok q
      | none => .error ("invalid -size type \x60" ++ arg ++ "'")
  | "-newer" | "-anewer" | "-cnewer" => valued fun _ => .ok (.not_ .always)
  | "-mtime" | "-atime" | "-ctime" | "-mmin" | "-amin" | "-cmin" => valued fun arg =>
      .ok (.changed (readOrder arg.toList).1)
  | "-perm" | "-user" | "-group" => valued fun _ => .ok .always
  | "-print" => flag (.print "\n")
  | "-print0" => flag (.print "\x00")
  | "-printf" => valued fun arg => .ok (.printf arg)
  | "-delete" => flag .delete
  | "-prune" => flag .prune
  | "-quit" => flag .quit
  | "-readable" | "-writable" => flag .always
  | "-exec" | "-execdir" | "-ok" =>
      match commandWords args with
      | some ([], false, _) | none => .error ("missing argument to \x60" ++ name ++ "'")
      | some (words, all, rest) => .ok (if all then .execAll words else .exec words, rest)
  | name => .error ("unknown predicate \x60" ++ name ++ "'")

mutual

/-- Reads a condition without operators between its parts. -/
def readOne : Nat → List String → Except String (Query × List String)
  | 0, _ | _, [] => .error "expected an expression"
  | fuel + 1, word :: rest =>
      if word = "!" || word = "-not" then
        if rest.isEmpty then .error ("expected an expression after " ++ inQuotes word)
        else do
          let (q, rest) ← readOne fuel rest
          return (.not_ q, rest)
      else if word = "(" then do
        let (q, rest) ← readEither fuel rest
        match rest with
        | ")" :: rest => return (q, rest)
        | _ => throw "invalid expression; I was expecting to find a ')' somewhere but did not see one."
      else if word = ")" then .error "you have too many ')'"
      else if word = "-o" || word = "-or" || word = "-a" || word = "-and" then
        .error ("invalid expression; you have used a binary operator " ++ inQuotes word
          ++ " with nothing before it.")
      else if word.startsWith "-" then readTest word rest
      else .error ("paths must precede expression: \x60" ++ word ++ "'")

/-- Reads conditions that all have to hold. -/
def readBoth : Nat → List String → Except String (Query × List String)
  | 0, _ => .error "expected an expression"
  | fuel + 1, words => do
      let (p, rest) ← readOne fuel words
      match rest with
      | [] | ")" :: _ | "-o" :: _ | "-or" :: _ => return (p, rest)
      | word :: more => do
          let (q, rest) ← readBoth fuel (if word = "-a" || word = "-and" then more else rest)
          return (.both p q, rest)

/-- Reads conditions of which one has to hold. -/
def readEither : Nat → List String → Except String (Query × List String)
  | 0, _ => .error "expected an expression"
  | fuel + 1, words => do
      let (p, rest) ← readBoth fuel words
      match rest with
      | "-o" :: more | "-or" :: more => do
          let (q, rest) ← readEither fuel more
          return (.either p q, rest)
      | _ => return (p, rest)

end

/-- Reads a condition; without words it always holds. -/
def ofWords (words : List String) : Except String Query :=
  if words.isEmpty then .ok .always
  else do
    let (q, rest) ← readEither (4 * words.length + 4) words
    match rest with
    | [] => return q
    | ")" :: _ => throw "you have too many ')'"
    | _ => throw "paths must precede expression"

end Query

/-! ## Searching. -/

/-- A search that is going on. -/
structure Search where
  /-- The paths for programs that run once for all paths. -/
  gathered : List (List String × String)
  /-- Whether the current folder is left out. -/
  pruned : Bool
  /-- Whether the search has been called off. -/
  quit : Bool
  status : Nat

/-- A step of a search. -/
abbrev Searching := StateT Search Step

/-- Whether a node is of one of some kinds. -/
def isOfKind (n : Node) (letters : List Char) : Bool :=
  letters.any fun c => match c, n with
    | 'f', .file .. | 'f', .program _ | 'd', .folder .. | 'l', .link _ | 'l', .stream _ | 'c', .device _
    | 'p', .pipe .. => true
    | _, _ => false

/-- Replaces the mark for a path in words. -/
def withPath (path : String) (words : List String) : List String :=
  words.map fun word => path.intercalate (word.splitOn "\x7b\x7d")

/-- What a letter of a format stands for in a search. -/
def foundFact (t : Tree) (seconds : Int) (path : String) (id : NodeId) : List Char → String
  | '%' :: 'p' :: cs => path ++ foundFact t seconds path id cs
  | '%' :: 'f' :: cs => baseName path ++ foundFact t seconds path id cs
  | '%' :: 'h' :: cs => (splitPath path).1 ++ foundFact t seconds path id cs
  | '%' :: 'm' :: cs => modeDigits (t.node id) ++ foundFact t seconds path id cs
  | '%' :: 'y' :: cs =>
      String.singleton (if t.isFolder id then 'd' else 'f') ++ foundFact t seconds path id cs
  | '%' :: 's' :: cs => toString (sizeOf (t.node id)) ++ foundFact t seconds path id cs
  | '%' :: '%' :: cs => "%" ++ foundFact t seconds path id cs
  | c :: cs => String.singleton c ++ foundFact t seconds path id cs
  | [] => ""

/-- Removes what a path leads to. -/
def deleteAt (path : String) (id : NodeId) : Searching Bool := do
  let t := (← host).tree
  let refused (e : FileError) : Searching Bool := do
    warn "find" ("cannot delete " ++ inQuotes path ++ ": " ++ cause e)
    modify fun s => { s with status := 1 }
    return false
  if baseName path = "." then return true
  else if t.isFolder id && !(t.entries id).isEmpty then refused .notEmpty
  else match ← entryOf path with
    | .error e => refused e
    | .ok (folder, name) => do
        onTree fun t => t.unbind folder name
        return true

/-- Runs a program for a search, and tells whether it succeeds. -/
def runFound (spawn : Spawn) (words : List String) : Searching Bool := do
  match ← spawn words with
  | .ok none => throw .late
  | .ok (some ending) => return ending.code = 0
  | .error e => do
      warn "find" (inQuotes (words.headD "") ++ ": " ++ cause e)
      return false

/-- Whether a condition holds, after its actions. -/
def Query.holds (spawn : Spawn) (path : String) (id : NodeId) : Query → Searching Bool
  | .always => return true
  | .named pattern anyCase => do
      let name := baseName path
      return if anyCase then Glyph.matchesText pattern.toLower name.toLower else Glyph.matchesText pattern name
  | .at_ pattern => return Glyph.matchesText pattern path
  | .kinds letters => return isOfKind ((← host).tree.node id) letters
  | .isEmpty => do
      let t := (← host).tree
      return match t.node id with
        | .file bytes _ => bytes.isEmpty
        | .folder _ entries => entries.isEmpty
        | _ => false
  | .sized order count unit => do
      let size := sizeOf ((← host).tree.node id)
      return compare ((size + unit - 1) / unit) count == order
  | .changed order => return order == .lt
  | .not_ q => return !(← q.holds spawn path id)
  | .both p q => do
      if ← p.holds spawn path id then q.holds spawn path id else return false
  | .either p q => do
      if ← p.holds spawn path id then return true else q.holds spawn path id
  | .print ending => do
      discard <| output "find" (path ++ ending) 0
      return true
  | .printf format => do
      let h ← host
      let format := (Printing.unescaped format).1
      discard <| output "find" (foundFact h.tree (h.date.fdiv 1000) path id format.toList) 0
      return true
  | .delete => deleteAt path id
  | .exec words => runFound spawn (withPath path words)
  | .execAll words => do
      modify fun s => { s with gathered := s.gathered ++ [(words, path)] }
      return true
  | .prune => do
      modify fun s => { s with pruned := true }
      return true
  | .quit => do
      modify fun s => { s with quit := true }
      return true

/-- Searches from a path on, at a depth between two bounds. -/
def searchFrom (spawn : Spawn) (q : Query) (last : Bool) (least most : Nat) :
    Nat → Nat → String → NodeId → Searching Unit
  | 0, _, _, _ => return ()
  | fuel + 1, depth, path, id => do
      if (← get).quit then return ()
      let check : Searching Unit := do
        if least ≤ depth then discard <| q.holds spawn path id
      if !last then check
      let pruned := (← get).pruned
      modify fun s => { s with pruned := false }
      if depth < most && !pruned then
        for (name, inner) in (← host).tree.entries id do
          searchFrom spawn q last least most fuel (depth + 1) (inFolder path name) inner
      if last && !(← get).quit then check

/-- The natural number after a word, the last one if there are more. -/
def numberAfter (word : String) (default : Nat) (words : List String) : Nat :=
  ((words.zip (words.drop 1)).reverse.findSome? fun (w, n) =>
    if w = word then natural? n else none).getD default

/-- Searches for files below places. -/
def findFiles (spawn : Spawn) : Utility := fun args => do
  let args := args.dropWhile fun arg => ["-H", "-L", "-P"].contains arg
  let starts := args.takeWhile fun arg => !arg.startsWith "-" && ! ["!", "(", ")"].contains arg
  let words := args.drop starts.length
  match Query.ofWords words with
  | .error message => do
      warn "find" message
      let patterns := ["-name", "-iname", "-path", "-wholename"]
      match words.reverse with
      | extra :: _ :: word :: _ =>
          if patterns.contains word && message = "paths must precede expression: \x60" ++ extra ++ "'" then
            warn "find" ("possible unquoted pattern after predicate \x60" ++ word ++ "'?")
      | _ => pure ()
      return 1
  | .ok q => do
      let q := if q.acts then q else .both q (.print "\n")
      let last := q.deletes || words.contains "-depth"
      let search : Searching Unit := do
        for start in (if starts.isEmpty then ["."] else starts) do
          match ← nodeOf false start with
          | .error e => do
              warn "find" (inQuotes start ++ ": " ++ cause e)
              modify fun s => { s with status := 1 }
          | .ok id =>
              searchFrom spawn q last (numberAfter "-mindepth" 0 words) (numberAfter "-maxdepth" 1000 words)
                1000 0 start id
        let gathered := (← get).gathered
        for command in (gathered.map (·.1)).eraseDups do
          let paths := (gathered.filter (·.1 = command)).map (·.2)
          if !(← runFound spawn (command ++ paths)) then modify fun s => { s with status := 1 }
      let (_, s) ← search.run ⟨[], false, false, 0⟩
      return s.status

end GuardedCnf.Utility
