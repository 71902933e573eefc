import GuardedCnf.Utility.Basic
import GuardedCnf.Utility.Regex.Plain
import GuardedCnf.Utility.Regex.Rich
/-! # Looking for patterns in lines

    A line is found if one of several patterns matches a part of it, a word or
    all of it.  Around the lines that are found others can be shown; lines that
    belong together make a group, and groups are parted from each other. -/

namespace GuardedCnf.Utility.Grep

/-! ## Patterns. -/

/-- What of a line has to match. -/
inductive Extent where
  | part
  | word
  | line

/-- What is looked for. -/
inductive Matcher where
  /-- The longest match of any of the patterns. -/
  | plain (patterns : List Regex) (extent : Extent)
  /-- The first way to match. -/
  | rich (pattern : Regex)

/-- The match that begins first, and the longest one there. -/
def best (matches_ : List Regex.Match) : Option Regex.Match :=
  matches_.foldl (fun best m => match best with
    | some b => if m.start < b.start || (m.start = b.start && b.stop < m.stop) then some m else best
    | none => some m) none

/-- The word that matches from a place on.  If the longest match is no word, shorter
    ones count unless they are empty. -/
def wordAt (r : Regex) (line : Array Char) (start : Nat) : Option Regex.Match :=
  let all := (r.matchesAt line start).mergeSort fun a b => b.stop ≤ a.stop
  let isWord (m : Regex.Match) : Bool :=
    !Regex.isWordBefore line m.start && !Regex.isWordAt line m.stop
  (all.zipIdx.find? fun (m, i) => isWord m && (i = 0 || m.start < m.stop)).map (·.1)

/-- The first match in a line from a place on. -/
def Matcher.find (m : Matcher) (line : Array Char) (start : Nat) : Option Regex.Match :=
  match m with
  | .rich r => r.searchFirst line start
  | .plain patterns extent =>
      best (patterns.filterMap fun r =>
        match extent with
        | .part => r.search line start
        | .word => r.findMatch line start (wordAt r line)
        | .line => if start = 0 then (r.matchesAt line 0).find? (·.stop = line.size) else none)

/-- The places where the matches in a line begin and end, without the empty
    ones. -/
def Matcher.spans (m : Matcher) (line : Array Char) : Nat → Nat → List (Nat × Nat)
  | 0, _ => []
  | fuel + 1, start =>
      if line.size ≤ start then []
      else match m.find line start with
        | none => []
        | some found =>
            if found.stop ≤ found.start then m.spans line fuel (max (start + 1) (found.start + 1))
            else (found.start, found.stop) :: m.spans line fuel found.stop

/-- How patterns are written. -/
inductive Kind where
  | basic
  | extended
  | fixed
  | rich
deriving BEq

/-- The repetitions at the beginning of an expression, where there is nothing to
    repeat. -/
def bareRepetitions (s : Regex.Spelling) : Nat → Bool → Regex.Plain.Reading (List String)
  | 0, _ => return []
  | fuel + 1, isStart => do
      let t := (← get).token
      let goOn (isStart : Bool) : Regex.Plain.Reading (List String) := do
        Regex.Plain.fetch s false
        bareRepetitions s fuel isStart
      let bare (name : String) : Regex.Plain.Reading (List String) := do
        let others ← goOn isStart
        return if isStart then name :: others else others
      match t with
      | .finish => return []
      | .openGroup | .bar => goOn true
      | .anchor _ => goOn isStart
      | .star => bare "*"
      | .plus => bare "+"
      | .question => bare "?"
      | .openBrace => do
          match ← Regex.Plain.readBounds s with
          | some _ => bare "\x7b...\x7d"
          | none => goOn false
      | .bracket => do
          let r ← get
          match Regex.Plain.readSet s r.rest with
          | .ok (_, rest) => do
              set { r with rest := rest }
              goOn false
          | .error _ => return []
      | _ => goOn false

/-- What is told about a pattern that can be read. -/
def warnings (s : Regex.Spelling) (text : String) : List String :=
  if !s.extended then []
  else
    let reading : Regex.Plain.Reading (List String) := do
      Regex.Plain.fetch s true
      bareRepetitions s (text.length + 1) true
    match reading.run ⟨text.toList, .finish, [], 0, []⟩ with
    | .ok names _ => names.map fun name => "warning: " ++ name ++ " at start of expression"
    | .error .. => []

/-- The patterns in texts, and what is told about them. -/
def Matcher.ofTexts (kind : Kind) (caseless : Bool) (extent : Extent) (texts : List String) :
    Except String (Matcher × List String) := do
  match kind with
  | .rich =>
      match texts with
      | [text] => do
          let text := match extent with
            | .part => text
            | .word => "(?<!\\w)(?:" ++ text ++ ")(?!\\w)"
            | .line => "^(?:" ++ text ++ ")$"
          return (.rich (← Regex.ofRichText caseless text), [])
      | _ => throw "the -P option only supports a single pattern"
  | .fixed => return (.plain (texts.map (Regex.exactly caseless)) extent, [])
  | kind =>
      let spelling : Regex.Spelling := .searching (kind == .extended) caseless
      let patterns ← texts.mapM (Regex.ofText spelling)
      if texts.any fun text => Regex.Plain.hasBareClass text.toList then
        throw Regex.Plain.bareClassMessage
      return (.plain patterns extent, texts.flatMap (warnings spelling))

/-! ## Lines. -/

/-- A line of a text. -/
structure Line where
  number : Nat
  /-- Where it begins, in bytes. -/
  offset : Nat
  text : Array Char

/-- The lines of a text, given how they end. -/
def Line.ofText (lineEnd : Char) (text : String) : List Line :=
  let (lines, open_, start) := text.toList.foldl
    (fun ((lines, current, start) : Array Line × Array Char × Nat) c =>
      if c = lineEnd then (lines.push ⟨lines.size + 1, start, current⟩, #[], start + current.size + 1)
      else (lines, current.push c, start))
    (#[], #[], 0)
  (if open_.isEmpty then lines else lines.push ⟨lines.size + 1, start, open_⟩).toList

/-- The lines that are found, at most so many. -/
def foundLines (m : Matcher) (inverted : Bool) : Option Nat → List Line → List Line
  | _, [] => []
  | some 0, _ => []
  | most, l :: ls =>
      if (m.find l.text 0).isSome != inverted then l :: foundLines m inverted (most.map (· - 1)) ls
      else foundLines m inverted most ls

/-! ## Groups. -/

/-- How many lines around those that are found are shown. -/
structure Context where
  before : Nat
  after : Nat
  /-- Whether groups are parted. -/
  parts : Bool

/-- What is shown. -/
inductive Shown where
  /-- The end of a group that another one follows. -/
  | gap
  | line (l : Line) (isFound : Bool)

/-- The lines to show, given those that are found.  The lines before the current
    one that are not shown yet are `held`, the last one first; `pending` lines are
    shown after one that was found; `apart` tells whether there are lines
    between these and the last group. -/
def Context.shown (c : Context) :
    List Line → List Line → List Line → Nat → Bool → Bool → List Shown
  | [], _, _, _, _, _ => []
  | l :: ls, found, held, pending, apart, used =>
      match found with
      | f :: found' =>
          if f.number = l.number then
            let gap := if c.parts && used && apart then [Shown.gap] else []
            gap ++ held.reverse.map (.line · false) ++ .line l true :: c.shown ls found' [] c.after false true
          else if 0 < pending then .line l false :: c.shown ls found [] (pending - 1) false used
          else c.shown ls found ((l :: held).take c.before) 0 (apart || c.before ≤ held.length) used
      | [] =>
          if 0 < pending then .line l false :: c.shown ls [] [] (pending - 1) false used else []

end GuardedCnf.Utility.Grep
