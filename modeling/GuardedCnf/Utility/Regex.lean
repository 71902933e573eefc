import GuardedCnf.Script.CharSet
import Std.Data.HashSet
/-! # Regular expressions — patterns that are looked for in a text

    A pattern may match a text from a place on in several ways, and the ways are
    in an order: an earlier alternative and a repetition that goes on come first.
    A search asks either for the first way or for the longest one; among ways of
    one length the first one tells what the groups matched. -/

namespace GuardedCnf

/-- A place between characters that a pattern asks for. -/
inductive Regex.Anchor where
  | textStart
  | textEnd
  /-- The end of the text, or before a line end there. -/
  | lastEnd
  | lineStart
  | lineEnd
  | wordStart
  | wordEnd
  /-- The start or end of a word. -/
  | wordEdge
  | noWordEdge
deriving BEq

/-- A pattern. -/
inductive Regex where
  | empty
  | char (c : Char)
  | any
  | oneOf (s : CharSet)
  | anchor (a : Regex.Anchor)
  | group (n : Nat) (r : Regex)
  /-- What a group matched, maybe in another case. -/
  | back (n : Nat) (caseless : Bool)
  | both (a b : Regex)
  | either (a b : Regex)
  /-- Repetitions, of which more come first if they are eager. -/
  | repeated (r : Regex) (least : Nat) (most : Option Nat) (eager : Bool)
  /-- The first way to match only. -/
  | atomic (r : Regex)
  /-- Whether a pattern matches at a place, or up to it. -/
  | look (ahead negated : Bool) (r : Regex)
  /-- The match begins here. -/
  | keep

namespace Regex

/-! ## Patterns. -/

/-- The characters of words. -/
def wordSet (negated : Bool) : CharSet := ⟨negated, ('_', '_') :: CharSet.classRanges "alnum"⟩

/-- The blanks. -/
def spaceSet (negated : Bool) : CharSet := ⟨negated, CharSet.classRanges "space"⟩

/-- A character, in both cases if that does not matter. -/
def literal (caseless : Bool) (c : Char) : Regex :=
  if caseless && c.isAlpha then .oneOf (CharSet.withBothCases ⟨false, [(c, c)]⟩) else .char c

/-- The pattern that matches a text only. -/
def exactly (caseless : Bool) (text : String) : Regex :=
  text.toList.foldr (fun c r => .both (literal caseless c) r) .empty

/-- How many groups a pattern has. -/
def groupCount : Regex → Nat
  | .group n r => max n r.groupCount
  | .both a b | .either a b => max a.groupCount b.groupCount
  | .repeated r _ _ _ | .atomic r | .look _ _ r => r.groupCount
  | _ => 0

/-- Whether what groups matched counts for the rest of the match. -/
def recalls : Regex → Bool
  | .back .. => true
  | .both a b | .either a b => a.recalls || b.recalls
  | .group _ r | .repeated r _ _ _ | .atomic r | .look _ _ r => r.recalls
  | _ => false

/-- Whether a pattern can only match at the beginning of a text. -/
def isBound : Regex → Bool
  | .anchor .textStart => true
  | .both a _ | .group _ a | .atomic a => a.isBound
  | .either a b => a.isBound && b.isBound
  | _ => false

/-- Whether a pattern matches no characters, wherever it matches. -/
def isPlaceOnly : Regex → Bool
  | .empty | .anchor _ | .look .. | .keep => true
  | _ => false

/-- What the first character of a match can be, if there is one in each match. -/
def starts? : Regex → Option (Char → Bool)
  | .char d => some (· == d)
  | .any => some fun _ => true
  | .oneOf s => some s.contains
  | .group _ r | .atomic r => r.starts?
  | .both a b => if a.isPlaceOnly then b.starts? else a.starts?
  | .either a b =>
      match a.starts?, b.starts? with
      | some p, some q => some fun c => p c || q c
      | _, _ => none
  | .repeated r least _ _ => if least = 0 then none else r.starts?
  | _ => none

/-! ## Places. -/

/-- What groups matched: the places where they begin and end. -/
abbrev Groups := List (Nat × Nat × Nat)

/-- How far a match got. -/
structure Place where
  pos : Nat
  groups : Groups
deriving BEq

/-- Whether a character of words is at a place. -/
def isWordAt (text : Array Char) (pos : Nat) : Bool := (text[pos]?).any (wordSet false).contains

/-- Whether the character before a place belongs to words. -/
def isWordBefore (text : Array Char) (pos : Nat) : Bool := 0 < pos && isWordAt text (pos - 1)

/-- Whether a place is one that an anchor asks for. -/
def Anchor.holds (a : Anchor) (text : Array Char) (pos : Nat) : Bool :=
  match a with
  | .textStart => pos = 0
  | .textEnd => pos = text.size
  | .lastEnd => pos = text.size || (pos + 1 = text.size && text[pos]? = some '\n')
  | .lineStart => pos = 0 || text[pos - 1]? = some '\n'
  | .lineEnd => pos = text.size || text[pos]? = some '\n'
  | .wordStart => isWordAt text pos && !isWordBefore text pos
  | .wordEnd => !isWordAt text pos && isWordBefore text pos
  | .wordEdge => isWordAt text pos != isWordBefore text pos
  | .noWordEdge => isWordAt text pos = isWordBefore text pos

/-- The places without those that are there again.  Places that differ in groups
    only are the same unless groups are recalled. -/
def distinct (recalls : Bool) (ps : List Place) : List Place :=
  match ps with
  | [] | [_] => ps
  | _ =>
      if recalls then ps.eraseDups
      else
        (ps.foldl (fun ((kept, seen) : Array Place × Std.HashSet Nat) p =>
          if seen.contains p.pos then (kept, seen) else (kept.push p, seen.insert p.pos))
          (#[], ∅)).1.toList

/-- Whether a pattern matches one character, and which ones. -/
def single? : Regex → Option (Char → Bool)
  | .char d => some (· == d)
  | .any => some fun _ => true
  | .oneOf s => some s.contains
  | _ => none

/-- How many characters of a class there are from a place on. -/
def runLength (p : Char → Bool) (text : Array Char) : Nat → Nat → Nat → Nat
  | 0, _, n => n
  | fuel + 1, pos, n =>
      if (text[pos]?).any p then runLength p text fuel (pos + 1) (n + 1) else n

/-- The places that rounds of a step lead to, at most `most` rounds.  Only the
    first round may stay where it is. -/
def rounds (step : Place → List Place) (eager recalls : Bool) :
    Nat → Bool → Option Nat → Place → StateM (Std.HashSet (Nat × Nat)) (List Place)
  | 0, _, _, p => return [p]
  | fuel + 1, isFirst, most, p => do
      if most = some 0 then return [p]
      else
        let more ← (step p).flatMapM fun q => do
          let key := (q.pos, most.getD 0)
          if q.pos = p.pos then return if isFirst then [q] else []
          else if !recalls && (← get).contains key then return []
          else
            modify (·.insert key)
            rounds step eager recalls fuel false (most.map (· - 1)) q
        return if eager then more ++ [p] else p :: more

/-- Whether two texts are the same, maybe up to the case of letters. -/
def sameText (caseless : Bool) (a b : Array Char) : Bool :=
  if caseless then a.map Char.toLower == b.map Char.toLower else a == b

/-- Where a pattern that matches from a place on can get, the first way first. -/
def ends (text : Array Char) (recalls : Bool) : Regex → Place → List Place
  | .empty, p => [p]
  | .char c, p => if text[p.pos]? = some c then [{ p with pos := p.pos + 1 }] else []
  | .any, p => if p.pos < text.size then [{ p with pos := p.pos + 1 }] else []
  | .oneOf s, p => if (text[p.pos]?).any s.contains then [{ p with pos := p.pos + 1 }] else []
  | .anchor a, p => if a.holds text p.pos then [p] else []
  | .group k r, p =>
      (ends text recalls r p).map fun q =>
        { q with groups := (k, p.pos, q.pos) :: q.groups.filter (·.1 != k) }
  | .back k caseless, p =>
      match p.groups.lookup k with
      | none => []
      | some (start, stop) =>
          let size := stop - start
          if sameText caseless (text.extract start stop) (text.extract p.pos (p.pos + size)) then
            [{ p with pos := p.pos + size }]
          else []
  | .both a b, p => distinct recalls ((ends text recalls a p).flatMap fun q => ends text recalls b q)
  | .either a b, p => distinct recalls (ends text recalls a p ++ ends text recalls b p)
  | .repeated r least most eager, p =>
      match single? r with
      | some is =>
          let size := runLength is text (min (text.size - p.pos) (most.getD text.size)) p.pos 0
          if size < least then []
          else
            let sizes := List.range' least (size + 1 - least)
            (if eager then sizes.reverse else sizes).map fun n => { p with pos := p.pos + n }
      | none =>
          let step := fun q => ends text recalls r q
          let start := (List.range least).foldl (fun ps _ => distinct recalls (ps.flatMap step)) [p]
          let further := rounds step eager recalls (text.size + 2) (least = 0) (most.map (· - least))
          distinct recalls ((start.flatMapM further).run' ∅ |>.run)
  | .atomic r, p => (ends text recalls r p).take 1
  | .look ahead negated r, p =>
      let found : Option Place :=
        if ahead then (ends text recalls r p).head?
        else (List.range (p.pos + 1)).reverse.findSome? fun start =>
          (ends text recalls r { p with pos := start }).find? (·.pos = p.pos)
      match found, negated with
      | some q, false => [{ q with pos := p.pos }]
      | none, true => [p]
      | _, _ => []
  | .keep, p => [{ p with groups := (0, p.pos, p.pos) :: p.groups.filter (·.1 != 0) }]

/-! ## Matches. -/

/-- A match: where it begins and ends, and what groups matched. -/
structure Match where
  start : Nat
  stop : Nat
  groups : Groups

/-- The first one of the longest ways. -/
def longest (ps : List Place) : Option Place :=
  ps.foldl (fun best p => match best with
    | some q => if q.pos < p.pos then some p else best
    | none => some p) none

/-- The matches that begin at a place, the first way first. -/
def matchesAt (r : Regex) (text : Array Char) (start : Nat) : List Match :=
  (ends text r.recalls r ⟨start, []⟩).map fun p =>
    ⟨((p.groups.lookup 0).map (·.1)).getD start, p.pos, p.groups⟩

/-- The longest match that begins at a place. -/
def matchAt (r : Regex) (text : Array Char) (start : Nat) : Option Match :=
  (longest (ends text r.recalls r ⟨start, []⟩)).map fun p => ⟨start, p.pos, p.groups⟩

/-- What is found first from a place on, among so many places. -/
def findFrom {α : Type} (p : Char → Bool) (text : Array Char) (f : Nat → Option α) :
    Nat → Nat → Option α
  | 0, _ => none
  | fuel + 1, start =>
      let found := if (text[start]?).all p then f start else none
      match found with
      | some a => some a
      | none => findFrom p text f fuel (start + 1)

/-- What is found first at the places where matches of a pattern can begin. -/
def findMatch {α : Type} (r : Regex) (text : Array Char) (start : Nat) (f : Nat → Option α) : Option α :=
  if r.isBound then if start = 0 then f 0 else none
  else findFrom (r.starts?.getD fun _ => true) text f (text.size + 1 - start) start

/-- The first match in a text from a place on, and the longest one there. -/
def search (r : Regex) (text : Array Char) (start : Nat) : Option Match :=
  r.findMatch text start (r.matchAt text)

/-- The first match in a text from a place on, and the first way to match there. -/
def searchFirst (r : Regex) (text : Array Char) (start : Nat) : Option Match :=
  r.findMatch text start fun n => (r.matchesAt text n).head?

/-- Whether a pattern matches somewhere in a text. -/
def isIn (r : Regex) (text : String) : Bool := (r.search text.toList.toArray 0).isSome

/-- What a group of a match is; 0 is all of it. -/
def Match.group (m : Match) (text : Array Char) (n : Nat) : String :=
  let part (start stop : Nat) : String := String.ofList (text.extract start stop).toList
  if n = 0 then part m.start m.stop
  else match m.groups.lookup n with
    | some (start, stop) => part start stop
    | none => ""

end Regex

end GuardedCnf
