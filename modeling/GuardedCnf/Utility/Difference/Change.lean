import Std.Data.HashMap
import GuardedCnf.Utility.Difference.Match
/-! # Changes — what turns the lines of one text into those of another

    Lines that both texts begin and end with are put aside, and so are lines that
    the other text has not at all, or so often that they tell little.  Of the rest as
    many as possible are kept.  A run of changed lines that could as well be a bit
    further on goes as far as it can, or where it faces a run in the other text. -/

namespace GuardedCnf.Utility.Difference

/-- A change: the lines before it in both texts, and how many lines go and come. -/
structure Change where
  oldStart : Nat
  newStart : Nat
  removed : Nat
  added : Nat

/-! ## Lines that tell little. -/

/-- Whether a line takes part: it does, it matches nothing, or it matches too much. -/
inductive Role where
  | kept
  | lonely
  | frequent
deriving BEq

/-- About the square root of a number. -/
def rootOf (n : Nat) : Nat := Nat.pow 2 (n.log2 / 2)

/-- Roles without frequent lines up to where three lonely ones follow each other, or
    one stands far enough from the beginning; `n` is the place and `row` how many
    lonely ones came just before. -/
def cancelHead : Nat → Nat → List Role → List Role
  | _, _, [] => []
  | n, row, role :: roles =>
      match role with
      | .lonely => if 8 ≤ n || row = 2 then role :: roles else role :: cancelHead (n + 1) (row + 1) roles
      | _ => .kept :: cancelHead (n + 1) 0 roles

/-- The roles in a run of lines that are not kept, of which the frequent ones are put
    aside only if they are few and scattered. -/
def settleRun (roles : List Role) : List Role :=
  let isFrequent (r : Role) : Bool := r == .frequent
  let keep (roles : List Role) : List Role := roles.map fun r => if r == .frequent then .kept else r
  let head := roles.takeWhile isFrequent
  let rest := roles.drop head.length
  let tail := rest.reverse.takeWhile isFrequent
  let run := rest.take (rest.length - tail.length)
  let settled :=
    if run.length < (run.filter isFrequent).length * 4 then keep run
    else
      let most := rootOf (run.length / 4)
      let groups := run.splitBy fun a b => isFrequent a = isFrequent b
      let scattered := groups.flatMap fun g => if g.head?.any isFrequent && most < g.length then keep g else g
      (cancelHead 0 0 (cancelHead 0 0 scattered).reverse).reverse
  keep head ++ settled ++ keep tail

/-- How often each line is in a text. -/
def counts (lines : Array Nat) : Std.HashMap Nat Nat :=
  lines.foldl (fun counts line => counts.insert line (counts.getD line 0 + 1)) ∅

/-- The roles of the lines of a text, given those of the other one. -/
def roles (lines other : Array Nat) : List Role :=
  let counts := counts other
  let many := 5 * rootOf (lines.size / 64)
  let role (line : Nat) : Role :=
    let n := counts.getD line 0
    if n = 0 then .lonely else if many < n then .frequent else .kept
  let runs := (lines.toList.map role).splitBy fun a b => (a == .kept) = (b == .kept)
  runs.flatMap fun run => if run.head? == some .kept then run else settleRun run

/-! ## Runs of changed lines. -/

/-- The beginning of the run of marks that ends before a place. -/
def runStart (marks : Array Bool) : Nat → Nat
  | 0 => 0
  | k + 1 => if marks.getD k false then runStart marks k else k + 1

/-- The end of the run of marks that begins at a place. -/
def runEnd (marks : Array Bool) (k : Nat) : Nat :=
  if h : k < marks.size then if marks[k] then runEnd marks (k + 1) else k else k
termination_by marks.size - k

/-- The last place without a mark before a place. -/
def unmarkedBefore (marks : Array Bool) : Nat → Nat
  | 0 => 0
  | k + 1 => if marks.getD k false then unmarkedBefore marks k else k

/-- A run of changed lines that moves: the marks of changed lines, where it begins and
    ends, where its end is in the other text, and where its end last faced a run
    there. -/
structure Shift where
  marks : Array Bool
  start : Nat
  stop : Nat
  facing : Nat
  faced : Option Nat

namespace Shift

/-- Moves a run back by a line, and what is before the run in the other text. -/
def stepBack (other : Array Bool) (s : Shift) : Shift :=
  { s with
    marks := (s.marks.setIfInBounds (s.start - 1) true).setIfInBounds (s.stop - 1) false
    start := s.start - 1
    stop := s.stop - 1
    facing := unmarkedBefore other s.facing }

/-- Moves a run back as long as the line before it is the same as its last one. -/
def back (lines : Array Nat) (other : Array Bool) : Nat → Shift → Shift
  | 0, s => s
  | fuel + 1, s =>
      if 0 < s.start && lines[s.start - 1]? == lines[s.stop - 1]? then
        let s := s.stepBack other
        back lines other fuel { s with start := runStart s.marks s.start }
      else s

/-- Moves a run on as long as the line after it is the same as its first one. -/
def forward (lines : Array Nat) (other : Array Bool) : Nat → Shift → Shift
  | 0, s => s
  | fuel + 1, s =>
      if s.stop < lines.size && lines[s.start]? == lines[s.stop]? then
        let marks := (s.marks.setIfInBounds s.start false).setIfInBounds s.stop true
        let stop := runEnd marks (s.stop + 1)
        let facing := runEnd other (s.facing + 1)
        forward lines other fuel
          { marks := marks, start := s.start + 1, stop := stop, facing := facing
            faced := if facing = s.facing + 1 then s.faced else some stop }
      else s

/-- Moves a run back to where it faced a run in the other text. -/
def faceBack (other : Array Bool) : Nat → Shift → Shift
  | 0, s => s
  | fuel + 1, s => if s.faced.any (· < s.stop) then faceBack other fuel (s.stepBack other) else s

/-- Moves a run back and on until it grows no more, and to where it faced a run. -/
def settle (lines : Array Nat) (other : Array Bool) : Nat → Shift → Shift
  | 0, s => s
  | fuel + 1, s =>
      let size := s.stop - s.start
      let s := s.back lines other (lines.size + 1)
      let s := { s with faced := if 0 < s.facing && other.getD (s.facing - 1) false then some s.stop else none }
      let s := s.forward lines other (lines.size + 1)
      if size = s.stop - s.start then s.faceBack other (lines.size + 1) else settle lines other fuel s

end Shift

/-- The marks of changed lines after all runs from a place on moved; `facing` is the
    place in the other text. -/
def shifted (lines : Array Nat) (other : Array Bool) : Nat → Nat → Nat → Array Bool → Array Bool
  | 0, _, _, marks => marks
  | fuel + 1, place, facing, marks =>
      if lines.size ≤ place then marks
      else if !marks.getD place false then
        shifted lines other fuel (place + 1) (runEnd other facing + 1) marks
      else
        let s : Shift := ⟨marks, place, runEnd marks (place + 1), runEnd other facing, none⟩
        let s := s.settle lines other (lines.size + 1)
        shifted lines other fuel s.stop s.facing s.marks

/-! ## Changes. -/

/-- The marks of places. -/
def marksOf (size : Nat) (places : List Nat) : Array Bool :=
  places.foldl (fun marks place => marks.setIfInBounds place true) (Array.replicate size false)

/-- The marks of changed lines in two texts, as they are found. -/
def foundMarks (minimal : Bool) (old new : Array Nat) : Array Bool × Array Bool :=
  let (oldRoles, newRoles) := (roles old new, roles new old)
  let kept (roles : List Role) : Array Nat :=
    (roles.zipIdx.filterMap fun (r, i) => if minimal || r == .kept then some i else none).toArray
  let (oldKept, newKept) := (kept oldRoles, kept newRoles)
  let pick (lines kept : Array Nat) : Array Nat := kept.map fun i => lines.getD i 0
  let edits := (Pair.mk (pick old oldKept) (pick new newKept)).edits
  let marks (roles : List Role) (kept : Array Nat) (places : List Nat) : Array Bool :=
    let aside := roles.zipIdx.filterMap fun (r, i) => if minimal || r == .kept then none else some i
    marksOf roles.length (aside ++ places.map fun i => kept.getD i 0)
  (marks oldRoles oldKept edits.old, marks newRoles newKept edits.new)

/-- The changes that marks tell, from two places on. -/
def changesFrom (old new : Array Bool) : Nat → Nat → Nat → List Change
  | 0, _, _ => []
  | fuel + 1, i, j =>
      if old.size ≤ i && new.size ≤ j then []
      else
        let (m, n) := (runEnd old i, runEnd new j)
        if m = i && n = j then changesFrom old new fuel (i + 1) (j + 1)
        else ⟨i, j, m - i, n - j⟩ :: changesFrom old new fuel m n

/-- The numbers of keys: the same for the same ones. -/
def numbered (keys : List String) (known : Std.HashMap String Nat) : Array Nat × Std.HashMap String Nat :=
  keys.foldl (fun ((numbers, known) : Array Nat × Std.HashMap String Nat) key =>
    match known[key]? with
    | some n => (numbers.push n, known)
    | none => (numbers.push known.size, known.insert key known.size)) (#[], known)

/-- How many elements two lists have in common at the beginning. -/
def commonHead : List String → List String → Nat
  | x :: xs, y :: ys => if x = y then commonHead xs ys + 1 else 0
  | _, _ => 0

/-- The changes from some lines to others, given by what they are compared by.  The
    lines at the beginning and end that are the same in both texts are looked at only
    up to a distance `horizon` from others. -/
def changes (minimal : Bool) (horizon : Nat) (key : String → String) (xs ys : List String) : List Change :=
  let before := commonHead xs ys - horizon
  let (xs, ys) := (xs.drop before, ys.drop before)
  let after := commonHead xs.reverse ys.reverse - horizon
  let (xs, ys) := (xs.take (xs.length - after), ys.take (ys.length - after))
  let (old, known) := numbered (xs.map key) ∅
  let (new, _) := numbered (ys.map key) known
  let (oldMarks, newMarks) := foundMarks minimal old new
  let oldMarks := shifted old newMarks (2 * old.size + 2) 0 0 oldMarks
  let newMarks := shifted new oldMarks (2 * new.size + 2) 0 0 newMarks
  (changesFrom oldMarks newMarks (old.size + new.size + 1) 0 0).map fun c =>
    { c with oldStart := c.oldStart + before, newStart := c.newStart + before }

end GuardedCnf.Utility.Difference
