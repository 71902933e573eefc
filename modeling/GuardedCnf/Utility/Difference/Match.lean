/-! # Matches of sequences — which elements two sequences have in common

    Elements are numbers.  A shortest way from one sequence to the other, which
    leaves out elements of the first one and puts in elements of the second one, is
    looked for from both ends at once; where the searches meet, the sequences are
    split.  The diagonal `d` holds the pairs of places `x` and `x - d`. -/

namespace GuardedCnf.Utility.Difference

/-- Two sequences. -/
structure Pair where
  old : Array Nat
  new : Array Nat

namespace Pair

/-- Whether the elements at two places are the same. -/
def same (p : Pair) (x y : Int) : Bool :=
  0 ≤ x && 0 ≤ y && (p.old[x.toNat]?).isSome && p.old[x.toNat]? == p.new[y.toNat]?

/-- A part of both sequences. -/
structure Part where
  oldStart : Int
  oldEnd : Int
  newStart : Int
  newEnd : Int

/-- How far elements at a place and after it are the same, up to the end of a part. -/
def slideDown (p : Pair) (r : Part) : Nat → Int → Int → Int
  | 0, x, _ => x
  | fuel + 1, x, y =>
      if x < r.oldEnd && y < r.newEnd && p.same x y then p.slideDown r fuel (x + 1) (y + 1) else x

/-- How far elements before a place are the same, up to the beginning of a part. -/
def slideUp (p : Pair) (r : Part) : Nat → Int → Int → Int
  | 0, x, _ => x
  | fuel + 1, x, y =>
      if r.oldStart < x && r.newStart < y && p.same (x - 1) (y - 1) then p.slideUp r fuel (x - 1) (y - 1) else x

/-- How far the search from one end got on each diagonal, and which diagonals there
    are. -/
structure Front where
  reach : Array Int
  low : Int
  high : Int

/-- The place of a diagonal in a table. -/
def slot (p : Pair) (d : Int) : Nat := (d + p.new.size + 1).toNat

/-- How far a search got on a diagonal. -/
def Front.at_ (f : Front) (p : Pair) (d : Int) : Int := f.reach.getD (p.slot d) 0

/-- A search with how far it got on a diagonal. -/
def Front.put (f : Front) (p : Pair) (d x : Int) : Front :=
  { f with reach := f.reach.setIfInBounds (p.slot d) x }

/-- A search with one diagonal more at each side if there is one; `beyond` is a reach
    that is worse than any. -/
def Front.widen (f : Front) (p : Pair) (r : Part) (beyond : Int) : Front :=
  let least := r.oldStart - r.newEnd
  let most := r.oldEnd - r.newStart
  let f := if least < f.low then { f.put p (f.low - 2) beyond with low := f.low - 1 } else { f with low := f.low + 1 }
  if f.high < most then { f.put p (f.high + 2) beyond with high := f.high + 1 } else { f with high := f.high - 1 }

/-- Goes one change further from the beginning, on the diagonals from `d` down; ends
    with a place where the other search was. -/
def advance (p : Pair) (r : Part) (fuel : Nat) (meets : Int → Int → Bool) :
    Nat → Int → Front → Front × Option (Int × Int)
  | 0, _, f => (f, none)
  | n + 1, d, f =>
      if d < f.low then (f, none)
      else
        let (before, after) := (f.at_ p (d - 1), f.at_ p (d + 1))
        let start := if before < after then after else before + 1
        let x := p.slideDown r fuel start (start - d)
        let f := f.put p d x
        if meets d x then (f, some (x, x - d)) else p.advance r fuel meets n (d - 2) f

/-- The same from the end. -/
def retreat (p : Pair) (r : Part) (fuel : Nat) (meets : Int → Int → Bool) :
    Nat → Int → Front → Front × Option (Int × Int)
  | 0, _, f => (f, none)
  | n + 1, d, f =>
      if d < f.low then (f, none)
      else
        let (before, after) := (f.at_ p (d - 1), f.at_ p (d + 1))
        let start := if before < after then before else after - 1
        let x := p.slideUp r fuel start (start - d)
        let f := f.put p d x
        if meets d x then (f, some (x, x - d)) else p.retreat r fuel meets n (d - 2) f

/-- Where two searches meet, which take turns. -/
def meeting (p : Pair) (r : Part) (fuel : Nat) (isOdd : Bool) : Nat → Front → Front → Int × Int
  | 0, _, _ => (r.oldStart, r.newStart)
  | n + 1, down, up =>
      let size := fuel + 2
      let meetsUp (d x : Int) : Bool := isOdd && up.low ≤ d && d ≤ up.high && up.at_ p d ≤ x
      let down := down.widen p r (-1)
      match p.advance r fuel meetsUp size down.high down with
      | (_, some place) => place
      | (down, none) =>
          let meetsDown (d x : Int) : Bool := !isOdd && down.low ≤ d && d ≤ down.high && x ≤ down.at_ p d
          let up := up.widen p r (Int.ofNat (p.old.size + p.new.size + 2))
          match p.retreat r fuel meetsDown size up.high up with
          | (_, some place) => place
          | (up, none) => p.meeting r fuel isOdd n down up

/-- The elements that are left out and put in. -/
structure Edits where
  old : List Nat
  new : List Nat

/-- The changes in a part; `table` is room for searches. -/
def editsIn (p : Pair) (table : Array Int) : Nat → Part → Edits
  | 0, _ => ⟨[], []⟩
  | fuel + 1, r =>
      let size := p.old.size + p.new.size + 1
      let x := p.slideDown r size r.oldStart r.newStart
      let r := { r with oldStart := x, newStart := r.newStart + (x - r.oldStart) }
      let x := p.slideUp r size r.oldEnd r.newEnd
      let r := { r with oldEnd := x, newEnd := r.newEnd - (r.oldEnd - x) }
      let span (a b : Int) : List Nat := (List.range (b - a).toNat).map (· + a.toNat)
      if r.oldStart = r.oldEnd then ⟨[], span r.newStart r.newEnd⟩
      else if r.newStart = r.newEnd then ⟨span r.oldStart r.oldEnd, []⟩
      else
        let (first, last) := (r.oldStart - r.newStart, r.oldEnd - r.newEnd)
        let down := ({ reach := table, low := first, high := first } : Front).put p first r.oldStart
        let up := ({ reach := table, low := last, high := last } : Front).put p last r.oldEnd
        let (x, y) := p.meeting r size ((first - last).tmod 2 != 0) size down up
        let a := p.editsIn table fuel { r with oldEnd := x, newEnd := y }
        let b := p.editsIn table fuel { r with oldStart := x, newStart := y }
        ⟨a.old ++ b.old, a.new ++ b.new⟩

/-- The places of elements that are left out and put in. -/
def edits (p : Pair) : Edits :=
  let (m, n) := (p.old.size, p.new.size)
  p.editsIn (Array.replicate (m + n + 3) 0) (m + n + 2) ⟨0, Int.ofNat m, 0, Int.ofNat n⟩

end Pair

end GuardedCnf.Utility.Difference
