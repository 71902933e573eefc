/-! # The order of versions

    In names with numbers the numbers count as such, so that the tenth version
    comes after the ninth.  Endings like those of file names only count if
    everything before them is the same. -/

namespace GuardedCnf.Version

/-- How a character that is no digit is ordered; the end of a text comes before all
    characters but a tilde. -/
def rank : List Char → Int
  | [] => -1
  | c :: _ =>
      if c.isDigit then 0
      else if c.isAlpha then c.toNat
      else if c = '~' then -2
      else (c.toNat : Int) + 256

/-- Compares characters up to the next numbers in both texts. -/
def compareText : Nat → List Char → List Char → Ordering × List Char × List Char
  | 0, a, b => (.eq, a, b)
  | fuel + 1, a, b =>
      let isText (cs : List Char) : Bool := cs.head?.any (!·.isDigit)
      if isText a || isText b then
        match compare (rank a) (rank b) with
        | .eq => compareText fuel (a.drop 1) (b.drop 1)
        | o => (o, a, b)
      else (.eq, a, b)

/-- Compares two texts part by part: characters, then numbers. -/
def compareParts : Nat → List Char → List Char → Ordering
  | 0, _, _ => .eq
  | fuel + 1, a, b =>
      if a.isEmpty && b.isEmpty then .eq
      else
        match compareText (a.length + b.length + 1) a b with
        | (.eq, a, b) =>
            let (a, b) := (a.dropWhile (· = '0'), b.dropWhile (· = '0'))
            let (m, n) := (a.takeWhile Char.isDigit, b.takeWhile Char.isDigit)
            ((compare m.length n.length).then (compare m n)).then
              (compareParts fuel (a.drop m.length) (b.drop n.length))
        | (o, _, _) => o

/-- How long a name is without its endings. -/
def stemLength (cs : List Char) : Nat :=
  let isTail (c : Char) : Bool := c.isAlphanum || c = '~'
  let rec strip : Nat → Nat → Nat
    | 0, n => n
    | fuel + 1, n =>
        let tail := ((cs.take n).reverse.takeWhile isTail).reverse
        let start := n - tail.length
        if 1 < start && cs[start - 1]? = some '.' && tail.head?.any (fun c => c.isAlpha || c = '~') then
          strip fuel (start - 1)
        else n
  strip cs.length cs.length

/-- Compares two names. -/
def compareNames (a b : List Char) : Ordering :=
  let hidden (cs : List Char) : Nat :=
    match cs with
    | [] => 0
    | ['.'] => 1
    | ['.', '.'] => 2
    | '.' :: _ => 3
    | _ => 4
  match compare (hidden a) (hidden b) with
  | .eq =>
      let fuel := a.length + b.length + 1
      (compareParts fuel (a.take (stemLength a)) (b.take (stemLength b))).then (compareParts fuel a b)
  | o => o

end GuardedCnf.Version
