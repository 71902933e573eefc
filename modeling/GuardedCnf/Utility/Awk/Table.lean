import Std.Data.HashMap
import GuardedCnf.Utility.Awk.Value
/-! # Tables of values

    A loop goes through the keys of a table in the order of its buckets.  A key
    has a place among the texts and, if it was used as a number, among the
    numbers; what is looked for comes to the front of its bucket.  A table that
    comes from a text that was split has no buckets at first. -/

namespace GuardedCnf.Utility.Awk

/-- A key of a table. -/
inductive Key where
  | text (s : String)
  | number (n : Int)

/-- The text of a key. -/
def Key.toText : Key → String
  | .text s => s
  | .number n => toString n

/-- The keys of a bucket. -/
structure Bucket where
  texts : List String
  numbers : List Int

/-- How the keys of a table are kept. -/
inductive Layout where
  | nothing
  /-- As the numbers from 1 on. -/
  | sequence
  /-- In buckets, of which those for texts may still be missing. -/
  | buckets (hasTexts : Bool) (items : Array Bucket)

/-- A table of values. -/
structure Table where
  values : Std.HashMap String Value
  layout : Layout

namespace Table

/-- The table without values. -/
def empty : Table := ⟨∅, .nothing⟩

/-- The number that tells the bucket of a text. -/
def hash (key : String) : UInt32 :=
  key.toList.foldl (fun h c => (h ^^^ c.toNat.toUInt32) * 16777619) 2166136261

/-- The bucket of a text among so many. -/
def textPlace (size : Nat) (key : String) : Nat := (hash key).toNat % size

/-- The bucket of a number among so many. -/
def numberPlace (size : Nat) (n : Int) : Nat := (n.emod size).toNat

/-- How many buckets there are at first. -/
def firstSize : Nat := 64

/-- How many keys fill a bucket. -/
def bucketSize : Nat := 12

/-- Buckets without keys. -/
def noBuckets (size : Nat) : Array Bucket := Array.replicate size ⟨[], []⟩

/-- Puts a text at the front of its bucket. -/
def frontText (items : Array Bucket) (key : String) : Array Bucket :=
  items.modify (textPlace items.size key) fun b =>
    if b.texts.head? = some key then b else { b with texts := key :: b.texts.erase key }

/-- Puts a number at the front of its bucket. -/
def frontNumber (items : Array Bucket) (n : Int) : Array Bucket :=
  items.modify (numberPlace items.size n) fun b =>
    if b.numbers.head? = some n then b else { b with numbers := n :: b.numbers.erase n }

/-- Makes twice as many buckets if the keys fill them. -/
def grown (count : Nat) (items : Array Bucket) : Array Bucket :=
  if count ≤ bucketSize * items.size then items
  else
    let size := 2 * items.size
    let part (offset : Nat) : Array Bucket := items.zipIdx.map fun (b, place) =>
      ⟨b.texts.filter fun key => textPlace size key = place + offset,
        b.numbers.filter fun n => numberPlace size n = place + offset⟩
    part 0 ++ part items.size

/-- Gives each number its place among the texts. -/
def withTexts (items : Array Bucket) : Array Bucket :=
  items.foldl (fun all b => b.numbers.foldl (fun all n => frontText all (toString n)) all) items

/-- How many buckets there are for so many keys. -/
def sizeFor (count : Nat) : Nat → Nat → Nat
  | 0, size => size
  | fuel + 1, size => if count ≤ bucketSize * size then size else sizeFor count fuel (2 * size)

/-- The buckets of a table with so many keys, and whether they have texts. -/
def bucketsOf (l : Layout) (count : Nat) : Bool × Array Bucket :=
  match l with
  | .nothing => (false, noBuckets firstSize)
  | .buckets hasTexts items => (hasTexts, items)
  | .sequence =>
      let items := noBuckets (sizeFor count count firstSize)
      (false, (List.range count).foldl (fun items n => frontNumber items (Int.ofNat n + 1)) items)

/-- The buckets of a table with so many keys, with places for all texts. -/
def spread (l : Layout) (count : Nat) : Array Bucket :=
  match bucketsOf l count with
  | (true, items) => items
  | (false, items) => withTexts items

/-- Whether a key of a table is at the front of its bucket. -/
def isFront (l : Layout) (key : Key) : Bool :=
  match l, key with
  | .nothing, _ => true
  | .sequence, .number _ => true
  | .sequence, .text _ => false
  | .buckets hasTexts items, .text s =>
      hasTexts && (items[textPlace items.size s]?).any fun b => b.texts.head? = some s
  | .buckets _ items, .number n =>
      (items[numberPlace items.size n]?).any fun b => b.numbers.head? = some n

/-- Looks for a key, which comes to the front. -/
def touch (t : Table) (key : Key) : Table :=
  match t with
  | ⟨values, layout⟩ =>
      if isFront layout key then ⟨values, layout⟩
      else
        let count := values.size
        match key, values.contains key.toText with
        | .text s, true => ⟨values, .buckets true (frontText (spread layout count) s)⟩
        | .text _, false => ⟨values, .buckets true (spread layout count)⟩
        | .number _, false => ⟨values, layout⟩
        | .number n, true =>
            let (hasTexts, items) := bucketsOf layout count
            let isNumber := (items[numberPlace items.size n]?).any (·.numbers.contains n)
            let items := if isNumber || !hasTexts then items else frontText items (toString n)
            ⟨values, .buckets hasTexts (frontNumber items n)⟩

/-- Adds an element with a key that is not there. -/
def add (t : Table) (key : Key) (v : Value) : Table :=
  match t with
  | ⟨values, layout⟩ =>
      let count := values.size
      let layout : Layout := match key with
        | .text s => .buckets true (frontText (grown (count + 1) (spread layout count)) s)
        | .number n =>
            let (hasTexts, items) := bucketsOf layout count
            let items := grown (count + 1) items
            let items := if hasTexts then frontText items (toString n) else items
            .buckets hasTexts (frontNumber items n)
      ⟨values.insert key.toText v, layout⟩

/-- Sets an element. -/
def set (t : Table) (key : Key) (v : Value) : Table :=
  if t.values.contains key.toText then
    match t.touch key with
    | ⟨values, layout⟩ => ⟨values.insert key.toText v, layout⟩
  else t.add key v

/-- Removes an element. -/
def erase (t : Table) (key : Key) : Table :=
  let text := key.toText
  if !t.values.contains text then t
  else match t.touch key with
    | ⟨values, layout⟩ =>
        let (hasTexts, items) := bucketsOf layout values.size
        let values := values.erase text
        if values.isEmpty then empty
        else
          let items := items.modify (textPlace items.size text) fun b =>
            { b with texts := b.texts.erase text }
          let items := match text.toInt? with
            | some n =>
                if toString n != text then items
                else items.modify (numberPlace items.size n) fun b =>
                  { b with numbers := b.numbers.erase n }
            | none => items
          ⟨values, .buckets hasTexts items⟩

/-- The table of the numbers from 1 on with values. -/
def ofList (vs : List Value) : Table :=
  if vs.isEmpty then empty
  else ⟨Std.HashMap.ofList ((vs.zipIdx 1).map fun (v, n) => (toString n, v)), .sequence⟩

/-- The keys in the order of loops, and the table after that. -/
def keys (t : Table) : List String × Table :=
  let items := spread t.layout t.values.size
  (items.toList.flatMap (·.texts),
    if t.values.isEmpty then t else { t with layout := .buckets true items })

end Table

end GuardedCnf.Utility.Awk
