import GuardedCnf.Json
import GuardedCnf.Text.Quoted
/-! # Statistics — what happened during a run, by field

    Events carry samples of named fields.  Integers accumulate: of every field
    the first, last, least and largest sample are kept, their sum and their
    number.  Any other sample replaces what was known of its field, and the next
    integer starts anew. -/

namespace GuardedCnf

/-- What an event says of a field. -/
inductive Sample where
  /-- An integer to accumulate. -/
  | integer (n : Int)
  /-- An integer of more than 64 bits, kept as text. -/
  | wide (n : Int)
  | text (s : String)
  /-- A text that is kept between quotes. -/
  | quoted (s : String)
  | flag (b : Bool)

/-- Something that happened. -/
structure Event where
  /-- Whether the samples are statistics. -/
  counted : Bool
  samples : List (String × Sample)

/-- The event of one sample. -/
def Event.single (field : String) (s : Sample) : Event := ⟨true, [(field, s)]⟩

/-- A summary of integers. -/
structure Accumulator where
  first : Int
  last : Int
  least : Int
  largest : Int
  sum : Int
  count : Nat

namespace Accumulator

/-- The summary of one integer. -/
def single (n : Int) : Accumulator := ⟨n, n, n, n, n, 1⟩

/-- The summary with one more integer. -/
def add (a : Accumulator) (n : Int) : Accumulator :=
  ⟨a.first, n, min a.least n, max a.largest n, a.sum + n, a.count + 1⟩

end Accumulator

/-- What is known of a field. -/
inductive Stat where
  | integers (a : Accumulator)
  | other (value : Json)

/-- What is known of every field. -/
abbrev Statistics := List (String × Stat)

/-- Gives a key a value, in a list in the order of its keys. -/
def setKey {α : Type} (key : String) (value : α) : List (String × α) → List (String × α)
  | [] => [(key, value)]
  | (k, v) :: rest =>
      if key = k then (k, value) :: rest
      else if key < k then (key, value) :: (k, v) :: rest
      else (k, v) :: setKey key value rest

namespace Statistics

/-- Adds an integer to a field. -/
def addInteger (s : Statistics) (field : String) (n : Int) : Statistics :=
  match s.lookup field with
  | some (.integers a) => setKey field (.integers (a.add n)) s
  | _ => setKey field (.integers (.single n)) s

/-- Records a sample of a field. -/
def record (s : Statistics) (field : String) : Sample → Statistics
  | .integer n => s.addInteger field n
  | .wide n => setKey field (.other (.str (toString n))) s
  | .text t => setKey field (.other (.str t)) s
  | .quoted t => setKey field (.other (.str (Text.quoted t))) s
  | .flag b => setKey field (.other (.bool b)) s

/-- Whether samples of a field are left out: the message of an event, and the
    mark of statistics. -/
def isIgnored (field : String) : Bool := field == "message" || field == "stats"

/-- Records an event. -/
def observe (s : Statistics) (e : Event) : Statistics :=
  if e.counted then
    e.samples.foldl (fun s (field, x) => if isIgnored field then s else s.record field x) s
  else s

/-- The field for the durations of an activity. -/
def timeField (activity : String) : String := "time_" ++ activity ++ "_ms"

/-! ## Written form. -/

/-- An integer as JSON: a number if it has at most 64 bits, else a text. -/
def intToJson (n : Int) : Json :=
  if -(Nat.pow 2 63 : Nat) ≤ n ∧ n < (Nat.pow 2 64 : Nat) then .int n else .str (toString n)

/-- The JSON fields of a statistics field. -/
def fieldsOf (field : String) : Stat → List (String × Json)
  | .other value => [(field, value)]
  | .integers a =>
      [(field ++ "_first", intToJson a.first), (field ++ "_last", intToJson a.last),
        (field ++ "_min", intToJson a.least), (field ++ "_max", intToJson a.largest),
        (field ++ "_sum", intToJson a.sum), (field ++ "_count", intToJson a.count)]

/-- All JSON fields, in the order of their names. -/
def fields (s : Statistics) : List (String × Json) :=
  (s.flatMap fun (field, stat) => fieldsOf field stat).foldl
    (fun fields (name, value) => setKey name value fields) []

/-- The statistics as a JSON object. -/
def toJson (s : Statistics) : Json := .obj s.fields

end Statistics

/-- The event that an activity ends, which took so many milliseconds. -/
def Event.ended (activity : String) (ms : Nat) : Event :=
  .single (Statistics.timeField activity) (.integer ms)

/-- Statistics that are collected until they are written. -/
structure Collector where
  /-- What is collected, `none` once it is written. -/
  statistics : Option Statistics

namespace Collector

/-- The collector of nothing so far. -/
def empty : Collector := ⟨some []⟩

/-- Records an event, unless the statistics are written already. -/
def observe (c : Collector) (e : Event) : Collector := ⟨c.statistics.map (·.observe e)⟩

/-- Ends the collection; the text is written the first time only. -/
def dump (c : Collector) : Collector × Option String :=
  (⟨none⟩, c.statistics.map fun s => s.toJson.compact)

end Collector

end GuardedCnf
