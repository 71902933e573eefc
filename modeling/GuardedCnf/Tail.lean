import GuardedCnf.FileError
import GuardedCnf.Text.Utf8
/-! # The end of a stream

    A tail keeps the last bytes that were read from a stream, and the first
    failure of a reading.  An interrupted reading changes nothing; after the end
    of the stream or a failure nothing is read any more. -/

namespace GuardedCnf

/-- What one reading of a stream gives. -/
inductive Chunk where
  /-- Some bytes; the end of the stream if there are none. -/
  | data (bytes : List UInt8)
  /-- Nothing, and the reading can be tried again. -/
  | interrupted
  | ended
  /-- A failure that is no interruption, by default of no known kind. -/
  | failed (e : FileError := .other "other error")

/-- The end of a stream, as far as it was read. -/
structure Tail where
  bytes : List UInt8
  /-- Why a reading failed, if one did. -/
  failure : Option FileError
  /-- Whether the stream has ended. -/
  ended : Bool

namespace Tail

/-- How many bytes a tail keeps. -/
def capacity : Nat := 1024

/-- The last `n` elements of a list. -/
def lastOf {α : Type} (n : Nat) (l : List α) : List α := l.drop (l.length - n)

/-- The tail before the first reading. -/
def empty : Tail := ⟨[], none, false⟩

/-- Whether a reading failed. -/
def failed (t : Tail) : Bool := t.failure.isSome

/-- Whether nothing is read any more. -/
def stopped (t : Tail) : Bool := t.failed || t.ended

/-- Takes the result of a reading. -/
def read (t : Tail) (c : Chunk) : Tail :=
  if t.stopped then t
  else match c with
    | .data [] => { t with ended := true }
    | .data bytes => { t with bytes := lastOf capacity (t.bytes ++ bytes) }
    | .interrupted => t
    | .ended => { t with ended := true }
    | .failed e => { t with failure := some e }

/-- The tail after several readings. -/
def ofChunks (cs : List Chunk) : Tail := cs.foldl read empty

/-- The kept bytes, and the failure if there was one. -/
def get (t : Tail) : List UInt8 × Except FileError Unit :=
  (t.bytes, match t.failure with
    | some e => .error e
    | none => .ok ())

/-- The kept bytes as text. -/
def text (t : Tail) : String := Text.decodeReplacing t.get.1

end Tail

end GuardedCnf
