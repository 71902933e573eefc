/-! # Bytes as text

    Bytes that are no UTF-8 are either refused or replaced.  A replacing reader
    gives one replacement character for each longest beginning of a character
    that cannot be continued, and for each byte that begins none. -/

namespace GuardedCnf.Text

/-- The text that bytes encode, if they are UTF-8. -/
def decode? (bytes : List UInt8) : Option String := String.fromUTF8? ⟨bytes.toArray⟩

/-- The bytes of a text. -/
def encode (s : String) : List UInt8 := s.toUTF8.toList

/-- The character for what cannot be read. -/
def replacement : Char := Char.ofNat 0xFFFD

/-- A character of which some bytes are read. -/
structure Partial where
  /-- The bits so far. -/
  value : Nat
  /-- The least next byte. -/
  low : Nat
  /-- The largest next byte. -/
  high : Nat
  /-- How many bytes follow the next one. -/
  more : Nat

/-- What a first byte says: a whole character, the beginning of one, or
    neither. -/
def leading (b : Nat) : Option (Char ⊕ Partial) :=
  if b < 0x80 then some (.inl (Char.ofNat b))
  else if b < 0xC2 then none
  else if b < 0xE0 then some (.inr ⟨b - 0xC0, 0x80, 0xBF, 0⟩)
  else if b = 0xE0 then some (.inr ⟨0, 0xA0, 0xBF, 1⟩)
  else if b = 0xED then some (.inr ⟨0xD, 0x80, 0x9F, 1⟩)
  else if b < 0xF0 then some (.inr ⟨b - 0xE0, 0x80, 0xBF, 1⟩)
  else if b = 0xF0 then some (.inr ⟨0, 0x90, 0xBF, 2⟩)
  else if b < 0xF4 then some (.inr ⟨b - 0xF0, 0x80, 0xBF, 2⟩)
  else if b = 0xF4 then some (.inr ⟨4, 0x80, 0x8F, 2⟩)
  else none

/-- Reads a byte where a character may begin: the characters it completes, and
    the one it begins. -/
def begin (b : Nat) : List Char × Option Partial :=
  match leading b with
  | some (.inl c) => ([c], none)
  | some (.inr p) => ([], some p)
  | none => ([replacement], none)

/-- Reads a byte after the beginning of a character, or where none is begun. -/
def advance (b : Nat) : Option Partial → List Char × Option Partial
  | none => begin b
  | some p =>
      if p.low ≤ b && b ≤ p.high then
        let value := 64 * p.value + (b - 0x80)
        match p.more with
        | 0 => ([Char.ofNat value], none)
        | more + 1 => ([], some ⟨value, 0x80, 0xBF, more⟩)
      else
        let (cs, next) := begin b
        (replacement :: cs, next)

/-- Reads bytes with replacement, after the beginning of a character if
    any. -/
def replacing : Option Partial → List UInt8 → List Char
  | none, [] => []
  | some _, [] => [replacement]
  | state, b :: bs =>
      let (cs, next) := advance b.toNat state
      cs ++ replacing next bs

/-- The text that bytes encode, with replacements where they are no UTF-8. -/
def decodeReplacing (bytes : List UInt8) : String := String.ofList (replacing none bytes)

end GuardedCnf.Text
