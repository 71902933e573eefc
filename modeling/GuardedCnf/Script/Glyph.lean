import GuardedCnf.Script.Basic
import GuardedCnf.Script.CharSet
/-! # Expanded words — fields and patterns

    A word expands to glyphs: characters that remember where they come from.
    Values are cut into fields at separators, which characters of the script are
    not; quoted characters have no meaning in patterns.  A pair of quotes makes a
    field even if nothing is between them. -/

namespace GuardedCnf.Script

/-- Where a character of an expanded word comes from. -/
inductive Origin where
  /-- The script, without quotes. -/
  | script
  | quotes
  /-- An expansion, without quotes. -/
  | value
deriving DecidableEq

/-- A piece of an expanded word. -/
inductive Glyph where
  | char (c : Char) (origin : Origin)
  /-- There is a field, perhaps without characters. -/
  | mark
  /-- One field ends, and another one begins. -/
  | cut

namespace Glyph

/-- The glyphs of a text. -/
def ofText (text : String) (origin : Origin) : List Glyph := text.toList.map (.char · origin)

/-- The character of a glyph; fields are joined with a space. -/
def char? : Glyph → Option Char
  | .char c _ => some c
  | .mark => none
  | .cut => some ' '

/-- The text of glyphs. -/
def plain (gs : List Glyph) : String := String.ofList (gs.filterMap char?)

/-- The glyph, as a part of a value if it comes from the script. -/
def asValue : Glyph → Glyph
  | .char c .script => .char c .value
  | g => g

/-! ## Fields. -/

/-- How far the cutting of a word got. -/
structure Cutting where
  /-- The fields that are complete, the last one first. -/
  fields : List (List Glyph)
  /-- The current field, the last glyph first, if it has begun. -/
  current : Option (List Glyph)
  /-- Whether a blank ended the last field, so that a separator after it ends no
      other one. -/
  afterBlank : Bool

/-- Ends the current field. -/
def Cutting.close (c : Cutting) (afterBlank : Bool) : Cutting :=
  match c.current with
  | some field => ⟨field.reverse :: c.fields, none, afterBlank⟩
  | none => { c with afterBlank := afterBlank && c.afterBlank }

/-- Cuts at a glyph, given the separators. -/
def Cutting.step (separators : List Char) (c : Cutting) (g : Glyph) : Cutting :=
  let extended : Cutting := { c with current := some (g :: c.current.getD []), afterBlank := false }
  match g with
  | .mark => extended
  | .cut => c.close false
  | .char ch .value =>
      if !separators.contains ch then extended
      else if ch = ' ' || ch = '\t' || ch = '\n' then c.close true
      else if c.current.isNone && !c.afterBlank then
        { c with fields := [] :: c.fields }
      else c.close false
  | .char .. => extended

/-- The fields of a word, given the separators. -/
def fields (separators : List Char) (gs : List Glyph) : List (List Glyph) :=
  ((gs.foldl (Cutting.step separators) ⟨[], none, false⟩).close false).fields.reverse

/-! ## Patterns. -/

/-- A piece of a pattern. -/
inductive Piece where
  | char (c : Char)
  | any
  /-- Any number of characters. -/
  | many
  | set (s : CharSet)

/-- The characters of glyphs, and whether they can have a meaning. -/
def marked (gs : List Glyph) : List CharSet.Marked :=
  gs.filterMap fun
    | .char c origin => some (c, origin ≠ .quotes)
    | _ => none

/-- The pieces of a pattern. -/
def pieces : Nat → List CharSet.Marked → List Piece
  | 0, _ => []
  | _, [] => []
  | fuel + 1, (c, active) :: cs =>
      if !active then .char c :: pieces fuel cs
      else if c = '*' then .many :: pieces fuel cs
      else if c = '?' then .any :: pieces fuel cs
      else if c = '[' then
        match CharSet.read? cs with
        | some (s, rest) => .set s :: pieces fuel rest
        | none => .char c :: pieces fuel cs
      else match c, cs with
        | '\\', (d, _) :: rest => .char d :: pieces fuel rest
        | _, _ => .char c :: pieces fuel cs

/-- The pattern of glyphs. -/
def pattern (gs : List Glyph) : List Piece :=
  let cs := marked gs
  pieces (cs.length + 1) cs

/-- Whether a pattern matches a text. -/
def isMatch : List Piece → List Char → Bool
  | [], cs => cs.isEmpty
  | .many :: ps, cs => (List.range (cs.length + 1)).any fun n => isMatch ps (cs.drop n)
  | .char d :: ps, c :: cs => c = d && isMatch ps cs
  | .any :: ps, _ :: cs => isMatch ps cs
  | .set s :: ps, c :: cs => s.contains c && isMatch ps cs
  | _ :: _, [] => false

/-- Whether a pattern has a piece that is no character. -/
def isWild (ps : List Piece) : Bool :=
  ps.any fun
    | .char _ => false
    | _ => true

/-- A text without the shortest or longest beginning that matches a pattern. -/
def dropStart (longest : Bool) (ps : List Piece) (cs : List Char) : List Char :=
  let sizes := List.range (cs.length + 1)
  let sizes := if longest then sizes.reverse else sizes
  match sizes.find? fun n => isMatch ps (cs.take n) with
  | some n => cs.drop n
  | none => cs

/-- A text without the shortest or longest end that matches a pattern. -/
def dropEnd (longest : Bool) (ps : List Piece) (cs : List Char) : List Char :=
  let sizes := List.range (cs.length + 1)
  let sizes := if longest then sizes else sizes.reverse
  match sizes.find? fun n => isMatch ps (cs.drop n) with
  | some n => cs.take n
  | none => cs

/-- Whether the pattern that a text writes matches another text. -/
def matchesText (pattern text : String) : Bool := isMatch (Glyph.pattern (ofText pattern .script)) text.toList

end Glyph

end GuardedCnf.Script
