import GuardedCnf.Script.Glyph
import GuardedCnf.Script.Printing
/-! # Treatments — what expansions make of texts

    Values can be cut, changed where they match a pattern, put into large or small
    letters, or shown in a form of their own. -/

namespace GuardedCnf.Script.Treatment

/-! ## Parts of texts. -/

/-- The part of a list from a place on, which counts from the end if it is negative,
    up to a length, or up to a place that counts from the end; `none` if that comes
    before the beginning. -/
def slice? {α : Type} (xs : List α) (start : Int) (length : Option Int) : Option (List α) :=
  let size : Int := xs.length
  let first := if start < 0 then size + start else start
  if first < 0 || size < first then some []
  else
    let rest := xs.drop first.toNat
    match length with
    | none => some rest
    | some n =>
        if 0 ≤ n then some (rest.take n.toNat)
        else
          let count := size + n - first
          if count < 0 then none else some (rest.take count.toNat)

/-! ## Other texts for matches. -/

/-- What is put in place of a match: characters, and the match itself. -/
inductive Substitute where
  | char (c : Char)
  | whole

/-- The text of a replacement for a match. -/
def substituted (replacement : List Substitute) (found : List Char) : List Char :=
  replacement.flatMap fun
    | .char c => [c]
    | .whole => found

/-- The replacement of glyphs, where `&` without quotes is the match. -/
def replacementOf : List Glyph → List Substitute
  | [] => []
  | .char '\\' .value :: .char '&' _ :: rest => .char '&' :: replacementOf rest
  | .char c origin :: rest =>
      (if c = '&' && origin ≠ .quotes then .whole else .char c) :: replacementOf rest
  | _ :: rest => replacementOf rest

/-- The length of the longest beginning that matches a pattern. -/
def longestMatch? (pattern : List Glyph.Piece) (cs : List Char) : Option Nat :=
  (List.range (cs.length + 1)).reverse.find? fun n => Glyph.isMatch pattern (cs.take n)

/-- A text with a replacement for its matches that are not empty, or for the first
    one. -/
def replaceFrom (pattern : List Glyph.Piece) (replacement : List Substitute) (everywhere : Bool) :
    Nat → List Char → List Char
  | 0, cs => cs
  | _, [] => []
  | fuel + 1, c :: cs =>
      match (longestMatch? pattern (c :: cs)).filter (0 < ·) with
      | none => c :: replaceFrom pattern replacement everywhere fuel cs
      | some n =>
          let rest := (c :: cs).drop n
          substituted replacement ((c :: cs).take n)
            ++ if everywhere then replaceFrom pattern replacement everywhere fuel rest else rest

/-- A text with a replacement for what matches a pattern: everywhere, or once, perhaps
    only at its start or its end. -/
def replaced (pattern : List Glyph.Piece) (replacement : List Substitute) (everywhere : Bool)
    (anchor : Option Char) (cs : List Char) : List Char :=
  match anchor with
  | some '#' =>
      match longestMatch? pattern cs with
      | some n => substituted replacement (cs.take n) ++ cs.drop n
      | none => cs
  | some _ =>
      match (List.range (cs.length + 1)).find? fun n => Glyph.isMatch pattern (cs.drop n) with
      | some n => cs.take n ++ substituted replacement (cs.drop n)
      | none => cs
  | none => if pattern.isEmpty then cs else replaceFrom pattern replacement everywhere (cs.length + 1) cs

/-! ## Letters. -/

/-- A text with large or small letters: all that match a pattern, or only the first. -/
def withLetters (large all : Bool) (pattern : List Glyph.Piece) (cs : List Char) : List Char :=
  let change (c : Char) : Char :=
    if pattern.isEmpty || Glyph.isMatch pattern [c] then if large then c.toUpper else c.toLower else c
  if all then cs.map change
  else match cs with
    | c :: rest => change c :: rest
    | [] => []

/-- A text in the form that a letter names. -/
def formed (letter : Char) (text : String) : String :=
  match letter with
  | 'Q' => Quoting.inQuotes text
  | 'U' => String.ofList (withLetters true true [] text.toList)
  | 'u' => String.ofList (withLetters true false [] text.toList)
  | 'L' => String.ofList (withLetters false true [] text.toList)
  | 'E' => (Printing.unescapeMore true (text.length + 1) #[] text.toList).1
  | _ => text

end GuardedCnf.Script.Treatment
