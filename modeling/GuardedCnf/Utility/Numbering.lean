import GuardedCnf.Script.Printing
import GuardedCnf.Utility.Basic
import GuardedCnf.Utility.Regex.Plain
/-! # Numbers for lines

    A text has pages, each with a head, a body and a foot, which begin after lines
    of their own.  In each of these some lines get a number. -/

namespace GuardedCnf.Utility

open Script

namespace Numbering

/-- Which lines get a number. -/
inductive Style where
  | all
  | full
  | none
  | matching (r : Regex)

/-- A part of a page. -/
inductive Section where
  | head
  | body
  | foot
deriving BEq

/-- The style that an option asks for. -/
def Style.ofText (text : String) : Option (Except String Style) :=
  match text.toList with
  | ['a'] => some (.ok .all)
  | ['t'] => some (.ok .full)
  | ['n'] => some (.ok .none)
  | 'p' :: pattern => some ((Regex.ofText (.searching false false) (String.ofList pattern)).map .matching)
  | _ => Option.none

/-- Where a number stands in its width. -/
inductive Side where
  | left
  | right
  /-- At the right, with zeros before it. -/
  | zeros

/-- How lines are numbered. -/
structure Rule where
  head : Style
  body : Style
  foot : Style
  /-- What begins the lines before the parts of a page. -/
  mark : String
  start : Int
  step : Int
  /-- Whether numbers go on from page to page. -/
  goesOn : Bool
  /-- How many empty lines count as one. -/
  blanks : Nat
  separator : String
  width : Nat
  side : Side

/-- How far the lines got. -/
structure Progress where
  part : Section
  number : Int
  blanks : Nat

/-- The part of a page that begins after a line. -/
def Rule.sectionAfter (r : Rule) (line : String) : Option Section :=
  if r.mark.isEmpty then none
  else if line = r.mark ++ r.mark ++ r.mark then some .head
  else if line = r.mark ++ r.mark then some .body
  else if line = r.mark then some .foot
  else none

/-- A number in its width. -/
def Rule.numberText (r : Rule) (n : Int) : String :=
  let form : Form := { Form.plain with
    width := r.width, left := r.side matches .left, zeros := r.side matches .zeros }
  form.integer n

/-- Whether a line gets a number, and how many empty lines there were. -/
def Rule.isNumbered (r : Rule) (p : Progress) (line : String) : Bool × Nat :=
  let style := match p.part with
    | .head => r.head
    | .body => r.body
    | .foot => r.foot
  match style with
  | .all =>
      if r.blanks ≤ 1 || !line.isEmpty || p.blanks + 1 = r.blanks then (true, 0) else (false, p.blanks + 1)
  | .full => (!line.isEmpty, p.blanks)
  | .none => (false, p.blanks)
  | .matching pattern => (pattern.isIn line, p.blanks)

/-- A line with its number, and how far the lines got. -/
def Rule.numbered (r : Rule) (p : Progress) (line : String) : Progress × String :=
  match r.sectionAfter line with
  | some part => ({ p with part := part, number := if r.goesOn then p.number else r.start }, "")
  | none =>
      let (isNumbered, blanks) := r.isNumbered p line
      if isNumbered then
        ({ p with number := p.number + r.step, blanks := blanks }, r.numberText p.number ++ r.separator ++ line)
      else
        ({ p with blanks := blanks },
          String.ofList (List.replicate (r.width + r.separator.length) ' ') ++ line)

/-- The lines of a text with their numbers. -/
def Rule.shown (r : Rule) (p : Progress) (text : String) : Progress × String :=
  let (p, lines) := (linesOf text).1.foldl (fun (p, lines) line =>
    let (p, line) := r.numbered p line
    (p, line :: lines)) (p, [])
  (p, unlines lines.reverse)

/-- An integer that an option has. -/
def readInteger (text : String) : Option Int :=
  match Printing.leadingInteger text.toList with
  | (some n, []) => if text.startsWith "0x" then none else some n
  | _ => none

end Numbering

open GuardedCnf.Utility.Numbering in
/-- Numbers lines. -/
def nl : Utility := fun args =>
  let accepted : Accepted := .of "p" "bdfhilnsvw" [("header-numbering", 'h'), ("body-numbering", 'b'),
    ("footer-numbering", 'f'), ("starting-line-number", 'v'), ("line-increment", 'i'), ("no-renumber", 'p'),
    ("join-blank-lines", 'l'), ("number-separator", 's'), ("number-width", 'w'), ("number-format", 'n'),
    ("section-delimiter", 'd')]
  withArgs "nl" 1 accepted args fun a => do
    let style (letter : Char) (name : String) (otherwise : Style) : Step (Option Style) := do
      match (a.value? letter).map fun text => (text, Style.ofText text) with
      | none => return some otherwise
      | some (_, some (.ok style)) => return some style
      | some (_, some (.error message)) => do
          warn "nl" message
          return none
      | some (text, none) => do
          warn "nl" ("invalid " ++ name ++ " numbering style: " ++ inQuotes text)
          return none
    let number (letter : Char) (name : String) (otherwise : Int) (f : Int → Step Nat) : Step Nat := do
      match (a.value? letter).map fun text => (text, readInteger text) with
      | none => f otherwise
      | some (_, some n) => f n
      | some (text, none) => do
          warn "nl" ("invalid " ++ name ++ ": " ++ inQuotes text)
          return 1
    number 'v' "starting line number" 1 fun start =>
    number 'i' "line number increment" 1 fun step =>
    withSize "nl" "invalid line number of blank lines" "" 1 (a.value? 'l') 1 fun blanks =>
    withSize "nl" "invalid line number field width" "" 1 (a.value? 'w') 6 fun width => do
      match ← style 'h' "header" .none, ← style 'b' "body" .full, ← style 'f' "footer" .none with
      | some head, some body, some foot => do
          let side? : Option Side := match a.value? 'n' with
            | none | some "rn" => some .right
            | some "ln" => some .left
            | some "rz" => some .zeros
            | _ => none
          match side? with
          | none =>
              refuseUse "nl" ("invalid line numbering format: " ++ inQuotes ((a.value? 'n').getD "")) 1
          | some side => do
              let mark := (a.value? 'd').getD "\\:"
              let r : Rule :=
                { head := head, body := body, foot := foot
                  mark := if mark.length = 1 then mark ++ ":" else mark
                  start := start, step := step
                  goesOn := a.has 'p'
                  blanks := blanks
                  separator := (a.value? 's').getD "\t"
                  width := width
                  side := side }
              return (← showEach "nl" plainWording a.operands ⟨.body, start, 0⟩ r.shown).2
      | _, _, _ => do
          suggestHelp "nl"
          return 1

end GuardedCnf.Utility
