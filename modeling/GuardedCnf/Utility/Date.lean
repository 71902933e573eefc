import GuardedCnf.Script.Places
import GuardedCnf.Utility.Basic
/-! # Dates — the time as a program shows it

    A moment is a number of seconds since the beginning of 1970.  It has a date
    in the calendar whose years begin in January, and a time of day, both for the
    middle of the time zones. -/

namespace GuardedCnf.Utility

open Script

/-! ## Moments. -/

/-- A date with a time of day. -/
structure Moment where
  year : Int
  month : Nat
  day : Nat
  /-- The days since Sunday. -/
  weekday : Nat
  /-- The days since the beginning of the year. -/
  yearDay : Nat
  hour : Nat
  minute : Nat
  second : Nat

/-- Whether a year has a day more. -/
def isLeap (year : Int) : Bool := year % 4 = 0 && (year % 100 != 0 || year % 400 = 0)

/-- The days of a year before the beginning of a month. -/
def daysBefore (year : Int) (month : Nat) : Nat :=
  let days := [0, 31, 59, 90, 120, 151, 181, 212, 243, 273, 304, 334].getD (month - 1) 0
  if 2 < month && isLeap year then days + 1 else days

/-- The days from the beginning of 1970 to the beginning of a year. -/
def yearStart (year : Int) : Int :=
  let y := year - 1
  365 * (year - 1970) + (y.fdiv 4 - y.fdiv 100 + y.fdiv 400) - 477

/-- The moment of a number of seconds. -/
def Moment.ofSeconds (seconds : Int) : Moment :=
  let days := seconds.fdiv 86400
  let time := (seconds.fmod 86400).toNat
  let first := 1970 + days.fdiv (if days < 0 then 365 else 366)
  let year := (List.range (days.natAbs / 100000 + 4)).foldl
    (fun year n => if yearStart (first + Int.ofNat n) ≤ days then first + Int.ofNat n else year) first
  let yearDay := (days - yearStart year).toNat
  let month := ((List.range 12).filter fun m => daysBefore year (m + 1) ≤ yearDay).length
  { year := year
    month := month
    day := yearDay - daysBefore year month + 1
    weekday := ((days + 4).fmod 7).toNat
    yearDay := yearDay
    hour := time / 3600
    minute := time / 60 % 60
    second := time % 60 }

/-- The seconds of a date with a time of day. -/
def secondsOf (year : Int) (month day hour minute second : Nat) : Int :=
  86400 * (yearStart year + daysBefore year month + day - 1) + 3600 * hour + 60 * minute + second

/-- The names of the days of the week. -/
def weekdays : List String :=
  ["Sunday", "Monday", "Tuesday", "Wednesday", "Thursday", "Friday", "Saturday"]

/-- The names of the months. -/
def months : List String :=
  ["January", "February", "March", "April", "May", "June", "July", "August", "September",
    "October", "November", "December"]

/-- The first three letters of a name. -/
def shortName (name : String) : String := String.ofList (name.toList.take 3)

/-! ## Formats. -/

/-- What a letter of a format stands for, given the nanoseconds too. -/
def Moment.part (m : Moment) (seconds : Int) (nanoseconds : Nat) (letter : Char) : Option String :=
  let two (n : Nat) : String := Places.digits 2 n
  let blank (n : Nat) : String := aligned 2 n
  let hour := if m.hour % 12 = 0 then 12 else m.hour % 12
  let weekday := weekdays.getD m.weekday ""
  let month := months.getD (m.month - 1) ""
  let time := two m.hour ++ ":" ++ two m.minute ++ ":" ++ two m.second
  let year := toString m.year
  match letter with
  | 'Y' => some year
  | 'C' => some (two (m.year / 100).toNat)
  | 'y' => some (two (m.year % 100).toNat)
  | 'm' => some (two m.month)
  | 'd' => some (two m.day)
  | 'e' => some (blank m.day)
  | 'H' => some (two m.hour)
  | 'k' => some (blank m.hour)
  | 'I' => some (two hour)
  | 'l' => some (blank hour)
  | 'M' => some (two m.minute)
  | 'S' => some (two m.second)
  | 'N' => some (Places.digits 9 nanoseconds)
  | 'j' => some (Places.digits 3 (m.yearDay + 1))
  | 's' => some (toString seconds)
  | 'u' => some (toString (if m.weekday = 0 then 7 else m.weekday))
  | 'w' => some (toString m.weekday)
  | 'a' => some (shortName weekday)
  | 'A' => some weekday
  | 'b' | 'h' => some (shortName month)
  | 'B' => some month
  | 'p' => some (if m.hour < 12 then "AM" else "PM")
  | 'P' => some (if m.hour < 12 then "am" else "pm")
  | 'F' => some (year ++ "-" ++ two m.month ++ "-" ++ two m.day)
  | 'D' | 'x' => some (two m.month ++ "/" ++ two m.day ++ "/" ++ two (m.year % 100).toNat)
  | 'T' | 'X' => some time
  | 'R' => some (two m.hour ++ ":" ++ two m.minute)
  | 'r' => some (two hour ++ ":" ++ two m.minute ++ ":" ++ two m.second ++ (if m.hour < 12 then " AM" else " PM"))
  | 'c' => some (shortName weekday ++ " " ++ shortName month ++ " " ++ blank m.day ++ " " ++ time ++ " " ++ year)
  | 'Z' => some "UTC"
  | 'z' => some "+0000"
  | 'n' => some "\n"
  | 't' => some "\t"
  | '%' => some "%"
  | _ => none

/-- Fills a format.  A hyphen before a letter drops zeros and blanks. -/
def Moment.filled (m : Moment) (seconds : Int) (nanoseconds : Nat) : List Char → String
  | '%' :: '-' :: c :: cs =>
      (match m.part seconds nanoseconds c with
        | some text =>
            let cs := text.toList.dropWhile fun c => c = '0' || c = ' '
            if cs.isEmpty then "0" else String.ofList cs
        | none => String.ofList ['%', '-', c]) ++ m.filled seconds nanoseconds cs
  | '%' :: c :: cs =>
      (m.part seconds nanoseconds c).getD (String.ofList ['%', c]) ++ m.filled seconds nanoseconds cs
  | c :: cs => String.singleton c ++ m.filled seconds nanoseconds cs
  | [] => ""

/-- The seconds that a text names, given the current ones. -/
def namedSeconds? (now : Int) (text : String) : Option Int :=
  let day? (text : String) : Option (Int × Nat × Nat) :=
    match (text.splitOn "-").map natural? with
    | [some y, some m, some d] =>
        if 1 ≤ m && m ≤ 12 && 1 ≤ d && d ≤ 31 then some (y, m, d) else none
    | _ => none
  let time? (text : String) : Option (Nat × Nat × Nat) :=
    match (text.splitOn ":").map natural? with
    | [some h, some m] => if h < 24 && m < 60 then some (h, m, 0) else none
    | [some h, some m, some s] => if h < 24 && m < 60 && s ≤ 60 then some (h, m, s) else none
    | _ => none
  match text.toList, (text.splitOn " ").filter (!·.isEmpty) with
  | '@' :: cs, _ => (String.ofList cs).toInt?
  | _, ["now"] => some now
  | _, [] | _, ["today"] => some (now - now.fmod 86400)
  | _, ["yesterday"] => some (now - 86400)
  | _, ["tomorrow"] => some (now + 86400)
  | _, [day] => do
      let (y, m, d) ← day? day
      return secondsOf y m d 0 0 0
  | _, day :: time :: zone =>
      if !zone.isEmpty && zone != ["UTC"] && zone != ["Z"] then none
      else do
        let (y, m, d) ← day? day
        let (h, min, s) ← time? time
        return secondsOf y m d h min s

/-- Shows the time, or another one, in a format. -/
def date : Utility := fun args =>
  withArgs "date" 1 (.of "uR" "dIrs" [("utc", 'u'), ("universal", 'u'), ("date", 'd'), ("reference", 'r'),
    ("rfc-email", 'R')]) args fun a => do
    let s ← get
    let micros : Int := 1000 * s.machine.host.date + Int.ofNat s.machine.time
    let now := micros.fdiv 1000000
    let wrong (text : String) : Step Nat := do
      warn "date" ("invalid date " ++ inQuotes text)
      return 1
    let show_ (seconds : Int) (nanoseconds : Nat) (format : String) : Step Nat :=
      output "date" ((Moment.ofSeconds seconds).filled seconds nanoseconds format.toList ++ "\n") 0
    let nanoseconds := 1000 * (micros.fmod 1000000).toNat
    let inFormat (format : String) : Step Nat := do
      match a.value? 'd' with
      | none => show_ now nanoseconds format
      | some text =>
          match namedSeconds? now text with
          | some seconds => show_ seconds 0 format
          | none => wrong text
    match a.operands with
    | [] => inFormat (if a.has 'R' then "%a, %d %b %Y %T %z" else "%a %b %e %T %Z %Y")
    | format :: rest =>
        match format.toList, rest with
        | _, extra :: _ => extraOperand "date" extra 1
        | '+' :: cs, [] => inFormat (String.ofList cs)
        | _, [] => wrong format

end GuardedCnf.Utility
