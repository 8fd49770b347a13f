/-!
# Dates and times

Days of the calendar, times of day, and both together with or without an offset from universal
time. `display` is the text of a moment that stands alone, `spelled` the text of one inside a list
or table.
-/

namespace UnsafeCensus

structure Date where
  year : Nat
  month : Nat
  day : Nat
deriving DecidableEq, Repr

/-- A time of day, to the microsecond. -/
structure Clock where
  hour : Nat
  minute : Nat
  second : Nat
  micros : Nat
deriving DecidableEq, Repr

inductive Moment
  | date (day : Date)
  | time (clock : Clock)
  /-- The offset is in minutes, positive to the east. -/
  | dateTime (day : Date) (clock : Clock) (offset : Option Int)
deriving DecidableEq, Repr

namespace Date

def isLeapYear (year : Nat) : Bool :=
  year % 4 == 0 && (year % 100 != 0 || year % 400 == 0)

def daysInMonth (year month : Nat) : Nat :=
  if month == 2 then (if isLeapYear year then 29 else 28)
  else if [4, 6, 9, 11].contains month then 30
  else 31

/-- A day that the calendar has. Years begin at one. -/
def isValid (d : Date) : Bool :=
  1 ≤ d.year && d.year ≤ 9999 && 1 ≤ d.month && d.month ≤ 12 && 1 ≤ d.day &&
    d.day ≤ daysInMonth d.year d.month

end Date

/-- A number filled up with zeros on the left. -/
def padded (width n : Nat) : String :=
  let digits := Nat.toDigits 10 n
  String.ofList (List.replicate (width - digits.length) '0' ++ digits)

def Date.display (d : Date) : String :=
  padded 4 d.year ++ "-" ++ padded 2 d.month ++ "-" ++ padded 2 d.day

/-- The fraction of the second is left out if it is zero. -/
def Clock.display (c : Clock) : String :=
  padded 2 c.hour ++ ":" ++ padded 2 c.minute ++ ":" ++ padded 2 c.second ++
    if c.micros = 0 then "" else "." ++ padded 6 c.micros

/-- The parts of a time that are spelled out: the second only if it or the fraction is not zero. -/
def Clock.parts (c : Clock) : List Nat :=
  [c.hour, c.minute] ++
    if c.micros ≠ 0 then [c.second, c.micros] else if c.second ≠ 0 then [c.second] else []

namespace Moment

def offsetDisplay (offset : Int) : String :=
  let minutes := offset.natAbs
  (if offset < 0 then "-" else "+") ++ padded 2 (minutes / 60) ++ ":" ++ padded 2 (minutes % 60)

def display : Moment → String
  | date d => d.display
  | time c => c.display
  | dateTime d c offset =>
    d.display ++ " " ++ c.display ++ (offset.map offsetDisplay).getD ""

/-- An offset as a length of time, of which only the days may be negative. -/
def offsetSpelled (offset : Int) : String :=
  if offset = 0 then "datetime.timezone.utc"
  else
    let length :=
      if offset < 0 then "days=-1, seconds=" ++ toString (86400 + offset * 60)
      else "seconds=" ++ toString (offset * 60)
    "datetime.timezone(datetime.timedelta(" ++ length ++ "))"

def commaSeparated (ns : List Nat) : String :=
  ", ".intercalate (ns.map toString)

def spelled : Moment → String
  | date d => "datetime.date(" ++ commaSeparated [d.year, d.month, d.day] ++ ")"
  | time c => "datetime.time(" ++ commaSeparated c.parts ++ ")"
  | dateTime d c offset =>
    "datetime.datetime(" ++ commaSeparated ([d.year, d.month, d.day] ++ c.parts) ++
      (match offset with
        | some o => ", tzinfo=" ++ offsetSpelled o
        | none => "") ++ ")"

/-- How many texts lie inside one another where the moment is spelled: an offset has its own, and
so has its length. -/
def depth : Moment → Nat
  | date _ | time _ | dateTime _ _ none => 0
  | dateTime _ _ (some o) => if o = 0 then 1 else 2

/-- The name of the kind of moment. -/
def typeName : Moment → String
  | date _ => "datetime.date"
  | time _ => "datetime.time"
  | dateTime .. => "datetime.datetime"

end Moment

end UnsafeCensus
