import LayeredConfig.Number.Numeral

/-!
# Dates and times of day

Dates follow the Gregorian calendar. A time of day is exact to a microsecond, and a date with a
time may carry its distance from universal time.
-/

namespace LayeredConfig

structure Date where
  year : Nat
  month : Nat
  day : Nat
  deriving DecidableEq, Repr, Inhabited

structure TimeOfDay where
  hour : Nat
  minute : Nat
  second : Nat
  microsecond : Nat
  deriving DecidableEq, Repr, Inhabited

inductive Moment where
  | date (d : Date)
  | time (t : TimeOfDay)
  | dateTime (d : Date) (t : TimeOfDay) (offsetMinutes : Option Int)
  deriving DecidableEq, Repr, Inhabited

/-- A number with leading zeros up to a width. -/
def padded (width n : Nat) : String :=
  let digits := Numeral.natChars n
  String.ofList (List.replicate (width - digits.length) '0' ++ digits)

namespace Date

def isLeapYear (year : Nat) : Bool :=
  year % 4 == 0 && (year % 100 != 0 || year % 400 == 0)

def daysInMonth (year month : Nat) : Nat :=
  if month = 2 then (if isLeapYear year then 29 else 28)
  else if month = 4 || month = 6 || month = 9 || month = 11 then 30
  else 31

/-- The date with these numbers, if the calendar has it. -/
def ofNumbers? (year month day : Nat) : Option Date :=
  if 1 ≤ year && year ≤ 9999 && 1 ≤ month && month ≤ 12 && 1 ≤ day &&
      day ≤ daysInMonth year month then
    some ⟨year, month, day⟩
  else none

def text (d : Date) : String :=
  padded 4 d.year ++ "-" ++ padded 2 d.month ++ "-" ++ padded 2 d.day

end Date

namespace TimeOfDay

def ofNumbers? (hour minute second microsecond : Nat) : Option TimeOfDay :=
  if hour < 24 && minute < 60 && second < 60 then some ⟨hour, minute, second, microsecond⟩ else none

def text (t : TimeOfDay) : String :=
  padded 2 t.hour ++ ":" ++ padded 2 t.minute ++ ":" ++ padded 2 t.second ++
    (if t.microsecond = 0 then "" else "." ++ padded 6 t.microsecond)

/-- Seconds and microseconds are named only if they are not zero. -/
def arguments (t : TimeOfDay) : List Nat :=
  if t.microsecond ≠ 0 then [t.hour, t.minute, t.second, t.microsecond]
  else if t.second ≠ 0 then [t.hour, t.minute, t.second]
  else [t.hour, t.minute]

end TimeOfDay

namespace Moment

/-- Hours and minutes away from universal time, with a sign. -/
def offsetText (minutes : Int) : String :=
  (if minutes < 0 then "-" else "+") ++ padded 2 (minutes.natAbs / 60) ++ ":" ++
    padded 2 (minutes.natAbs % 60)

def text : Moment → String
  | .date d => d.text
  | .time t => t.text
  | .dateTime d t offset => d.text ++ " " ++ t.text ++ (offset.map offsetText).getD ""

def kindName : Moment → String
  | .date _ => "date"
  | .time _ => "time"
  | .dateTime .. => "datetime"

/-- A zone as the constructor call that makes it. -/
def quotedOffset (minutes : Int) : String :=
  if minutes = 0 then "datetime.timezone.utc"
  else
    let seconds := minutes * 60
    let delta :=
      if seconds < 0 then
        "days=-1, seconds=" ++ String.ofList (Numeral.intChars (seconds + 86400))
      else "seconds=" ++ String.ofList (Numeral.intChars seconds)
    "datetime.timezone(datetime.timedelta(" ++ delta ++ "))"

/-- A moment as the constructor call that makes it. -/
def quoted (m : Moment) : String :=
  let numbers (ns : List Nat) := ns.map Numeral.natText
  let arguments :=
    match m with
    | .date d => numbers [d.year, d.month, d.day]
    | .time t => numbers t.arguments
    | .dateTime d t offset =>
      numbers ([d.year, d.month, d.day] ++ t.arguments) ++
        (offset.map fun o => "tzinfo=" ++ quotedOffset o).toList
  "datetime." ++ m.kindName ++ "(" ++ ", ".intercalate arguments ++ ")"

end Moment

end LayeredConfig
