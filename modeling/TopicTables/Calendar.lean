import TopicTables.Text.Basic

/-! Dates and times of the Gregorian calendar.

A date has a year from 1 to 9999; a timestamp adds a time of day to the microsecond and,
if it is bound to a zone, the zone's offset in minutes. Each has a plain text, as it
stands in a settings bag, and a constructor text, as it stands inside a written list. -/
namespace TopicTables

/-- A day of the calendar. -/
structure Date where
  year : Nat
  month : Nat
  day : Nat
  deriving DecidableEq, Repr

/-- A part of a date or time that is out of its range. -/
inductive CalendarFault where
  | year
  | month
  | day
  | hour
  | minute
  | second
  /-- An offset of a day or more, in minutes. -/
  | offset (minutes : Int)
  deriving DecidableEq, Repr

namespace Date

/-- The year has a 29 February. -/
def isLeap (year : Nat) : Bool := year % 4 == 0 && (year % 100 != 0 || year % 400 == 0)

/-- How many days a month has. -/
def daysInMonth (year month : Nat) : Nat :=
  if month = 2 then (if isLeap year then 29 else 28)
  else if month = 4 ∨ month = 6 ∨ month = 9 ∨ month = 11 then 30 else 31

/-- The date of the three numbers, or the first of them that is out of range. -/
def of (year month day : Nat) : Except CalendarFault Date :=
  if year = 0 ∨ 9999 < year then .error .year
  else if month = 0 ∨ 12 < month then .error .month
  else if day = 0 ∨ daysInMonth year month < day then .error .day
  else .ok ⟨year, month, day⟩

/-- How many days lie between 1 January of the year 1 and the date. -/
def toDays (d : Date) : Nat :=
  let y := d.year - 1
  let yearDays := 365 * y + y / 4 - y / 100 + y / 400
  (List.range (d.month - 1)).foldl (fun days m => days + daysInMonth d.year (m + 1)) yearDays
    + (d.day - 1)

/-- Year, month and day at a count of days after 1 January 1970. Years are counted from
March, so that the leap day is the last of its year, and in cycles of 400. -/
def ofEpochDays (days : Int) : Int × Nat × Nat :=
  let z := days + 719468
  let cycle := z.fdiv 146097
  let inCycle := (z.fmod 146097).toNat
  let year := (inCycle - inCycle / 1460 + inCycle / 36524 - inCycle / 146096) / 365
  let inYear := inCycle - (365 * year + year / 4 - year / 100)
  let monthFromMarch := (5 * inYear + 2) / 153
  let day := inYear - (153 * monthFromMarch + 2) / 5 + 1
  let month := if monthFromMarch < 10 then monthFromMarch + 3 else monthFromMarch - 9
  (cycle * 400 + year + (if month ≤ 2 then 1 else 0), month, day)

/-- The date with padded numbers, such as `2024-02-29`. -/
def text (d : Date) : Text :=
  decimalPadded 4 d.year ++ '-' :: decimalPadded 2 d.month ++ '-' :: decimalPadded 2 d.day

/-- The date as a constructor with its parts. -/
def constructorText (d : Date) : Text :=
  "datetime.date(".toList
    ++ joinWith ", ".toList ([d.year, d.month, d.day].map decimal) ++ [')']

end Date

/-- A day and a time of day, with the offset of its zone from universal time if it has one. -/
structure Timestamp where
  date : Date
  hour : Nat
  minute : Nat
  second : Nat
  microsecond : Nat
  offset : Option Int
  deriving DecidableEq, Repr

namespace Timestamp

/-- The timestamp of its parts, or the first of them that is out of range: the offset,
then the date, then the time of day. -/
def of (year month day hour minute second microsecond : Nat) (offset : Option Int) :
    Except CalendarFault Timestamp := do
  if let some minutes := offset then
    if minutes.natAbs ≥ 24 * 60 then throw (.offset minutes)
  let date ← Date.of year month day
  if hour > 23 then throw .hour
  if minute > 59 then throw .minute
  if second > 59 then throw .second
  return ⟨date, hour, minute, second, microsecond, offset⟩

/-- Microseconds from the start of the year 1 to the wall-clock time. -/
def wallMicroseconds (t : Timestamp) : Nat :=
  (((t.date.toDays * 24 + t.hour) * 60 + t.minute) * 60 + t.second) * 1000000 + t.microsecond

/-- The two are the same moment. A timestamp with a zone is never one without. -/
def sameMoment (a b : Timestamp) : Bool :=
  match a.offset, b.offset with
  | some p, some q =>
    decide ((a.wallMicroseconds : Int) - p * 60000000 = b.wallMicroseconds - q * 60000000)
  | none, none => a.wallMicroseconds == b.wallMicroseconds
  | _, _ => false

/-- The offset of a zone, such as `+05:30`. -/
def offsetText (minutes : Int) : Text :=
  (if minutes < 0 then '-' else '+') :: decimalPadded 2 (minutes.natAbs / 60)
    ++ ':' :: decimalPadded 2 (minutes.natAbs % 60)

/-- The timestamp, such as `2001-12-14 21:59:43.100000-05:00`; whole seconds have no
fraction. -/
def text (t : Timestamp) : Text :=
  t.date.text ++ ' ' :: decimalPadded 2 t.hour ++ ':' :: decimalPadded 2 t.minute
    ++ ':' :: decimalPadded 2 t.second
    ++ (if t.microsecond = 0 then [] else '.' :: decimalPadded 6 t.microsecond)
    ++ (match t.offset with
      | some minutes => offsetText minutes
      | none => [])

/-- A span of minutes as a constructor with days and seconds; the seconds are not negative. -/
def spanText (minutes : Int) : Text :=
  let days := minutes.fdiv 1440
  let seconds := minutes.fmod 1440 * 60
  let parts :=
    (if days = 0 then [] else ["days=".toList ++ signedDecimal days])
      ++ (if seconds = 0 then [] else ["seconds=".toList ++ signedDecimal seconds])
  "datetime.timedelta(".toList
    ++ (if parts = [] then ['0'] else joinWith ", ".toList parts) ++ [')']

/-- The timestamp as a constructor with its parts; seconds and microseconds are left out
when nothing but zeros follows. -/
def constructorText (t : Timestamp) : Text :=
  let small :=
    if t.microsecond ≠ 0 then [t.second, t.microsecond]
    else if t.second ≠ 0 then [t.second] else []
  let zone := match t.offset with
    | none => []
    | some 0 => ["tzinfo=datetime.timezone.utc".toList]
    | some minutes => ["tzinfo=datetime.timezone(".toList ++ spanText minutes ++ [')']]
  "datetime.datetime(".toList
    ++ joinWith ", ".toList
      (([t.date.year, t.date.month, t.date.day, t.hour, t.minute] ++ small).map decimal ++ zone)
    ++ [')']

end Timestamp

def CalendarFault.message : CalendarFault → Text
  | .year => "year 0 is out of range".toList
  | .month => "month must be in 1..12".toList
  | .day => "day is out of range for month".toList
  | .hour => "hour must be in 0..23".toList
  | .minute => "minute must be in 0..59".toList
  | .second => "second must be in 0..59".toList
  | .offset minutes =>
    "offset must be a timedelta strictly between -timedelta(hours=24) and timedelta(hours=24), not ".toList
      ++ Timestamp.spanText minutes ++ ['.']

end TopicTables
