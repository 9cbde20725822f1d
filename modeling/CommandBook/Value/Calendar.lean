/-!
# Days and points in time

The days of the Gregorian calendar, carried back to the year one, and times of day on them. A point
in time with an offset from universal time is a moment; without one it is only what a clock shows.

## Main definitions

* `Date`, `Date.isReal` — a day, and whether the calendar has it
* `Timestamp`, `Timestamp.same` — a point in time, and when two of them are one
-/

namespace CommandBook

/-- A day of the calendar. -/
structure Date where
  year : Nat
  month : Nat
  day : Nat
deriving DecidableEq, Repr

namespace Date

/-- Whether a year has a twenty-ninth of February. -/
def isLeap (year : Nat) : Bool := year % 4 == 0 && (year % 100 != 0 || year % 400 == 0)

/-- The number of days of a month. -/
def daysIn (year month : Nat) : Nat :=
  if month == 2 then (if isLeap year then 29 else 28)
  else if month == 4 || month == 6 || month == 9 || month == 11 then 30
  else 31

/-- Whether the calendar has a day with these numbers. -/
def isReal (d : Date) : Bool :=
  1 ≤ d.year && 1 ≤ d.month && d.month ≤ 12 && 1 ≤ d.day && d.day ≤ daysIn d.year d.month

/-- The number of days before a year. -/
def daysBefore (year : Nat) : Nat :=
  let y := year - 1
  y * 365 + y / 4 - y / 100 + y / 400

/-- The number of a day, counted from the first day of the year one. -/
def number (d : Date) : Nat :=
  let months := (List.range (d.month - 1)).map fun m => daysIn d.year (m + 1)
  months.foldl (fun days month => days + month) (daysBefore d.year) + d.day

end Date

/-- A time of day on a day, with the offset from universal time in minutes where one was given. -/
structure Timestamp where
  date : Date
  hour : Nat
  minute : Nat
  second : Nat
  microsecond : Nat
  offset : Option Int
deriving DecidableEq, Repr

namespace Timestamp

/-- The minutes up to what the clock shows, less the offset. -/
def minutes (t : Timestamp) (offset : Int) : Int :=
  ((t.date.number * 24 + t.hour) * 60 + t.minute : Nat) - offset

/-- Whether two points in time are one: the same moment or, without offsets, the same clock. -/
def same (a b : Timestamp) : Bool :=
  match a.offset, b.offset with
  | none, none => a == b
  | some x, some y =>
    a.minutes x == b.minutes y && a.second == b.second && a.microsecond == b.microsecond
  | _, _ => false

end Timestamp

end CommandBook
