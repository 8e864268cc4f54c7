/-!
# The calendar

Days of the Gregorian calendar from 1 January of the year 1 to 31 December of the year 9999, counted
from 1, and the way back from a count to a date.
-/

namespace ChatTriage

/-- A date of the calendar. -/
structure Date where
  year : Nat
  month : Nat
  day : Nat
  deriving DecidableEq, Repr

namespace Date

def maxYear : Nat := 9999

/-- A year with 29 February. -/
def isLeap (year : Nat) : Bool :=
  year % 4 = 0 && (year % 100 ≠ 0 || year % 400 = 0)

/-- The days of a month. -/
def daysIn (year month : Nat) : Nat :=
  match month with
  | 2 => if isLeap year then 29 else 28
  | 4 | 6 | 9 | 11 => 30
  | _ => 31

/-- The days of the years before a year. -/
def daysBeforeYear (year : Nat) : Nat :=
  let y := year - 1
  y * 365 + y / 4 - y / 100 + y / 400

/-- The days of the months before a month. -/
def daysBeforeMonth (year month : Nat) : Nat :=
  (List.range (month - 1)).foldl (fun days m => days + daysIn year (m + 1)) 0

/-- A date that the calendar has. -/
def isValid (d : Date) : Bool :=
  1 ≤ d.year && d.year ≤ maxYear && 1 ≤ d.month && d.month ≤ 12 && 1 ≤ d.day &&
    d.day ≤ daysIn d.year d.month

/-- The number of a day; 1 January of the year 1 is day 1. -/
def dayNumber (d : Date) : Nat :=
  daysBeforeYear d.year + daysBeforeMonth d.year d.month + d.day

/-- The month and the day of a day of a year counted from 0, from a month on; `fuel` months are
left. -/
def monthAndDay (year month : Nat) : Nat → Nat → Nat × Nat
  | 0, day => (month, day + 1)
  | fuel + 1, day =>
    if day < daysIn year month then (month, day + 1)
    else monthAndDay year (month + 1) fuel (day - daysIn year month)

/-- The date of a day number. -/
def ofDayNumber (n : Nat) : Date :=
  let n := n - 1
  let cycles := n / 146097
  let n := n % 146097
  let centuries := min (n / 36524) 3
  let n := n - centuries * 36524
  let fours := n / 1461
  let n := n % 1461
  let years := min (n / 365) 3
  let n := n - years * 365
  let year := cycles * 400 + centuries * 100 + fours * 4 + years + 1
  let (month, day) := monthAndDay year 1 11 n
  ⟨year, month, day⟩

/-- The weekday of a day number, from Sunday = 0 on. -/
def weekday (n : Nat) : Nat :=
  n % 7

end Date

end ChatTriage
