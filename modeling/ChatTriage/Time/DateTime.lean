import ChatTriage.Text.Quoted
import ChatTriage.Time.Civil

/-!
# Dates with a time of day

A wall clock reading to the microsecond, with the distance of that clock from universal time where
it is known. A reading without one is taken as universal time when it is converted.
-/

namespace ChatTriage

/-- Microseconds in a second, a minute, an hour and a day. -/
def Time.second : Nat := 1000000
def Time.minute : Nat := 60 * Time.second
def Time.hour : Nat := 60 * Time.minute
def Time.day : Nat := 24 * Time.hour

/-- The end of the calendar, in microseconds from its start. -/
def Time.calendarEnd : Nat := 3652059 * Time.day

/-- A wall clock reading, in microseconds from the start of the calendar. -/
structure Wall where
  micros : Nat
  inCalendar : micros < Time.calendarEnd
  deriving DecidableEq, Repr

/-- The distance of a clock from universal time, in microseconds; it is less than a day. -/
structure Offset where
  micros : Int
  inDay : micros.natAbs < Time.day
  deriving DecidableEq, Repr

/-- A wall clock reading and, where it is known, the clock's offset. -/
structure DateTime where
  wall : Wall
  offset : Option Offset
  deriving DecidableEq, Repr

namespace Wall

/-- The reading at a number of microseconds, if the calendar reaches so far. -/
def of? (micros : Int) : Option Wall :=
  if h : 0 ≤ micros ∧ micros.toNat < Time.calendarEnd then some ⟨micros.toNat, h.2⟩ else none

/-- The reading at a date and a time of day. -/
def ofCivil? (date : Date) (hour minute second micro : Nat) : Option Wall :=
  if date.isValid && hour < 24 && minute < 60 && second < 60 && micro < Time.second then
    of? ((date.dayNumber - 1) * Time.day + hour * Time.hour + minute * Time.minute +
      second * Time.second + micro : Nat)
  else none

def dayNumber (w : Wall) : Nat :=
  w.micros / Time.day + 1

def date (w : Wall) : Date :=
  .ofDayNumber w.dayNumber

def hour (w : Wall) : Nat :=
  w.micros / Time.hour % 24

def minute (w : Wall) : Nat :=
  w.micros / Time.minute % 60

def second (w : Wall) : Nat :=
  w.micros / Time.second % 60

def micro (w : Wall) : Nat :=
  w.micros % Time.second

/-- The minute of the day. -/
def minuteOfDay (w : Wall) : Nat :=
  w.micros % Time.day / Time.minute

/-- The weekday, from Sunday = 0 on. -/
def weekday (w : Wall) : Nat :=
  Date.weekday w.dayNumber

end Wall

/-- A number with zeros in front up to a width. -/
def padded (width n : Nat) : String :=
  let digits := Nat.toDigits 10 n
  String.ofList (List.replicate (width - digits.length) '0' ++ digits)

namespace Wall

/-- The hour and the minute as `HH:MM`. -/
def clock (w : Wall) : String :=
  padded 2 w.hour ++ ":" ++ padded 2 w.minute

/-- The reading as `DD/MM/YYYY, HH:MM:SS`; the year has no more digits than it needs. -/
def longText (w : Wall) : String :=
  padded 2 w.date.day ++ "/" ++ padded 2 w.date.month ++ "/" ++ toString w.date.year ++ ", " ++
    w.clock ++ ":" ++ padded 2 w.second

/-- The reading as `YYYY-MM-DD HH:MM`; the year has no more digits than it needs. -/
def shortText (w : Wall) : String :=
  toString w.date.year ++ "-" ++ padded 2 w.date.month ++ "-" ++ padded 2 w.date.day ++
    " " ++ w.clock

/-- The reading as `YYYY-MM-DDTHH:MM:SS`, with six more digits if there are microseconds. -/
def iso (w : Wall) : String :=
  padded 4 w.date.year ++ "-" ++ padded 2 w.date.month ++ "-" ++ padded 2 w.date.day ++ "T" ++
    w.clock ++ ":" ++ padded 2 w.second ++
    (if w.micro = 0 then "" else "." ++ padded 6 w.micro)

end Wall

namespace Offset

def zero : Offset :=
  ⟨0, by decide⟩

/-- The offset of a number of microseconds, if it is less than a day. -/
def of? (micros : Int) : Option Offset :=
  if h : micros.natAbs < Time.day then some ⟨micros, h⟩ else none

/-- The offset as `+HH:MM`, with seconds and microseconds where there are any. -/
def iso (o : Offset) : String :=
  let n := o.micros.natAbs
  (if o.micros < 0 then "-" else "+") ++ padded 2 (n / Time.hour) ++ ":" ++
    padded 2 (n / Time.minute % 60) ++
    (if n % Time.minute = 0 then ""
     else ":" ++ padded 2 (n / Time.second % 60) ++
       (if n % Time.second = 0 then "" else "." ++ padded 6 (n % Time.second)))

end Offset

namespace DateTime

/-- The written form of a date with a time. -/
def iso (t : DateTime) : String :=
  t.wall.iso ++ (match t.offset with | some o => o.iso | none => "")

/-- The microseconds from the start of the calendar in universal time. -/
def instant (t : DateTime) : Int :=
  t.wall.micros - (match t.offset with | some o => o.micros | none => 0)

end DateTime

end ChatTriage
