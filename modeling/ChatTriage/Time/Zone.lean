import ChatTriage.Fault
import ChatTriage.Path
import ChatTriage.Time.DateTime

/-!
# Time zones

Where a wall clock hangs: at the host (whose clock shows universal time), at a fixed distance from
universal time, or in Rome with the summer time of the European Union. Converting fails where one of
the readings on the way leaves the calendar.
-/

namespace ChatTriage

/-- A time zone. -/
inductive Zone where
  | host
  | utc
  | fixed (offset : Offset)
  | rome
  deriving DecidableEq, Repr

namespace Zone

/-- The last Sunday of a month with 31 days, at one o'clock universal time, in microseconds from the
start of the calendar. -/
def lastSunday (year month : Nat) : Nat :=
  let last := Date.dayNumber ⟨year, month, 31⟩
  (last - Date.weekday last - 1) * Time.day + Time.hour

/-- Summer time lasts from the last Sunday of March to the last Sunday of October. -/
def isSummer (universal : Wall) : Bool :=
  let year := universal.date.year
  lastSunday year 3 ≤ universal.micros && universal.micros < lastSunday year 10

/-- The distance of the zone's clock from universal time, in microseconds. -/
def offsetAt (z : Zone) (universal : Wall) : Int :=
  match z with
  | .host | .utc => 0
  | .fixed o => o.micros
  | .rome => if isSummer universal then 2 * Time.hour else Time.hour

/-- What stands for the directory of all zones. -/
def directory : String := "_"

/-- A text can be the name of a zone: a relative path that is as short as it can be, and leads on
from the directory of all zones. -/
def isName (name : String) : Bool :=
  let names := Path.names name
  let target := Path.resolve (directory :: names)
  !name.startsWith "/" && "/".intercalate (Path.resolve names) = name &&
    target.head? = some directory && 1 < target.length

/-- The names of universal time. -/
def universalNames : List String :=
  let names := ["UTC", "UCT", "GMT", "GMT0", "GMT+0", "GMT-0", "Greenwich", "Universal", "Zulu"]
  names ++ names.map ("Etc/" ++ ·)

/-- The names of the time in Rome. -/
def romanNames : List String :=
  ["Europe/Rome", "Europe/San_Marino", "Europe/Vatican"]

/-- The zone that a setting names; none means the host's. -/
def named (name : String) : Except Fault Zone :=
  if name.isEmpty then .ok .host
  else if !isName name then .error (.value (.zoneName name))
  else if universalNames.contains name then .ok .utc
  else if romanNames.contains name then .ok .rome
  else .error (.unknownZone name)

end Zone

/-- A reading, or the fault that the calendar ends before it. -/
def Wall.of (micros : Int) : Except Fault Wall :=
  match Wall.of? micros with
  | some w => .ok w
  | none => .error (.range .date)

/-- The same instant in universal time. A reading without an offset needs a whole day before it. -/
def DateTime.universal (t : DateTime) : Except Fault Wall :=
  match t.offset with
  | some o => Wall.of (t.wall.micros - o.micros)
  | none =>
    if t.wall.micros < Time.day then .error (.value (.year "year 0 is out of range"))
      else .ok t.wall

/-- The wall clock of a zone at an instant. -/
def DateTime.inZone (t : DateTime) (z : Zone) : Except Fault Wall := do
  let universal ← t.universal
  Wall.of (universal.micros + z.offsetAt universal)

end ChatTriage
