import ChatTriage.Number.Double
import ChatTriage.Text.CodePoint
import ChatTriage.Time.DateTime

/-!
# Reading dates

Calendar dates (`2024-01-31`, `20240131`) and week dates (`2024-W05-3`, `2024W053`, the day being
optional), any one character, and a time of day (`10:30`, `103000.5`) with an optional offset or
`Z`. Between a week without a day and the time the two can be ambiguous; a digit after `2024-W05-`
and one more character belongs to the time. A NUL where the text could end counts as its end, and
what stands behind it is not looked at.
-/

namespace ChatTriage.DateTime

/-- The value of an ASCII digit. -/
def digit? (c : Char) : Option Nat :=
  if '0' ≤ c && c ≤ '9' then some (c.toNat - 48) else none

/-- A number of exactly `count` digits and what follows it. -/
def digits? (value : Nat) : Nat → List Char → Option (Nat × List Char)
  | 0, cs => some (value, cs)
  | _ + 1, [] => none
  | count + 1, c :: rest => do
    let d ← digit? c
    digits? (value * 10 + d) count rest

/-- The day number of the Monday that starts the first week of a year. -/
def firstMonday (year : Nat) : Nat :=
  let start := Date.dayNumber ⟨year, 1, 1⟩
  -- the weekday of the first day, from Monday = 0 on
  let weekday := (start + 6) % 7
  if 3 < weekday then start + 7 - weekday else start - weekday

/-- The weeks of a year: years that begin on a Thursday have 53, and so do leap years that begin on
a Wednesday. -/
def weeksIn (year : Nat) : Nat :=
  let weekday := (Date.dayNumber ⟨year, 1, 1⟩ + 6) % 7
  if weekday = 3 || (weekday = 2 && Date.isLeap year) then 53 else 52

/-- The date of a day of a week. -/
def weekDate? (year week day : Nat) : Option Date :=
  if 1 ≤ year && year ≤ Date.maxYear && 1 ≤ week && week ≤ weeksIn year && 1 ≤ day && day ≤ 7 then
    some (.ofDayNumber (firstMonday year + (week - 1) * 7 + (day - 1)))
  else none

/-- A week with or without its day, and what follows it; `hyphens` tells whether the parts of the
date are joined by hyphens. -/
def weekPart (hyphens : Bool) (year week : Nat) (rest : List Char) : Option (Date × List Char) :=
  let bare := (weekDate? year week 1).map (·, rest)
  let withDay (after : List Char) : Option (Date × List Char) := do
    let (day, after) ← digits? 0 1 after
    let date ← weekDate? year week day
    pure (date, after)
  if hyphens then
    match rest with
    | '-' :: [] => none
    | '-' :: _ :: c :: _ => if (digit? c).isSome then bare else withDay rest.tail
    | '-' :: after => withDay after
    | _ => bare
  else
    let run := (rest.takeWhile fun c => (digit? c).isSome).length
    if run = 0 || (run % 2 = 1 && 1 < run) then bare else withDay rest

/-- The date at the start of a text, and what follows it. -/
def datePart (cs : List Char) : Option (Date × List Char) := do
  let (year, rest) ← digits? 0 4 cs
  match rest with
  | '-' :: 'W' :: rest =>
    let (week, rest) ← digits? 0 2 rest
    weekPart true year week rest
  | 'W' :: rest =>
    let (week, rest) ← digits? 0 2 rest
    weekPart false year week rest
  | '-' :: rest =>
    let (month, rest) ← digits? 0 2 rest
    match rest with
    | '-' :: rest =>
      let (day, rest) ← digits? 0 2 rest
      pure (⟨year, month, day⟩, rest)
    | _ => none
  | rest =>
    let (month, rest) ← digits? 0 2 rest
    let (day, rest) ← digits? 0 2 rest
    pure (⟨year, month, day⟩, rest)

/-- A time of day as it is written, before its parts are checked. -/
structure Clock where
  hour : Nat := 0
  minute : Nat := 0
  second : Nat := 0
  micro : Nat := 0
  deriving DecidableEq, Repr

/-- The text ends here. -/
def atEnd : List Char → Bool
  | [] => true
  | c :: _ => c = '\x00'

/-- The microseconds of a fraction, whose digits beyond the sixth are dropped, and whether something
other than digits follows. -/
def fractionPart (cs : List Char) : Option (Nat × Bool) := do
  let count := min cs.length 6
  let (value, rest) ← digits? 0 count cs
  pure (value * Number.tenPow (6 - count), !atEnd (rest.dropWhile fun c => (digit? c).isSome))

/-- The parts of a time of day after some of them, `colons` telling whether colons part them. Beside
the clock comes whether one more character stands at the end. -/
def clockFrom (colons : Bool) (read : List Nat) (left : Nat) (cs : List Char) :
    Option (List Nat × Nat × Bool) :=
  match left with
  | 0 => (fractionPart cs).map fun (micro, more) => (read, micro, more)
  | left + 1 => do
    let (value, rest) ← digits? 0 2 cs
    let read := read ++ [value]
    match rest with
    | [] => some (read, 0, false)
    | c :: after =>
      let colons := if left = 2 then c = ':' else colons
      if after.isEmpty && c.toNat < 128 then some (read, 0, !atEnd rest)
      else if colons && c = ':' then clockFrom colons read left after
      else if c = '.' || c = ',' then
        (fractionPart after).map fun (micro, more) => (read, micro, more)
      else if !colons then clockFrom colons read left rest
      else none

/-- A time of day, and whether something stands after it that does not belong to it. -/
def clockPart (cs : List Char) : Option (Clock × Bool) :=
  (clockFrom true [] 3 cs).map fun (parts, micro, more) =>
    (⟨parts.getD 0 0, parts.getD 1 0, parts.getD 2 0, micro⟩, more)

/-- A character that starts an offset. -/
def startsOffset (c : Char) : Bool :=
  c = '+' || c = '-' || c = 'Z'

/-- The offset that a mark and a clock write; a zero clock is universal time. -/
def offsetOf? (mark : Char) (c : Clock) : Option Offset :=
  let seconds := c.hour * 3600 + c.minute * 60 + c.second
  if seconds = 0 then some .zero
  else
    let micros : Int := (seconds * Time.second + c.micro : Nat)
    Offset.of? (if mark = '-' then -micros else micros)

/-- A time of day with its offset. A single character between the two is passed over. -/
def timePart (cs : List Char) : Option (Clock × Option Offset) := do
  let (before, offset) := (cs.takeWhile (!startsOffset ·), cs.dropWhile (!startsOffset ·))
  let (clock, more) ← clockPart before
  match offset with
  | [] => if more then none else some (clock, none)
  | 'Z' :: rest => if atEnd rest then some (clock, some .zero) else none
  | mark :: rest =>
    let (distance, more) ← clockPart rest
    if more then none
    else
      let offset ← offsetOf? mark distance
      pure (clock, some offset)

/-- The date with a time that a text writes; the time is midnight if it is left out. -/
def read? (s : String) : Option DateTime := do
  let (date, rest) ← datePart s.toList
  let (clock, offset) ← match rest with
    | [] => some (({} : Clock), none)
    | rest => timePart (Text.afterPoint rest)
  let wall ← Wall.ofCivil? date clock.hour clock.minute clock.second clock.micro
  pure ⟨wall, offset⟩

end ChatTriage.DateTime
