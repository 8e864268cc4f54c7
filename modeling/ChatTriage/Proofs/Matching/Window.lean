import ChatTriage.Matching
import ChatTriage.Proofs.Time.Clock

/-!
# The time window of a filter

On the clock of a zone that keeps one distance from universal time (`Zone.Keeps`) a time range
accepts the instants whose minute of the day lies between its bounds and whose weekday is among its
days. The bounds are written times (`TimeRange.Bound`) that are compared as texts. An instant is
taken to universal time first, so it has to lie in the calendar there too.
-/

namespace ChatTriage

variable {t t' : DateTime} {o o' : Offset} {zone : Zone} {w : Wall} {n d : Int}

namespace Time

/-- The minute of the day at a number of microseconds from the start of the calendar. -/
def minuteAt (n : Int) : Int :=
  n % day / minute

/-- The weekday at a number of microseconds from the start of the calendar, from Sunday = 0 on; the
calendar starts with a Monday. -/
def weekdayAt (n : Int) : Int :=
  (n / day + 1) % 7

end Time

/-- A zone whose clock keeps one distance from universal time, in microseconds. -/
inductive Zone.Keeps : Zone → Int → Prop
  | utc : Keeps .utc 0
  | fixed (o : Offset) : Keeps (.fixed o) o.micros

/-- A zone that keeps its distance has it at all times. -/
lemma Zone.Keeps.offsetAt (keeps : zone.Keeps d) (universal : Wall) :
    zone.offsetAt universal = d := by
  cases keeps with
  | utc => rfl
  | fixed o => rfl

namespace Wall

/-- The minute of the day is told from the microseconds. -/
lemma minuteOfDay_cast (w : Wall) : (w.minuteOfDay : Int) = Time.minuteAt w.micros := by
  simp only [minuteOfDay, Time.minuteAt, Int.natCast_ediv, Int.natCast_emod]

/-- So is the weekday. -/
lemma weekday_cast (w : Wall) : (w.weekday : Int) = Time.weekdayAt w.micros := by
  simp only [weekday, Date.weekday, dayNumber, Time.weekdayAt]
  omega

end Wall

namespace DateTime

/-- Universal time tells the instant. -/
lemma universal_eq (aware : t.offset = some o) : t.universal = Wall.of t.instant := by
  simp only [universal, instant, aware]

/-- An instant in the calendar is shown by the clock of a zone if its reading there is in the
calendar too. -/
lemma inZone_eq (aware : t.offset = some o) (keeps : zone.Keeps d)
    (inside : Time.InCalendar t.instant) :
    t.inZone zone = Wall.of (t.instant + d) := by
  obtain ⟨universal, read, micros⟩ := Wall.of_inCalendar inside
  rw [inZone, universal_eq aware, read, ← micros, ← keeps.offsetAt universal]
  rfl

/-- An instant outside the calendar cannot be shown. -/
lemma inZone_error (aware : t.offset = some o) (outside : ¬ Time.InCalendar t.instant) :
    t.inZone zone = .error (.range .date) := by
  rw [inZone, universal_eq aware, Wall.of_not_inCalendar outside]
  rfl

/-- The same instant is shown alike. -/
lemma inZone_of_instant_eq (aware : t.offset = some o) (aware' : t'.offset = some o')
    (same : t'.instant = t.instant) : t'.inZone zone = t.inZone zone := by
  rw [inZone, inZone, universal_eq aware, universal_eq aware', same]

end DateTime

namespace TimeRange

/-- A bound of a time range that is missing, or a written time, which tells a minute of the day. -/
inductive Bound : Json → Option Nat → Prop
  | missing {bound : Json} (blank : bound.truthy = false) : Bound bound none
  | time (hour minute : Nat) (hours : hour < 100) (minutes : minute < 60) :
    Bound (.str (clockText hour minute)) (some (hour * 60 + minute))

/-- A moment on a clock lies between a first and a last minute of the day, if there are both, and on
one of the days, if there are any. -/
def Window (first last : Option Nat) (days : List Int) (n : Int) : Prop :=
  (∀ start ∈ first, ∀ stop ∈ last, start ≤ Time.minuteAt n ∧ Time.minuteAt n ≤ stop) ∧
    (days = [] ∨ Time.weekdayAt n ∈ days)

variable {r : TimeRange} {bound : Json} {first last told : Option Nat} {start stop : Nat}

/-- A bound is there when it tells a time. -/
lemma Bound.truthy (written : Bound bound told) : bound.truthy = told.isSome := by
  cases written with
  | missing blank => exact blank
  | time => simp [Json.truthy, clockText_ne_empty]

/-- The clock is compared with a written start as the minutes of the day are. -/
lemma Bound.before (written : Bound bound (some start)) :
    clockBefore "<" (fun bound => w.clock < bound) bound =
      .ok (decide (w.minuteOfDay < start)) := by
  cases written with
  | time hour minute hours minutes => simp only [clockBefore, (w.clock_lt_iff hours minutes).1]

/-- The clock is compared with a written end as the minutes of the day are. -/
lemma Bound.after (written : Bound bound (some stop)) :
    clockBefore ">" (fun bound => bound < w.clock) bound = .ok (decide (stop < w.minuteOfDay)) := by
  cases written with
  | time hour minute hours minutes => simp only [clockBefore, (w.clock_lt_iff hours minutes).2]

/-- The clock lies between two written times exactly when its minute of the day lies between
theirs. -/
lemma hoursAccept_iff (starts : Bound r.start first) (stops : Bound r.stop last) :
    ∃ accepted, r.hoursAccept w.clock = .ok accepted ∧
      (accepted = true ↔ ∀ start ∈ first, ∀ stop ∈ last, start ≤ w.minuteOfDay ∧
        w.minuteOfDay ≤ stop) := by
  have given : (r.start.truthy && r.stop.truthy) = (first.isSome && last.isSome) := by
    rw [starts.truthy, stops.truthy]
  cases first with
  | none => exact ⟨true, by rw [hoursAccept, given]; rfl, by simp⟩
  | some start =>
    cases last with
    | none => exact ⟨true, by rw [hoursAccept, given]; rfl, by simp⟩
    | some stop =>
      rw [hoursAccept, given, starts.before, stops.after]
      by_cases early : w.minuteOfDay < start
      · exact ⟨false, by simp only [early, decide_true]; rfl, by simp; omega⟩
      · by_cases late : stop < w.minuteOfDay
        · exact ⟨false, by simp only [early, late, decide_true, decide_false]; rfl, by simp; omega⟩
        · exact ⟨true, by simp only [early, late, decide_false]; rfl, by simp; omega⟩

/-- A weekday is accepted if there are no days, or it is one of them. -/
lemma daysAccept_iff {weekday : Nat} :
    r.daysAccept weekday = true ↔ r.days = [] ∨ (weekday : Int) ∈ r.days := by
  rw [daysAccept, Bool.or_eq_true, List.isEmpty_iff, List.contains_iff_mem]

/-- A moment that can be shown is accepted in its window. -/
lemma accepts_iff_of_inZone (shown : t.inZone zone = .ok w) (starts : Bound r.start first)
    (stops : Bound r.stop last) :
    ∃ accepted, r.accepts (some t) zone = .ok accepted ∧
      (accepted = true ↔ Window first last r.days w.micros) := by
  obtain ⟨between, hours, exact⟩ := hoursAccept_iff (w := w) starts stops
  refine ⟨between && r.daysAccept w.weekday, ?_, ?_⟩
  · rw [accepts, localWall, shown]
    change (r.hoursAccept w.clock >>= _) = _
    rw [hours]
    cases between <;> rfl
  · rw [Bool.and_eq_true, exact, daysAccept_iff, Window, ← w.minuteOfDay_cast, ← w.weekday_cast]
    simp only [Nat.cast_le]

/-- A time range accepts the instants that lie in its window on the clock of a zone. -/
lemma accepts_iff (aware : t.offset = some o) (keeps : zone.Keeps d)
    (inside : Time.InCalendar t.instant)
    (shown : Time.InCalendar (t.instant + d)) (starts : Bound r.start first)
    (stops : Bound r.stop last) :
    ∃ accepted, r.accepts (some t) zone = .ok accepted ∧
      (accepted = true ↔ Window first last r.days (t.instant + d)) := by
  obtain ⟨w, read, micros⟩ := Wall.of_inCalendar shown
  rw [← micros]
  exact accepts_iff_of_inZone ((DateTime.inZone_eq aware keeps inside).trans read) starts stops

/-- One that cannot be shown is out of range. -/
lemma accepts_error (aware : t.offset = some o) (outside : ¬ Time.InCalendar t.instant) :
    r.accepts (some t) zone = .error (.range .date) := by
  rw [accepts, localWall, DateTime.inZone_error aware outside]
  rfl

/-- The same instant is accepted alike. -/
lemma accepts_of_instant_eq (aware : t.offset = some o) (aware' : t'.offset = some o')
    (same : t'.instant = t.instant) : r.accepts (some t') zone = r.accepts (some t) zone := by
  rw [accepts, accepts, localWall, localWall, DateTime.inZone_of_instant_eq aware aware' same]

/-- On a clock with a fixed distance from universal time, a time range accepts the instants whose
minute of the day lies between its bounds and whose weekday is among its days, where the calendar
reaches to the instant in universal time; where it does not, the range cannot be asked. It accepts
no instant if it starts after its end, and does not see by which clock an instant was written. -/
theorem accepts_exactly_in_window (aware : t.offset = some o) (keeps : zone.Keeps d)
    (shown : Time.InCalendar (t.instant + d)) (starts : Bound r.start first)
    (stops : Bound r.stop last) :
    (Time.InCalendar t.instant → ∃ accepted, r.accepts (some t) zone = .ok accepted ∧
      (accepted = true ↔ Window first last r.days (t.instant + d))) ∧
    (¬ Time.InCalendar t.instant → r.accepts (some t) zone = .error (.range .date)) ∧
    (∀ start ∈ first, ∀ stop ∈ last, stop < start → r.accepts (some t) zone ≠ .ok true) ∧
    ∀ t' o', t'.offset = some o' → t'.instant = t.instant →
      r.accepts (some t') zone = r.accepts (some t) zone := by
  refine ⟨fun inside => accepts_iff aware keeps inside shown starts stops, accepts_error aware, ?_,
    fun t' o' aware' same => accepts_of_instant_eq aware aware' same⟩
  intro start starting stop stopping reversed accepted
  by_cases inside : Time.InCalendar t.instant
  · obtain ⟨answer, answered, window⟩ := accepts_iff aware keeps inside shown starts stops
    cases answered.symm.trans accepted
    obtain ⟨low, high⟩ := (window.mp rfl).1 start starting stop stopping
    omega
  · cases (accepts_error aware inside).symm.trans accepted

namespace Sample

/-- A clock that is some hours from universal time. -/
def clockAt (hours : Int) (near : (hours * Time.hour).natAbs < Time.day) : Offset :=
  ⟨hours * Time.hour, near⟩

/-- A range of hours on some days. -/
def between (start stop : String) (days : List Int) : TimeRange :=
  ⟨.str start, .str stop, days⟩

/-- Half past eleven on a Saturday evening in 2024, five hours behind universal time. -/
def saturday : DateTime :=
  ⟨⟨738953 * Time.day + 23 * Time.hour + 30 * Time.minute, by decide⟩,
    some (clockAt (-5) (by decide))⟩

/-- The same instant, as the clocks of universal time tell it. -/
def sunday : DateTime :=
  ⟨⟨738954 * Time.day + 4 * Time.hour + 30 * Time.minute, by decide⟩, some .zero⟩

/-- Half past midnight on the first day of the calendar, two hours ahead of universal time. -/
def firstNight : DateTime :=
  ⟨⟨30 * Time.minute, by decide⟩, some (clockAt 2 (by decide))⟩

/-- Three hours ahead of universal time. -/
def east : Offset := clockAt 3 (by decide)

end Sample

open Sample

/-- An instant of a Saturday evening lies in a window of a Sunday morning further east. -/
theorem accepts_exactly_in_window_sunday :
    (between "07:00" "07:30" [0]).accepts (some saturday) (.fixed east) = .ok true ∧
    (between "07:00" "07:30" [0]).accepts (some sunday) (.fixed east) = .ok true ∧
    (between "07:30" "07:00" [0]).accepts (some saturday) (.fixed east) ≠ .ok true := by
  have early : Bound (.str "07:00") (some 420) := .time 7 0 (by decide) (by decide)
  have late : Bound (.str "07:30") (some 450) := .time 7 30 (by decide) (by decide)
  have shown : Time.InCalendar (saturday.instant + east.micros) := by decide
  obtain ⟨exact, -, -, same⟩ :=
    accepts_exactly_in_window (t := saturday)
      (r := between "07:00" "07:30" [0]) rfl (.fixed east) shown early late
  obtain ⟨-, -, never, -⟩ :=
    accepts_exactly_in_window (t := saturday)
      (r := between "07:30" "07:00" [0]) rfl (.fixed east) shown late early
  obtain ⟨accepted, answered, window⟩ := exact (by decide)
  cases window.mpr ⟨by decide, by decide⟩
  refine ⟨answered, ?_, never _ rfl _ rfl (by decide)⟩
  rw [same sunday .zero rfl (by decide), answered]

/-- Half past one in the first night of the calendar lies in a window, but a range with this window
cannot be asked: the calendar does not reach to the instant in universal time. -/
theorem accepts_fails_before_the_calendar :
    firstNight.offset.isSome = true ∧ (Zone.fixed east).Keeps east.micros ∧
    Time.InCalendar (firstNight.instant + east.micros) ∧
    Bound (between "01:00" "02:00" []).start (some 60) ∧
      Bound (between "01:00" "02:00" []).stop (some 120) ∧
    Window (some 60) (some 120) [] (firstNight.instant + east.micros) ∧
    (between "01:00" "02:00" []).accepts (some firstNight) (.fixed east) = .error (.range .date) :=
  ⟨rfl, .fixed east,
    by decide, .time 1 0 (by decide) (by decide), .time 2 0 (by decide) (by decide),
    ⟨by decide, .inl rfl⟩, rfl⟩

end TimeRange

end ChatTriage
