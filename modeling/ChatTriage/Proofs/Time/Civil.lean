import Mathlib.Algebra.Order.Ring.Int
import Mathlib.Tactic.Common
import ChatTriage.Time.DateTime

/-!
# Dates and day numbers

The date of a day number is one that the calendar has, and has that day number. A year is found by
counting cycles of 400 years, centuries, groups of four years and years; what is left is a day of
the year, which lies before the end of the year. A reading of a clock is the reading at its date and
its time of day.
-/

namespace ChatTriage

namespace Date

variable {n year month day : Nat}

/-- The days of a year. -/
def daysInYear (year : Nat) : Nat :=
  if isLeap year then 366 else 365

/-- A month later are its days more. -/
lemma daysBeforeMonth_succ (positive : 1 ≤ month) :
    daysBeforeMonth year (month + 1) = daysBeforeMonth year month + daysIn year month := by
  unfold daysBeforeMonth
  obtain ⟨month, rfl⟩ := Nat.exists_eq_add_of_le' positive
  rw [Nat.add_sub_cancel, Nat.add_sub_cancel, List.range_succ, List.foldl_append]
  rfl

/-- After twelve months the year is over. -/
lemma daysBeforeMonth_thirteen (year : Nat) : daysBeforeMonth year 13 = daysInYear year := by
  unfold daysInYear
  cases leap : isLeap year <;> simp [daysBeforeMonth, daysIn, leap, List.range_succ]

/-- A month has at most 31 days. -/
lemma daysIn_le (year month : Nat) : daysIn year month ≤ 31 := by
  unfold daysIn
  split
  · split <;> decide
  all_goals decide

/-- Going through the months from one on finds the month of a day. -/
lemma monthAndDay_spec {fuel : Nat} (positive : 1 ≤ month)
    (within : daysBeforeMonth year month + day < daysBeforeMonth year (month + fuel + 1)) :
    let found := monthAndDay year month fuel day
    (month ≤ found.1 ∧ found.1 ≤ month + fuel) ∧ (1 ≤ found.2 ∧ found.2 ≤ daysIn year found.1) ∧
      daysBeforeMonth year found.1 + found.2 = daysBeforeMonth year month + day + 1 := by
  induction fuel generalizing month day with
  | zero =>
    rw [Nat.add_zero, daysBeforeMonth_succ positive] at within
    simp only [monthAndDay]
    omega
  | succ fuel ih =>
    have next : daysBeforeMonth year (month + 1) = daysBeforeMonth year month + daysIn year month :=
      daysBeforeMonth_succ positive
    by_cases here : day < daysIn year month
    · simp only [monthAndDay, if_pos here]
      omega
    · have left : daysBeforeMonth year (month + 1) + (day - daysIn year month) <
          daysBeforeMonth year (month + 1 + fuel + 1) := by
        rw [show month + 1 + fuel + 1 = month + (fuel + 1) + 1 by omega]
        omega
      have rest := ih (Nat.le_add_left ..) left
      simp only [monthAndDay, if_neg here] at rest ⊢
      omega

/-- The days before a year, by its cycle of 400 years, its century, its group of four years and its
place in there. -/
lemma daysBeforeYear_eq {cycles centuries fours years : Nat} (century : centuries ≤ 3)
    (four : fours ≤ 24)
    (rest : years ≤ 3) :
    daysBeforeYear (cycles * 400 + centuries * 100 + fours * 4 + years + 1) =
      cycles * 146097 + centuries * 36524 + fours * 1461 + years * 365 := by
  unfold daysBeforeYear
  simp only
  omega

/-- A day number tells a year and a day of that year. -/
lemma exists_ofDayNumber (first : 1 ≤ n) (last : n ≤ 3652059) :
    ∃ year day, 1 ≤ year ∧ year ≤ maxYear ∧ day < daysInYear year ∧
      daysBeforeYear year + day + 1 = n ∧
      ofDayNumber n = ⟨year, (monthAndDay year 1 11 day).1, (monthAndDay year 1 11 day).2⟩ := by
  refine ⟨_, _, ?_, ?_, ?_, ?_, rfl⟩
  · omega
  · unfold maxYear
    omega
  · unfold daysInYear isLeap
    split
    · omega
    · rename_i leap
      simp at leap
      omega
  · rw [daysBeforeYear_eq (by omega) (by omega) (by omega)]
    omega

/-- The date of a day number is in the calendar and has that number. -/
lemma ofDayNumber_spec (first : 1 ≤ n) (last : n ≤ 3652059) :
    (ofDayNumber n).isValid = true ∧ (ofDayNumber n).dayNumber = n := by
  obtain ⟨year, day, some, within, early, number, found⟩ := exists_ofDayNumber first last
  have none : daysBeforeMonth year 1 = 0 := rfl
  have whole := daysBeforeMonth_thirteen year
  have left : daysBeforeMonth year 1 + day < daysBeforeMonth year (1 + 11 + 1) := by
    rw [none, whole]
    omega
  obtain ⟨⟨january, december⟩, ⟨one, month⟩, counts⟩ := monthAndDay_spec (Nat.le_refl 1) left
  rw [found]
  constructor
  · simp [isValid, some, within, january, december, one, month]
  · unfold dayNumber
    simp only
    omega

end Date

namespace Wall

variable {w : Wall}

/-- The calendar ends with the year 9999. -/
lemma dayNumber_le (w : Wall) : w.dayNumber ≤ 3652059 := by
  have inCalendar := w.inCalendar
  unfold Time.calendarEnd at inCalendar
  unfold dayNumber
  have some : 0 < Time.day := by decide
  have := (Nat.div_lt_iff_lt_mul some).mpr inCalendar
  omega

/-- The date of a moment is valid and that of its day. -/
lemma date_spec (w : Wall) : w.date.isValid = true ∧ w.date.dayNumber = w.dayNumber :=
  Date.ofDayNumber_spec (Nat.le_add_left ..) w.dayNumber_le

/-- A reading is the one at its date and its time of day. -/
lemma ofCivil?_eq (w : Wall) : Wall.ofCivil? w.date w.hour w.minute w.second w.micro = some w := by
  obtain ⟨valid, number⟩ := w.date_spec
  have inCalendar := w.inCalendar
  have parts : (w.date.dayNumber - 1) * Time.day + w.hour * Time.hour + w.minute * Time.minute +
      w.second * Time.second + w.micro = w.micros := by
    rw [number]
    simp only [dayNumber, hour, minute, second, micro, Time.day, Time.hour, Time.minute,
      Time.second]
    omega
  have hours : w.hour < 24 := Nat.mod_lt _ (by decide)
  have minutes : w.minute < 60 := Nat.mod_lt _ (by decide)
  have seconds : w.second < 60 := Nat.mod_lt _ (by decide)
  have micros : w.micro < Time.second := Nat.mod_lt _ (by decide)
  unfold ofCivil? of?
  rw [parts]
  simp [valid, hours, minutes, seconds, micros, inCalendar]

end Wall

end ChatTriage
