import ChatTriage.Proofs.Number.Integer
import ChatTriage.Proofs.Time.Reader
import ChatTriage.Time.Zone

/-!
# The order of clock readings

The calendar has a reading at each number of microseconds as far as it reaches (`Time.InCalendar`).
Numbers with zeros in front up to one width are ordered as texts as they are as numbers, and so are
clock readings of two digits for the hour and two for the minute (`clockText`).
-/

namespace ChatTriage

variable {xs ys zs ws : List Char} {width m n hour minute hour' minute' : Nat}

namespace Time

/-- The calendar reaches to a number of microseconds from its start. -/
def InCalendar (n : Int) : Prop :=
  0 ≤ n ∧ n < calendarEnd

instance :
    DecidablePred InCalendar := fun n => inferInstanceAs (Decidable (0 ≤ n ∧ n < calendarEnd))

end Time

namespace Wall

variable {n : Int}

/-- In the calendar there is a reading at each number of microseconds. -/
lemma of_inCalendar (inside : Time.InCalendar n) :
    ∃ w, Wall.of n = .ok w ∧ (w.micros : Int) = n := by
  obtain ⟨first, last⟩ := inside
  have found : 0 ≤ n ∧ n.toNat < Time.calendarEnd := ⟨first, by omega⟩
  refine ⟨⟨n.toNat, found.2⟩, ?_, Int.toNat_of_nonneg first⟩
  simp only [Wall.of, of?, dif_pos found]

/-- There is no date outside the calendar. -/
lemma of_not_inCalendar (outside : ¬ Time.InCalendar n) : Wall.of n = .error (.range .date) := by
  have missed : ¬ (0 ≤ n ∧ n.toNat < Time.calendarEnd) := by
    rintro ⟨first, last⟩
    exact outside ⟨first, by omega⟩
  simp only [Wall.of, of?, dif_neg missed]

end Wall

/-- Of texts with starts of one length the starts decide, unless they are the same. -/
lemma append_lt_append_iff (same : xs.length = ys.length) :
    xs ++ zs < ys ++ ws ↔ xs < ys ∨ xs = ys ∧ zs < ws := by
  induction xs generalizing ys with
  | nil =>
    cases List.length_eq_zero_iff.mp same.symm
    simp
  | cons c xs ih =>
    cases ys with
    | nil => cases same
    | cons d ys =>
      have rest := ih (Nat.succ.inj same)
      rw [List.cons_append, List.cons_append, List.cons_lt_cons_iff, List.cons_lt_cons_iff, rest,
        List.cons_eq_cons]
      tauto

/-- As many digits after two numbers leave them in their order, and decide where they are the
same. -/
lemma ofDigitChars_lt_iff (same : xs.length = ys.length) (digits : ∀ c ∈ xs, c.isDigit = true)
    (digits' : ∀ c ∈ ys, c.isDigit = true) :
    Nat.ofDigitChars 10 xs m < Nat.ofDigitChars 10 ys n ↔ m < n ∨ m = n ∧ xs < ys := by
  induction xs generalizing ys m n with
  | nil =>
    cases List.length_eq_zero_iff.mp same.symm
    simp
  | cons c xs ih =>
    cases ys with
    | nil => cases same
    | cons d ys =>
      obtain ⟨first, others⟩ := List.forall_mem_cons.mp digits
      obtain ⟨first', others'⟩ := List.forall_mem_cons.mp digits'
      have low := toNat_of_isDigit first
      have low' := toNat_of_isDigit first'
      have zero : '0'.toNat = 48 := rfl
      have less : c < d ↔ c.toNat < d.toNat := Iff.rfl
      rw [Nat.ofDigitChars_cons, Nat.ofDigitChars_cons, ih (Nat.succ.inj same) others others',
        List.cons_lt_cons_iff, less, ← Char.toNat_inj, zero]
      -- a digit is less than ten, so the number in front decides first
      by_cases rest : xs < ys
      · simp only [rest, and_true]
        omega
      · simp only [rest, and_false, or_false]
        omega

/-- Numbers of one width are ordered as their texts. -/
lemma padded_lt_iff (positive : 0 < width) (few : m < 10 ^ width) (few' : n < 10 ^ width) :
    (padded width m).toList < (padded width n).toList ↔ m < n := by
  have same : (padded width m).toList.length = (padded width n).toList.length := by
    rw [length_padded positive few, length_padded positive few']
  have order := ofDigitChars_lt_iff (m := 0) (n := 0) same (fun c => isDigit_of_mem_padded)
    fun c => isDigit_of_mem_padded
  rw [ofDigitChars_padded, ofDigitChars_padded] at order
  simpa using order.symm

/-- Padded numbers are the same when the numbers are. -/
lemma padded_inj : (padded width m).toList = (padded width n).toList ↔ m = n := by
  refine ⟨fun same => ?_, fun same => same ▸ rfl⟩
  have number := congrArg (Nat.ofDigitChars 10 · 0) same
  simpa only [ofDigitChars_padded] using number

/-- A time of day as it is written: two digits for the hour and two for the minute. -/
def clockText (hour minute : Nat) : String :=
  padded 2 hour ++ ":" ++ padded 2 minute

/-- The text of a clock is not empty. -/
lemma clockText_ne_empty : clockText hour minute ≠ "" := by
  intro none
  have length := congrArg (·.toList.length) none
  simp [clockText] at length

/-- Written times are ordered as the minutes of the day that they tell. -/
lemma clockText_lt_iff (hours : hour < 100) (minutes : minute < 60) (hours' : hour' < 100)
    (minutes' : minute' < 60) :
    clockText hour minute < clockText hour' minute' ↔
      hour * 60 + minute < hour' * 60 + minute' := by
  have same : (padded 2 hour).toList.length = (padded 2 hour').toList.length := by
    rw [length_padded (by decide) hours, length_padded (by decide) hours']
  have text (hour minute : Nat) : (clockText hour minute).toList =
      (padded 2 hour).toList ++ ':' :: (padded 2 minute).toList := by
    simp [clockText]
  rw [String.lt_iff, text, text, append_lt_append_iff same, List.cons_lt_cons_iff,
    padded_lt_iff (by decide) hours hours',
    padded_lt_iff (by decide) (by omega) (by omega), padded_inj]
  have even : ¬ ':' < ':' := by decide
  simp only [even, true_and, false_or]
  omega

namespace Wall

variable {w : Wall}

/-- A clock shows hour and minute. -/
lemma clock_eq (w : Wall) : w.clock = clockText w.hour w.minute := rfl

/-- The minute of the day, by the hour and the minute that the clock shows. -/
lemma minuteOfDay_eq (w : Wall) : w.minuteOfDay = w.hour * 60 + w.minute := by
  simp only [minuteOfDay, hour, minute, Time.day, Time.hour, Time.minute, Time.second]
  omega

/-- The clock shows an earlier time than a text when it is earlier in the day. -/
lemma clock_lt_iff (hours : hour < 100) (minutes : minute < 60) :
    (w.clock < clockText hour minute ↔ w.minuteOfDay < hour * 60 + minute) ∧
      (clockText hour minute < w.clock ↔ hour * 60 + minute < w.minuteOfDay) := by
  have hour : w.hour < 100 := Nat.lt_trans (Nat.mod_lt _ (by decide : 0 < 24)) (by decide)
  have minute : w.minute < 60 := Nat.mod_lt _ (by decide)
  rw [clock_eq, minuteOfDay_eq, clockText_lt_iff hour minute hours minutes,
    clockText_lt_iff hours minutes hour minute]
  exact ⟨Iff.rfl, Iff.rfl⟩

end Wall

end ChatTriage
