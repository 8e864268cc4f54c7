import Mathlib.Data.List.TakeWhile
import ChatTriage.Proofs.Text.CodePoint
import ChatTriage.Proofs.Time.Civil
import ChatTriage.Time.Reader

/-!
# Reading written dates

A date that some text writes reads back from its own written form. The one kind of date that does
not is one whose clock is less than a second, but not nothing, away from universal time; no text
writes such a date.
-/

namespace ChatTriage

/-- A number is padded to its width. -/
lemma length_padded {width n : Nat} (positive : 0 < width) (few : n < 10 ^ width) :
    (padded width n).toList.length = width := by
  have short := (Nat.length_toDigits_le_iff (b := 10) (by decide) positive).mpr few
  unfold padded
  rw [String.toList_ofList, List.length_append, List.length_replicate]
  omega

/-- A padded number consists of digits. -/
lemma isDigit_of_mem_padded {width n : Nat} {c : Char} (member : c ∈ (padded width n).toList) :
    c.isDigit = true := by
  unfold padded at member
  rw [String.toList_ofList] at member
  obtain zero | digit := List.mem_append.mp member
  · rw [List.eq_of_mem_replicate zero]
    rfl
  · exact Nat.isDigit_of_mem_toDigits (by decide) (by decide) digit

/-- A padded number is read back. -/
lemma ofDigitChars_padded (width n : Nat) : Nat.ofDigitChars 10 (padded width n).toList 0 = n := by
  unfold padded
  rw [String.toList_ofList, Nat.ofDigitChars_append, Nat.ofDigitChars_replicate_zero, Nat.mul_zero,
    Nat.ofDigitChars_ten_toDigits]

namespace DateTime

variable {cs rest : List Char} {c : Char} {n count value : Nat}

/-- A digit is read as its value. -/
lemma digit?_of_isDigit (digit : c.isDigit = true) : digit? c = some (c.toNat - 48) := by
  unfold Char.isDigit at digit
  simp at digit
  simp [digit?, Char.le_def, digit]

/-- Digits are read up to what follows them. -/
lemma digits?_append (digits : ∀ c ∈ cs, c.isDigit = true) :
    digits? value cs.length (cs ++ rest) = some (Nat.ofDigitChars 10 cs value, rest) := by
  induction cs generalizing value with
  | nil => rfl
  | cons c cs ih =>
    obtain ⟨first, others⟩ := List.forall_mem_cons.mp digits
    simp [digits?, digit?_of_isDigit first, ih others, Nat.ofDigitChars, Nat.mul_comm]

/-- A padded number is read with what follows it left over. -/
lemma digits?_padded (positive : 0 < count) (few : n < 10 ^ count) :
    digits? 0 count ((padded count n).toList ++ rest) = some (n, rest) := by
  have read : digits? 0 (padded count n).toList.length ((padded count n).toList ++ rest) =
      some (Nat.ofDigitChars 10 (padded count n).toList 0, rest) :=
    digits?_append fun c member => isDigit_of_mem_padded member
  rwa [length_padded positive few, ofDigitChars_padded] at read

/-- A number of at most two digits, as two of them. -/
def two (n : Nat) : List Char :=
  (padded 2 n).toList

/-- Two digits are read back. -/
lemma digits?_two (few : n < 100) : digits? 0 2 (two n ++ rest) = some (n, rest) :=
  digits?_padded (by decide) few

/-- A number below a hundred has two digits. -/
lemma two_eq (few : n < 100) : ∃ c d, two n = [c, d] ∧ c.isDigit = true ∧ d.isDigit = true := by
  have length : (padded 2 n).toList.length = 2 := length_padded (by decide) few
  unfold two
  match chars : (padded 2 n).toList, length with
  | [c, d], _ =>
    have digits (x : Char) (member : x ∈ [c, d]) := isDigit_of_mem_padded (chars ▸ member)
    exact ⟨c, d, rfl, digits c (by simp), digits d (by simp)⟩

/-- They are not nothing. -/
lemma two_ne_nil (few : n < 100) : two n ≠ [] := by
  obtain ⟨c, d, chars, -⟩ := two_eq few
  rw [chars]
  exact List.cons_ne_nil c [d]

/-- A date in the calendar is read. -/
lemma datePart_written {date : Date} (valid : date.isValid = true) :
    datePart
      ((padded 4 date.year).toList ++ '-' :: (two date.month ++ '-' :: (two date.day ++ rest))) =
      some (date, rest) := by
  obtain ⟨year, month, day⟩ := date
  have short := Date.daysIn_le year month
  simp only [Date.isValid, Bool.and_eq_true, decide_eq_true_eq] at valid
  unfold Date.maxYear at valid
  have readYear (rest : List Char) : digits? 0 4 ((padded 4 year).toList ++ rest) =
      some (year, rest) :=
    digits?_padded (by decide) (by omega)
  have readMonth (rest : List Char) : digits? 0 2 (two month ++ rest) = some (month, rest) :=
    digits?_two (by omega)
  have readDay : digits? 0 2 (two day ++ rest) = some (day, rest) := digits?_two (by omega)
  obtain ⟨c, d, chars, digit, -⟩ := two_eq (n := month) (by omega)
  -- a week date would have a letter where the month begins
  have noWeek : c ≠ 'W' := by
    rintro rfl
    cases digit
  unfold datePart
  rw [readYear]
  rw [chars] at readMonth ⊢
  simp [noWeek] at readMonth ⊢
  rw [readMonth]
  simp [readDay]

/-- A clock as it is written, without its seconds if it has none of them. -/
inductive Clock.Written : Clock → List Char → Prop where
  | minutes {hour minute} :
    hour < 100 → minute < 100 →
    Written ⟨hour, minute, 0, 0⟩ (two hour ++ ':' :: two minute)
  | seconds {hour minute second} :
    hour < 100 → minute < 100 → second < 100 →
    Written ⟨hour, minute, second, 0⟩ (two hour ++ ':' :: (two minute ++ ':' :: two second))
  | micros {hour minute second micro} :
    hour < 100 → minute < 100 → second < 100 → micro < 1000000 →
    Written ⟨hour, minute, second, micro⟩
      (two hour ++ ':' :: (two minute ++ ':' :: (two second ++ '.' :: (padded 6 micro).toList)))

/-- Six digits of a fraction are microseconds. -/
lemma fractionPart_padded {micro : Nat} (few : micro < 1000000) :
    fractionPart (padded 6 micro).toList = some (micro, false) := by
  have length : (padded 6 micro).toList.length = 6 := length_padded (by decide) few
  have read : digits? 0 6 ((padded 6 micro).toList ++ []) = some (micro, []) :=
    digits?_padded (by decide) few
  rw [List.append_nil] at read
  unfold fractionPart
  simp only [length, Nat.min_self]
  simp [read, atEnd, Number.tenPow]

variable {colons : Bool} {parts : List Nat} {left : Nat}

/-- A clock may end with any part. -/
lemma clockFrom_end (few : n < 100) :
    clockFrom colons parts (left + 1) (two n) = some (parts ++ [n], 0, false) := by
  have read : digits? 0 2 (two n ++ []) = some (n, []) := digits?_two few
  rw [List.append_nil] at read
  unfold clockFrom
  rw [read]
  rfl

/-- After a colon comes another part. -/
lemma clockFrom_colon (few : n < 100) (parted : colons = true ∨ left = 2) (more : rest ≠ []) :
    clockFrom colons parts (left + 1) (two n ++ ':' :: rest) =
      clockFrom true (parts ++ [n]) left rest := by
  rw [clockFrom, digits?_two few]
  obtain rfl | rfl := parted <;> simp [more]

/-- After a point come microseconds. -/
lemma clockFrom_fraction {micro : Nat} (few : n < 100) (fewer : micro < 1000000) :
    clockFrom colons parts (left + 1) (two n ++ '.' :: (padded 6 micro).toList) =
      some (parts ++ [n], micro, false) := by
  have more : padded 6 micro ≠ "" := by
    intro none
    have length : (padded 6 micro).toList.length = 6 := length_padded (by decide) fewer
    rw [none] at length
    cases length
  rw [clockFrom, digits?_two few]
  simp [more, fractionPart_padded fewer]

/-- A written clock is read back. -/
lemma Clock.Written.read {clock : Clock} (written : clock.Written cs) :
    clockPart cs = some (clock, false) := by
  unfold clockPart
  cases written with
  | minutes hour minute =>
    rw [clockFrom_colon hour (.inl rfl) (two_ne_nil minute), clockFrom_end minute]
    rfl
  | seconds hour minute second =>
    rw [clockFrom_colon hour (.inl rfl) (by simp),
      clockFrom_colon minute (.inl rfl) (two_ne_nil second), clockFrom_end second]
    rfl
  | micros hour minute second micro =>
    rw [clockFrom_colon hour (.inl rfl) (by simp), clockFrom_colon minute (.inl rfl) (by simp),
      clockFrom_fraction second micro]
    rfl

/-- No character of a clock starts an offset. -/
lemma Clock.Written.plain {clock : Clock} (written : clock.Written cs) :
    ∀ c ∈ cs, (!startsOffset c) = true := by
  have digits {width n : Nat} {c : Char} (member : c ∈ (padded width n).toList) :
      (!startsOffset c) = true := by
    have digit := isDigit_of_mem_padded member
    unfold startsOffset
    by_cases mark : c = '+' ∨ c = '-' ∨ c = 'Z'
    · obtain rfl | rfl | rfl := mark <;> cases digit
    · simpa [and_assoc] using mark
  -- a clock is a row of parts and separators, none of which starts an offset
  have part {width n : Nat} {sep : Char} {rest : List Char} (plain : (!startsOffset sep) = true)
      (others : ∀ c ∈ rest, (!startsOffset c) = true) :
      ∀ c ∈ (padded width n).toList ++ sep :: rest, (!startsOffset c) = true :=
    List.forall_mem_append.mpr ⟨fun _ => digits, List.forall_mem_cons.mpr ⟨plain, others⟩⟩
  cases written with
  | minutes => exact part rfl fun _ => digits
  | seconds => exact part rfl (part rfl fun _ => digits)
  | micros => exact part rfl (part rfl (part rfl fun _ => digits))

/-- A clock without an offset is read. -/
lemma timePart_clock {clock : Clock} (written : clock.Written cs) :
    timePart cs = some (clock, none) := by
  have before : cs.takeWhile (!startsOffset ·) = cs := List.takeWhile_eq_self_iff.mpr written.plain
  have after : cs.dropWhile (!startsOffset ·) = [] := List.dropWhile_eq_nil_iff.mpr written.plain
  unfold timePart
  simp only [before, after, written.read]
  rfl

/-- A clock with an offset is read. -/
lemma timePart_offset {clock distance : Clock} {cs' : List Char} {o : Offset} {mark : Char}
    (written : clock.Written cs) (away : distance.Written cs') (marked : mark = '+' ∨ mark = '-')
    (offset : offsetOf? mark distance = some o) :
    timePart (cs ++ mark :: cs') = some (clock, some o) := by
  have starts : (!startsOffset mark) = false := by
    obtain rfl | rfl := marked <;> rfl
  -- the clock ends at the first sign
  have before : (cs ++ mark :: cs').takeWhile (!startsOffset ·) = cs := by
    rw [List.takeWhile_append_of_pos written.plain, List.takeWhile_cons_of_neg (by simp [starts]),
      List.append_nil]
  have after : (cs ++ mark :: cs').dropWhile (!startsOffset ·) = mark :: cs' := by
    rw [List.dropWhile_append_of_pos written.plain, List.dropWhile_cons_of_neg (by simp [starts])]
  unfold timePart
  simp only [before, after, written.read]
  obtain rfl | rfl := marked <;> simp [away.read, offset]

end DateTime

open DateTime

/-- The written form of a reading: its date and its clock. -/
lemma Wall.iso_written (w : Wall) :
    ∃ cs, w.iso.toList = (padded 4 w.date.year).toList ++
        '-' :: (two w.date.month ++ '-' :: (two w.date.day ++ 'T' :: cs)) ∧
      Clock.Written ⟨w.hour, w.minute, w.second, w.micro⟩ cs := by
  have hours : w.hour < 24 := Nat.mod_lt _ (by decide)
  have minutes : w.minute < 60 := Nat.mod_lt _ (by decide)
  have seconds : w.second < 60 := Nat.mod_lt _ (by decide)
  have micros : w.micro < 1000000 := Nat.mod_lt _ (by decide)
  by_cases whole : w.micro = 0
  · rw [whole]
    refine ⟨_, ?_, .seconds (by omega) (by omega) (by omega)⟩
    simp [iso, clock, whole, two]
  · refine ⟨_, ?_, .micros (by omega) (by omega) (by omega) micros⟩
    simp [iso, clock, whole, two]

/-- The clock that the written form of an offset shows. -/
def Offset.clock (o : Offset) : Clock :=
  ⟨o.micros.natAbs / Time.hour, o.micros.natAbs / Time.minute % 60,
    o.micros.natAbs / Time.second % 60, o.micros.natAbs % Time.second⟩

/-- The written form of an offset: its direction and its clock. -/
lemma Offset.iso_written (o : Offset) :
    ∃ cs, o.iso.toList = (if o.micros < 0 then '-' else '+') :: cs ∧ o.clock.Written cs := by
  have inDay := o.inDay
  have hours : o.micros.natAbs / Time.hour < 24 := by
    simp only [Time.day, Time.hour, Time.minute, Time.second] at *
    omega
  have minutes : o.micros.natAbs / Time.minute % 60 < 60 := Nat.mod_lt _ (by decide)
  have seconds : o.micros.natAbs / Time.second % 60 < 60 := Nat.mod_lt _ (by decide)
  have micros : o.micros.natAbs % Time.second < 1000000 := Nat.mod_lt _ (by decide)
  by_cases short : o.micros.natAbs % Time.minute = 0
  · have none : o.clock =
        ⟨o.micros.natAbs / Time.hour, o.micros.natAbs / Time.minute % 60, 0, 0⟩ := by
      simp only [clock, Clock.mk.injEq, true_and, Time.minute, Time.second] at *
      omega
    rw [none]
    refine ⟨_, ?_, .minutes (by omega) (by omega)⟩
    by_cases west : o.micros < 0 <;> simp [iso, short, west, two]
  · by_cases whole : o.micros.natAbs % Time.second = 0
    · rw [clock, whole]
      refine ⟨_, ?_, .seconds (by omega) (by omega) (by omega)⟩
      by_cases west : o.micros < 0 <;> simp [iso, short, whole, west, two]
    · refine ⟨_, ?_, .micros (by omega) (by omega) (by omega) micros⟩
      by_cases west : o.micros < 0 <;> simp [iso, short, whole, west, two]

namespace DateTime

/-- Some text writes the date. -/
def Legible (t : DateTime) : Prop :=
  ∃ text, read? text = some t

/-- An offset that is nothing or at least a second is found in its written form. -/
lemma offsetOf?_clock {o : Offset} (far : o.micros = 0 ∨ Time.second ≤ o.micros.natAbs) :
    offsetOf? (if o.micros < 0 then '-' else '+') o.clock = some o := by
  have seconds : o.clock.hour * 3600 + o.clock.minute * 60 + o.clock.second =
      o.micros.natAbs / Time.second := by
    simp only [Offset.clock, Time.hour, Time.minute, Time.second]
    omega
  have micros : o.micros.natAbs / Time.second * Time.second + o.clock.micro = o.micros.natAbs :=
    Nat.div_add_mod' ..
  have inDay := o.inDay
  unfold offsetOf? Offset.of?
  simp only [seconds, micros]
  -- less than a second away the reader would forget the rest
  obtain none | some := far
  · have same : o = .zero := by
      cases o
      simpa [Offset.zero] using none
    have small : o.micros.natAbs / Time.second = 0 := by
      rw [none]
      rfl
    rw [if_pos small, same]
  · have whole : o.micros.natAbs / Time.second ≠ 0 := (Nat.div_pos some (by decide)).ne'
    by_cases west : o.micros < 0
    · have same : -(o.micros.natAbs : Int) = o.micros := by omega
      simp only [if_neg whole, if_pos west, if_true, same]
      exact dif_pos inDay
    · have same : (o.micros.natAbs : Int) = o.micros := by omega
      have east : ('+' : Char) ≠ '-' := by decide
      simp only [if_neg whole, if_neg west, if_neg east, same]
      exact dif_pos inDay

/-- An offset of less than a second is found as universal time. -/
lemma offsetOf?_clock_of_near {o : Offset} {mark : Char} (near : o.micros.natAbs < Time.second) :
    offsetOf? mark o.clock = some .zero := by
  have nothing : o.clock.hour * 3600 + o.clock.minute * 60 + o.clock.second = 0 := by
    simp only [Offset.clock, Time.hour, Time.minute, Time.second] at near ⊢
    omega
  unfold offsetOf?
  exact if_pos nothing

/-- The letter between date and time is cut off. -/
lemma separator (cs : List Char) : Text.afterPoint ('T' :: cs) = cs :=
  Text.afterPoint_cons (by decide)

/-- A date without an offset reads back from its written form. -/
lemma read?_iso_wall (wall : Wall) : read? (DateTime.iso ⟨wall, none⟩) = some ⟨wall, none⟩ := by
  obtain ⟨cs, written, clock⟩ := wall.iso_written
  have text : (DateTime.iso ⟨wall, none⟩).toList = wall.iso.toList := by simp [iso]
  unfold read?
  rw [text, written, datePart_written wall.date_spec.1]
  simp [separator, timePart_clock clock, wall.ofCivil?_eq]

/-- A date with an offset is read from its written form with the offset that is found there. -/
lemma read?_iso_offset {wall : Wall} {o found : Offset}
    (finds : offsetOf? (if o.micros < 0 then '-' else '+') o.clock = some found) :
    read? (DateTime.iso ⟨wall, some o⟩) = some ⟨wall, some found⟩ := by
  obtain ⟨cs, written, clock⟩ := wall.iso_written
  obtain ⟨cs', away, distance⟩ := o.iso_written
  have text : (DateTime.iso ⟨wall, some o⟩).toList = wall.iso.toList ++ o.iso.toList := by
    simp [iso]
  have marked : (if o.micros < 0 then '-' else '+') = '+' ∨
      (if o.micros < 0 then '-' else '+') = '-' := by
    split
    · exact .inr rfl
    · exact .inl rfl
  have timed := timePart_offset clock distance marked finds
  unfold read?
  rw [text, written, away]
  simp only [List.append_assoc, List.cons_append]
  rw [datePart_written wall.date_spec.1]
  simp [separator, timed, wall.ofCivil?_eq]

/-- A date reads back from its own written form, if its offset is nothing or at least a second. -/
lemma read?_iso_of_far {t : DateTime}
    (far : ∀ o, t.offset = some o → o.micros = 0 ∨ Time.second ≤ o.micros.natAbs) :
    read? t.iso = some t := by
  obtain ⟨wall, offset⟩ := t
  cases offset with
  | none => exact read?_iso_wall wall
  | some o => exact read?_iso_offset (offsetOf?_clock (far o rfl))

/-- Every date can be read from its written form, though not always as the same one. -/
lemma exists_read?_iso (t : DateTime) : ∃ found, read? t.iso = some found := by
  obtain ⟨wall, offset⟩ := t
  cases offset with
  | none => exact ⟨_, read?_iso_wall wall⟩
  | some o =>
    by_cases far : Time.second ≤ o.micros.natAbs
    · exact ⟨_, read?_iso_offset (offsetOf?_clock (.inr far))⟩
    · exact ⟨_, read?_iso_offset (offsetOf?_clock_of_near (by omega))⟩

/-- An offset has the microseconds that it was made from. -/
lemma micros_of_of? {micros : Int} {o : Offset} (found : Offset.of? micros = some o) :
    o.micros = micros := by
  unfold Offset.of? at found
  split at found
  · cases found
    rfl
  · cases found

/-- An offset that was read is zero or at least a second. -/
lemma far_of_offsetOf? {mark : Char} {distance : Clock} {o : Offset}
    (found : offsetOf? mark distance = some o) : o.micros = 0 ∨ Time.second ≤ o.micros.natAbs := by
  unfold offsetOf? at found
  simp only at found
  split at found
  · cases found
    exact .inl rfl
  · right
    rw [micros_of_of? found]
    unfold Time.second
    split <;> omega

/-- An offset that is read is nothing or at least a second. -/
lemma far_of_timePart {clock : Clock} {o : Offset} (read : timePart cs = some (clock, some o)) :
    o.micros = 0 ∨ Time.second ≤ o.micros.natAbs := by
  unfold timePart at read
  obtain ⟨⟨clock', more⟩, -, read⟩ := Option.bind_eq_some_iff.mp read
  simp only at read
  split at read
  · split at read <;> cases read
  · split at read
    · cases read
      exact .inl rfl
    · cases read
  · obtain ⟨⟨distance, more⟩, -, read⟩ := Option.bind_eq_some_iff.mp read
    simp only at read
    split at read
    · cases read
    · obtain ⟨offset, found, read⟩ := Option.bind_eq_some_iff.mp read
      cases read
      exact far_of_offsetOf? found

/-- The dates that some text writes are those whose offset is nothing or at least a second. -/
lemma legible_iff {t : DateTime} :
    t.Legible ↔ ∀ o, t.offset = some o → o.micros = 0 ∨ Time.second ≤ o.micros.natAbs := by
  constructor
  · rintro ⟨text, read⟩ o offset
    obtain ⟨⟨date, rest⟩, -, read⟩ := Option.bind_eq_some_iff.mp read
    cases rest with
    | nil =>
      obtain ⟨⟨clock, found⟩, midnight, read⟩ := Option.bind_eq_some_iff.mp read
      obtain ⟨wall, -, same⟩ := Option.bind_eq_some_iff.mp read
      -- a text without a clock is midnight without an offset
      cases midnight
      cases same
      cases offset
    | cons c time =>
      obtain ⟨⟨clock, found⟩, timed, read⟩ := Option.bind_eq_some_iff.mp read
      obtain ⟨wall, -, same⟩ := Option.bind_eq_some_iff.mp read
      cases same
      cases offset
      exact far_of_timePart timed
  · exact fun far => ⟨t.iso, read?_iso_of_far far⟩

/-- A date that some text writes reads back from its own written form. -/
theorem Legible.read?_iso {t : DateTime} (legible : t.Legible) : read? t.iso = some t :=
  read?_iso_of_far (legible_iff.mp legible)

end DateTime

end ChatTriage
