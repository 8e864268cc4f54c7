import ChatTriage.Channel.Session
import ChatTriage.Proofs.Number.Integer
import ChatTriage.Proofs.Phone.Dialled

/-!
# Destinations of a session

A destination stands for a user by the digits of an id behind the mark, or for a number that can be
dialled (`Session.Reaches`), and is refused otherwise. The refusal is one of the channel but for one
kind of destination: an id that consists of signs for digits and is no number that can be read
(`Session.Misnumbered`) passes the look at its signs and fails when it is read.
`Session.resolve_ends_regularly_iff` puts the three together.
-/

namespace ChatTriage.Channel.Session

/-- Whom a destination stands for. -/
inductive Reaches : String → Entity → Prop where
  | user {id : List Char} :
    id ≠ [] →
    (∀ c ∈ id, Text.isDecimal c = true) →
    id.length ≤ Number.maxDigits →
    Reaches (String.ofList (userMark ++ id)) (.user (Number.digitsFrom 0 id))
  | number {destination : String} :
    ¬ userMark <+: destination.toList →
    7 ≤ (Phone.digitsOf destination).length →
    Phone.PlusLeads destination.toList →
    Reaches destination (.number ("+" ++ Phone.digitsOf destination))

/-- An id whose signs all stand for digits, but are not all digits that numbers are written in, or
are too many. -/
inductive Misnumbered : String → Prop where
  | intro {id : List Char} :
    id ≠ [] →
    (∀ c ∈ id, Text.isDigitSign c = true) →
    (∃ c ∈ id, Text.isDecimal c = false) ∨ Number.maxDigits < id.length →
    Misnumbered (String.ofList (userMark ++ id))

variable {destination : String} {whom : Entity} {id : List Char}

/-- A marked id begins with its mark. -/
lemma isPrefixOf_marked : userMark.isPrefixOf (userMark ++ id) = true := by
  rw [List.isPrefixOf_iff_prefix]
  exact List.prefix_append userMark id

/-- An id is looked at sign by sign before it is read as a number. -/
lemma resolve_of_no_signs (other : (id.isEmpty || !id.all Text.isDigitSign) = true) :
    resolve (String.ofList (userMark ++ id)) =
      .error (.channel (.userId (String.ofList (userMark ++ id)))) := by
  unfold resolve
  simp only [String.toList_ofList, isPrefixOf_marked, if_true, List.drop_left, other]

section
variable (some : id ≠ []) (signs : ∀ c ∈ id, Text.isDigitSign c = true)
include some signs

/-- A marked number is the id of a user. -/
lemma resolve_of_read {n : Int} (read : Number.readInteger (String.ofList id) = .ok n) :
    resolve (String.ofList (userMark ++ id)) = .ok (.user n) := by
  unfold resolve
  simp only [String.toList_ofList, isPrefixOf_marked, if_true, List.drop_left,
    List.isEmpty_eq_false_iff.mpr some, List.all_eq_true.mpr signs, Bool.not_true, Bool.or_false,
    Bool.false_eq_true, if_false, read]

/-- What is marked and no number is a fault. -/
lemma resolve_of_unread {cause : Number.IntegerFault}
    (unread : Number.readInteger (String.ofList id) = .error cause) :
    resolve (String.ofList (userMark ++ id)) = .error (.value (.integer cause)) := by
  unfold resolve
  simp only [String.toList_ofList, isPrefixOf_marked, if_true, List.drop_left,
    List.isEmpty_eq_false_iff.mpr some, List.all_eq_true.mpr signs, Bool.not_true, Bool.or_false,
    Bool.false_eq_true, if_false, unread]

end

section
variable (unmarked : ¬ userMark <+: destination.toList)
include unmarked

/-- What does not begin with the mark is dialled. -/
lemma resolve_of_dialled {number : String}
    (dialled : Phone.format (.str destination) = .ok number) :
    resolve destination = .ok (.number number) := by
  unfold resolve
  simp only [mt List.isPrefixOf_iff_prefix.mp unmarked, Bool.false_eq_true, if_false, dialled]

/-- A number that cannot be dialled is refused. -/
lemma resolve_of_undialled {cause : ValueFault}
    (refused : Phone.format (.str destination) = .error (.value cause)) :
    resolve destination = .error (.channel (.phone cause)) := by
  unfold resolve
  simp only [mt List.isPrefixOf_iff_prefix.mp unmarked, Bool.false_eq_true, if_false, refused]

end

/-- What reaches somebody is resolved. -/
lemma resolve_of_reaches (reaches : Reaches destination whom) : resolve destination = .ok whom := by
  cases reaches with
  | user some decimal short =>
    exact resolve_of_read some (fun c member => Text.isDigitSign_of_isDecimal (decimal c member))
      (Number.readInteger_of_decimals decimal some short)
  | number unmarked enough leads =>
    exact resolve_of_dialled unmarked (Phone.format_eq_ok_iff.mpr ⟨enough, leads, rfl⟩)

/-- What is misnumbered is a fault. -/
lemma resolve_of_misnumbered (misnumbered : Misnumbered destination) :
    ∃ cause, resolve destination = .error (.value (.integer cause)) := by
  cases misnumbered with
  | @intro id some signs off =>
    cases read : Number.readInteger (String.ofList id) with
    | error cause => exact ⟨cause, resolve_of_unread some signs read⟩
    | ok n =>
      obtain ⟨-, decimal, short⟩ := (Number.exists_readInteger_iff signs).mp ⟨n, read⟩
      obtain ⟨c, member, other⟩ | long := off
      · rw [decimal c member] at other
        cases other
      · exact absurd short (Nat.not_le.mpr long)

/-- An id that consists of signs for digits is read, or it is misnumbered. -/
lemma reaches_or_misnumbered (some : id ≠ []) (signs : ∀ c ∈ id, Text.isDigitSign c = true) :
    (∃ whom, Reaches (String.ofList (userMark ++ id)) whom) ∨
    Misnumbered (String.ofList (userMark ++ id)) := by
  by_cases decimal : ∀ c ∈ id, Text.isDecimal c = true
  · by_cases short : id.length ≤ Number.maxDigits
    · exact .inl ⟨_, .user some decimal short⟩
    · exact .inr (.intro some signs (.inr (Nat.lt_of_not_le short)))
  · push Not at decimal
    obtain ⟨c, member, other⟩ := decimal
    exact .inr (.intro some signs (.inl ⟨c, member, Bool.eq_false_iff.mpr other⟩))

/-- A destination stands for somebody, is refused by the channel, or is misnumbered. -/
lemma resolve_cases (destination : String) :
    (∃ whom, Reaches destination whom) ∨ (∃ cause, resolve destination = .error (.channel cause)) ∨
      Misnumbered destination := by
  by_cases marked : userMark <+: destination.toList
  · obtain ⟨id, whole⟩ := marked
    have same : destination = String.ofList (userMark ++ id) := by rw [whole, String.ofList_toList]
    subst same
    cases refused : id.isEmpty || !id.all Text.isDigitSign with
    | true => exact .inr (.inl ⟨_, resolve_of_no_signs refused⟩)
    | false =>
      rw [Bool.or_eq_false_iff, List.isEmpty_eq_false_iff, Bool.not_eq_false',
        List.all_eq_true] at refused
      exact (reaches_or_misnumbered refused.1 refused.2).imp_right .inr
  · cases dialled : Phone.format (.str destination) with
    | ok number =>
      obtain ⟨enough, leads, rfl⟩ := Phone.format_eq_ok_iff.mp dialled
      exact .inl ⟨_, .number marked enough leads⟩
    | error f =>
      obtain ⟨cause, rfl⟩ := Phone.exists_of_format_error dialled
      exact .inr (.inl ⟨_, resolve_of_undialled marked dialled⟩)

/-- A destination is resolved exactly when it stands for somebody: an id for the user with that
number, and any other for a plus sign and at least seven digits. It is resolved or refused by the
channel unless it is misnumbered, and then it fails as a text does that is no number. -/
theorem resolve_ends_regularly_iff (destination : String) :
    (∀ whom, resolve destination = .ok whom ↔ Reaches destination whom) ∧
      (((∃ whom, resolve destination = .ok whom) ∨ ∃ cause, resolve destination =
        .error (.channel cause)) ↔
        ¬ Misnumbered destination) ∧
      ((∃ cause, resolve destination = .error (.value (.integer cause))) ↔
        Misnumbered destination) := by
  refine ⟨fun whom => ⟨fun resolved => ?_, resolve_of_reaches⟩, ⟨?_, fun smooth => ?_⟩,
    ?_, resolve_of_misnumbered⟩
  · obtain ⟨whom', reaches⟩ | ⟨cause, refused⟩ | misnumbered := resolve_cases destination
    · cases resolved.symm.trans (resolve_of_reaches reaches)
      exact reaches
    · cases resolved.symm.trans refused
    · obtain ⟨cause, failed⟩ := resolve_of_misnumbered misnumbered
      cases resolved.symm.trans failed
  · intro regular misnumbered
    obtain ⟨cause, failed⟩ := resolve_of_misnumbered misnumbered
    obtain ⟨whom, resolved⟩ | ⟨cause, refused⟩ := regular
    · cases resolved.symm.trans failed
    · cases refused.symm.trans failed
  · obtain ⟨whom, reaches⟩ | refused | misnumbered := resolve_cases destination
    · exact .inl ⟨whom, resolve_of_reaches reaches⟩
    · exact .inr refused
    · exact absurd misnumbered smooth
  · rintro ⟨cause, failed⟩
    obtain ⟨whom, reaches⟩ | ⟨cause, refused⟩ | misnumbered := resolve_cases destination
    · cases failed.symm.trans (resolve_of_reaches reaches)
    · cases failed.symm.trans refused
    · exact misnumbered

/-- A superscript stands for a digit, and no number is written in it. -/
theorem resolve_derailed_by_superscript :
    resolve "id:²" = .error (.value (.integer (.invalid "²"))) ∧
      ¬ ((∃ whom, resolve "id:²" = .ok whom) ∨ ∃ cause, resolve "id:²" =
        .error (.channel cause)) := by
  have failed : resolve "id:²" = .error (.value (.integer (.invalid "²"))) := by decide +kernel
  obtain ⟨-, regular_iff, failing_iff⟩ := resolve_ends_regularly_iff "id:²"
  exact ⟨failed, fun regular => regular_iff.mp regular (failing_iff.mp ⟨_, failed⟩)⟩

end ChatTriage.Channel.Session
