import ChatTriage.Proofs.Channel.Cloud
import ChatTriage.Proofs.Filter.Breaks
import ChatTriage.Proofs.Time.Clock

/-!
# What the provider's answers say

An answer is a text from outside, of which anything may have become. What a cloud channel reads in
it is found in some shapes only: the receipt of a text (`Receipt`), the codes of a failure
(`Misdescribed` tells where there are none), the grant of a token (`Grants`), and its end
(`Undatable` tells where there is none). In the other shapes reading fails, and never with a fault
of the channel.
-/

namespace ChatTriage

/-- A fault that a channel may fail with. -/
def Fault.isChannel : Fault → Bool
  | .channel _ => true
  | _ => false

/-- A reading fails with a fault that tells nothing of the channel. -/
abbrev Derailed {α : Type} (x : Except Fault α) (f : Fault) : Prop :=
  Fails Fault.isChannel x f

namespace Json

variable {x : Json} {f : Fault} {name : String}

/-- Only objects can be asked. -/
lemma exists_obj_of_get {y : Json} (asked : x.get name = .ok y) : ∃ fields, x = .obj fields := by
  cases x with
  | obj fields => exact ⟨fields, rfl⟩
  | _ => cases asked

/-- An object is first in nothing but a list. -/
lemma exists_arr_of_first {fields : List (String × Json)} (headed : x.first = .ok (.obj fields)) :
    ∃ rest, x = .arr (.obj fields :: rest) := by
  cases x with
  | arr items =>
    cases items with
    | nil => cases headed
    | cons y rest =>
      cases headed
      exact ⟨rest, rfl⟩
  | str s =>
    unfold first at headed
    simp only at headed
    split at headed <;> cases headed
  | _ => cases headed

/-- What is asked of a value is never a matter of the channel. -/
lemma isChannel_of_get (failed : x.get name = .error f) : f.isChannel = false := by
  cases x <;> cases failed <;> rfl

/-- A missing element is no fault of a channel. -/
lemma isChannel_of_first (failed : x.first = .error f) : f.isChannel = false := by
  cases x with
  | arr items => cases items <;> cases failed; rfl
  | str s =>
    unfold first at failed
    simp only at failed
    split at failed <;> cases failed
    rfl
  | _ => cases failed; rfl

/-- Neither is a missing field. -/
lemma isChannel_of_field (failed : x.field name = .error f) : f.isChannel = false := by
  cases x with
  | obj fields =>
    unfold field at failed
    simp only at failed
    split at failed <;> cases failed
    rfl
  | _ => cases failed; rfl

/-- Neither is a value that is no whole number. -/
lemma isChannel_of_toInt (failed : x.toInt = .error f) : f.isChannel = false := by
  cases x with
  | float y =>
    unfold toInt at failed
    simp only at failed
    split at failed
    · cases failed
      rfl
    · split at failed <;> cases failed
      rfl
  | str s =>
    unfold toInt at failed
    simp only at failed
    split at failed <;> cases failed
    rfl
  | _ => cases failed <;> rfl

end Json

namespace Channel.Cloud

variable {body : List Nat} {ifEmpty : String} {f : Fault}

/-- Neither is a garbled body. -/
lemma isChannel_of_readBody (garbled : readBody body ifEmpty = .error f) : f.isChannel = false := by
  obtain ⟨cause, rfl⟩ | ⟨refusal, rfl⟩ := readBody_eq_error garbled <;> rfl

/-- A text about a failure from which no codes can be read: what it tells of the error is not an
object, or it goes too deep. -/
inductive Misdescribed (text : String) : Prop where
  | shape {fields e} :
    Json.read text = .ok (.obj fields) →
    Json.find? fields "error" = some e →
    (∀ inner, e ≠ .obj inner) →
    Misdescribed text
  | depth {refusal} :
    Json.read text = .error refusal →
    refusal.isTooDeep = true →
    Misdescribed text

/-- The codes of a failure can be told unless it is misdescribed. -/
lemma errorCodes_eq_error_iff {text : String} :
    (∃ f, errorCodes text = .error f) ↔ Misdescribed text := by
  constructor
  · rintro ⟨f, failed⟩
    unfold errorCodes at failed
    cases read : Json.read text with
    | error refusal =>
      simp only [read] at failed
      split at failed
      · exact .depth read ‹_›
      · cases failed
    | ok x =>
      cases x with
      | obj fields =>
        simp only [read] at failed
        cases found : Json.find? fields "error" with
        | none =>
          rw [found] at failed
          cases failed
        | some e =>
          refine .shape read found fun inner same => ?_
          rw [found, same] at failed
          cases failed
      | _ =>
        simp only [read] at failed
        cases failed
  · intro misdescribed
    cases misdescribed with
    | @shape fields e read found shape =>
      unfold errorCodes
      simp only [read, found, Option.getD_some]
      cases e with
      | obj inner => exact absurd rfl (shape inner)
      | _ => exact ⟨_, rfl⟩
    | @depth refusal read deep =>
        exact ⟨.json refusal, by simp only [errorCodes, read, deep, if_true]⟩

/-- Neither are codes that cannot be read. -/
lemma isChannel_of_errorCodes {text : String} (failed : errorCodes text = .error f) :
    f.isChannel = false := by
  unfold errorCodes at failed
  split at failed
  · obtain first | ⟨code, -, later⟩ := bind_eq_error_iff.mp failed
    · exact Json.isChannel_of_get first
    · obtain second | ⟨subcode, -, impossible⟩ := bind_eq_error_iff.mp later
      · exact Json.isChannel_of_get second
      · cases impossible
  · cases failed
  · split at failed <;> cases failed
    rfl

/-- A body that tells that a text was taken: an object in which the messages, if there are any, are
a list that starts with an object. -/
def Receipt (body : List Nat) : Prop :=
  ∃ fields, readBody body "\x7b\x7d" = .ok (.obj fields) ∧
    ((Json.part fields "messages").truthy = true →
      ∃ first rest, Json.part fields "messages" = .arr (.obj first :: rest))

/-- The id in an answer is found with the first of its messages. -/
lemma providerId_eq_ok_iff {answer : Json} :
    (∃ id, providerId answer = .ok id) ↔ ∃ fields, answer = .obj fields ∧
      ((Json.part fields "messages").truthy = true →
        ∃ first rest, Json.part fields "messages" = .arr (.obj first :: rest)) := by
  constructor
  · rintro ⟨id, told⟩
    obtain ⟨messages, asked, later⟩ := bind_eq_ok_iff.mp told
    obtain ⟨first, headed, last⟩ := bind_eq_ok_iff.mp later
    obtain ⟨fields, rfl⟩ := Json.exists_obj_of_get asked
    obtain ⟨inner, rfl⟩ := Json.exists_obj_of_get last
    refine ⟨fields, rfl, fun some => ?_⟩
    have own : messages = Json.part fields "messages" := (Except.ok.inj asked).symm
    rw [own, Json.orElse, if_pos some] at headed
    obtain ⟨rest, same⟩ := Json.exists_arr_of_first headed
    exact ⟨inner, rest, same⟩
  · rintro ⟨fields, rfl, shape⟩
    cases some : (Json.part fields "messages").truthy with
    | false => exact ⟨.null, by simp [providerId, Json.get_obj, ok_bind, Json.orElse, some]; rfl⟩
    | true =>
      obtain ⟨first, rest, same⟩ := shape some
      exact ⟨Json.part first "id",
        by simp [providerId, Json.get_obj, ok_bind, Json.orElse, same]; rfl⟩

/-- Neither is an id that cannot be read. -/
lemma isChannel_of_providerId {answer : Json} (failed : providerId answer = .error f) :
    f.isChannel = false := by
  obtain first | ⟨messages, -, later⟩ := bind_eq_error_iff.mp failed
  · exact Json.isChannel_of_get first
  · obtain second | ⟨first, -, last⟩ := bind_eq_error_iff.mp later
    · exact Json.isChannel_of_first second
    · exact Json.isChannel_of_get last

/-- A text that was taken is reported when its receipt can be read. -/
lemma delivered_of_receipt (destination : Json) (receipt : Receipt body) :
    ∃ id, posted (.success body) >>= delivered destination = .ok ⟨name, destination, id⟩ := by
  obtain ⟨fields, read, shape⟩ := receipt
  obtain ⟨id, found⟩ := providerId_eq_ok_iff.mpr ⟨fields, rfl, shape⟩
  refine ⟨id, bind_eq_ok_iff.mpr ⟨.obj fields, read, ?_⟩⟩
  rw [delivered, found]
  rfl

/-- A receipt that cannot be read leaves the sender without a report, and without a failure of the
channel. -/
lemma derailed_of_no_receipt (destination : Json) (unread : ¬ Receipt body) :
    ∃ f, Derailed (posted (.success body) >>= delivered destination) f := by
  cases outcome : posted (.success body) >>= delivered destination with
  | ok delivery =>
    obtain ⟨answer, read, reported⟩ := bind_eq_ok_iff.mp outcome
    obtain ⟨id, found, -⟩ := bind_eq_ok_iff.mp reported
    obtain ⟨fields, rfl, shape⟩ := providerId_eq_ok_iff.mp ⟨id, found⟩
    exact absurd ⟨fields, read, shape⟩ unread
  | error f =>
    refine ⟨f, rfl, ?_⟩
    obtain garbled | ⟨answer, -, reported⟩ := bind_eq_error_iff.mp outcome
    · exact isChannel_of_readBody garbled
    · obtain unfound | ⟨id, -, impossible⟩ := bind_eq_error_iff.mp reported
      · exact isChannel_of_providerId unfound
      · cases impossible

/-- A body that gives a token: an object in which there is one. -/
def Grants (body : List Nat) (grant : Grant) : Prop :=
  ∃ fields, readBody body "" = .ok (.obj fields) ∧ Json.find? fields "access_token" =
    some grant.token ∧
    grant.lifetime = Json.part fields "expires_in"

/-- A grant is read from a body that grants it. -/
lemma granted_success_iff {grant : Grant} :
    granted (.success body) = .ok grant ↔ Grants body grant := by
  constructor
  · intro given
    obtain ⟨answer, read, parts⟩ := bind_eq_ok_iff.mp given
    obtain ⟨token, found, later⟩ := bind_eq_ok_iff.mp parts
    obtain ⟨lifetime, asked, made⟩ := bind_eq_ok_iff.mp later
    obtain ⟨fields, rfl⟩ := Json.exists_obj_of_get asked
    cases made
    refine ⟨fields, read, ?_, (Except.ok.inj asked).symm⟩
    unfold Json.field at found
    simp only at found
    split at found
    · rename_i there
      cases found
      exact there
    · cases found
  · rintro ⟨fields, read, found, lifetime⟩
    have held : (Json.obj fields).field "access_token" = .ok grant.token := by
      simp [Json.field, found]
    refine bind_eq_ok_iff.mpr ⟨.obj fields, read, ?_⟩
    rw [Grant.ofJson_eq_ok held Json.get_obj, ← lifetime]

/-- A body that gives no token is never a failure of the channel. -/
lemma isChannel_of_granted (refused : granted (.success body) = .error f) :
    f.isChannel = false := by
  obtain garbled | ⟨answer, -, parts⟩ := bind_eq_error_iff.mp refused
  · exact isChannel_of_readBody garbled
  obtain missing | ⟨token, found, later⟩ := bind_eq_error_iff.mp parts
  · exact Json.isChannel_of_field missing
  obtain ⟨lifetime, asked⟩ := get_of_field "expires_in" found
  rw [asked] at later
  cases later

/-- A lifetime that has no end in the calendar: it is not a number of seconds, or it reaches too
far. -/
inductive Undatable (now : DateTime) : Json → Prop where
  | uncountable {x f} :
    x.Uncountable f →
    Undatable now x
  | notNumber {x : Double} :
    x.isNaN = true →
    Undatable now (.float x)
  | text {s cause} :
    Number.readInteger s = .error cause →
    Undatable now (.str s)
  | far {x : Json} {seconds} :
    x.toInt = .ok seconds →
    ¬ Time.InCalendar (now.wall.micros + seconds * Time.second) →
    Undatable now x

/-- What the calendar reaches is no more days away than are counted. -/
lemma near_of_inCalendar {now : DateTime} {seconds : Int}
    (inside : Time.InCalendar (now.wall.micros + seconds * Time.second)) :
    Number.inSignedWord 31 (seconds.fdiv 86400) = true ∧ (seconds.fdiv 86400).natAbs ≤
      999999999 := by
  have here := now.wall.inCalendar
  have ends : Time.calendarEnd = 315537897600000000 := rfl
  have second : Time.second = 1000000 := rfl
  have word : (Number.twoPow 31 : Int) = 2147483648 := rfl
  rw [Time.InCalendar, second, ends] at inside
  obtain ⟨first, last⟩ := inside
  rw [Int.fdiv_eq_ediv_of_nonneg seconds (by decide)]
  simp only [Number.inSignedWord, Bool.and_eq_true, decide_eq_true_eq]
  omega

/-- The time some seconds later is found as far as the calendar reaches. -/
lemma later_eq_ok_iff {now : DateTime} {seconds : Int} :
    (∃ t, later now seconds = .ok t) ↔
    Time.InCalendar (now.wall.micros + seconds * Time.second) := by
  constructor
  · rintro ⟨t, found⟩
    by_contra outside
    unfold later at found
    simp only [Wall.of_not_inCalendar outside] at found
    split at found
    · cases found
    · split at found <;> cases found
  · intro inside
    obtain ⟨word, days⟩ := near_of_inCalendar inside
    obtain ⟨w, read, -⟩ := Wall.of_inCalendar inside
    refine ⟨{ now with wall := w }, ?_⟩
    simp only [later, word, read, Bool.not_true, Bool.false_eq_true, if_false,
      if_neg (Nat.not_lt.mpr days)]
    rfl

/-- A date that is too late is no fault of a channel. -/
lemma isChannel_of_later {now : DateTime} {seconds : Int} (failed : later now seconds = .error f) :
    f.isChannel = false := by
  by_cases inside : Time.InCalendar (now.wall.micros + seconds * Time.second)
  · obtain ⟨t, found⟩ := later_eq_ok_iff.mpr inside
    rw [found] at failed
    cases failed
  · unfold later at failed
    simp only [Wall.of_not_inCalendar inside] at failed
    split at failed
    · cases failed
      rfl
    · split at failed <;> cases failed <;> rfl

/-- What is no number of seconds is of another kind, infinite, or not written as one. -/
lemma undatable_of_toInt {now : DateTime} {x : Json} (uncounted : x.toInt = .error f) :
    Undatable now x := by
  cases rejected : f.isRejection with
  | false => exact .uncountable (Json.breaking_toInt_iff.mp ⟨uncounted, rejected⟩)
  | true =>
    cases x with
    | float y =>
      cases number : y.isNaN with
      | true => exact .notNumber number
      | false =>
        unfold Json.toInt at uncounted
        simp only [number, Bool.false_eq_true, if_false] at uncounted
        split at uncounted <;> cases uncounted
        cases rejected
    | str s =>
      cases read : Number.readInteger s with
      | error cause => exact .text read
      | ok n => simp [Json.toInt, read] at uncounted
    | bool b => cases uncounted
    | int n => cases uncounted
    | _ =>
      cases uncounted
      cases rejected

/-- A lifetime has an end unless it is undatable. -/
lemma expiry_eq_error_iff {grant : Grant} {now : DateTime} :
    (∃ f, grant.expiry now = .error f) ↔ Undatable now grant.lifetime := by
  obtain ⟨token, lifetime⟩ := grant
  constructor
  · rintro ⟨f, failed⟩
    obtain uncounted | ⟨seconds, counted, beyond⟩ := bind_eq_error_iff.mp failed
    · exact undatable_of_toInt uncounted
    · refine .far counted fun inside => ?_
      obtain ⟨t, found⟩ := later_eq_ok_iff.mpr inside
      rw [found] at beyond
      cases beyond
  · intro undatable
    cases outcome : Grant.expiry ⟨token, lifetime⟩ now with
    | error f => exact ⟨f, rfl⟩
    | ok t =>
      obtain ⟨seconds, counted, found⟩ := bind_eq_ok_iff.mp outcome
      cases undatable with
      | uncountable kind =>
        have uncounted := (Json.breaking_toInt_iff.mpr kind).1
        rw [uncounted] at counted
        cases counted
      | notNumber number => simp [Json.toInt, number] at counted
      | text unread => simp [Json.toInt, unread] at counted
      | far known outside =>
        rw [known] at counted
        cases counted
        exact absurd (later_eq_ok_iff.mp ⟨t, found⟩) outside

/-- Neither is an expiry that cannot be told. -/
lemma isChannel_of_expiry {grant : Grant} {now : DateTime} (failed : grant.expiry now = .error f) :
    f.isChannel = false := by
  obtain uncounted | ⟨seconds, -, beyond⟩ := bind_eq_error_iff.mp failed
  · exact Json.isChannel_of_toInt uncounted
  · exact isChannel_of_later beyond

end Channel.Cloud

end ChatTriage
