import Mathlib.Data.List.Forall2
import ChatTriage.Proofs.Desk.Isolation
import ChatTriage.Proofs.Inbound.Cloud
import ChatTriage.Proofs.Inbound.Session
import ChatTriage.Proofs.Text.CodePoint
import ChatTriage.Proofs.Text.Words

/-!
# What is mapped is complete and can be accepted

A delivery that is read to its end gives one message for each of its items (`items`), and what it
gives has a type and a date with an offset, so that nothing but a blank id or number keeps it from
being accepted (`Sound`). A message of the session has neither: `mapped_complete`.
-/

namespace ChatTriage

/-- A text is blank when there is nothing but blanks in it. -/
lemma Draft.isBlank_some_iff {s : String} : isBlank (some s) = true ↔ Text.Blank s.toList := by
  unfold isBlank Text.trim
  rw [String.isEmpty_iff, String.ofList_eq_empty_iff]
  constructor
  · intro none
    rw [← Text.words_eq_nil_iff, ← Text.words_trimChars, none, Text.words_nil]
  · intro blank
    have none : Text.trimLeft s.toList = [] := List.dropWhile_eq_nil_iff.mpr blank
    rw [Text.trimChars, none]
    rfl

/-- Only a draft without problems is accepted. -/
lemma Draft.validate_eq_ok_iff {d : Draft} : d.validate = .ok () ↔ d.problems = [] := by
  unfold validate
  cases d.problems <;> simp

namespace Inbound

open Session (part)

variable {x y body raw value change entry : Json} {name : String} {m : Message} {s : String}

/-- The elements of a list, none of any other value. -/
def itemsOf : Json → List Json
  | .arr xs => xs
  | _ => []

/-- The items of a change, which has some only if its field is `messages`. -/
def itemsOfChange (change : Json) : List Json :=
  if part change "field" = .str "messages" then itemsOf (part (part change "value") "messages")
    else []

/-- The items of a delivery, in the order of the payload. -/
def items (body : Json) : List Json :=
  (itemsOf (part body "entry")).flatMap fun entry =>
    (itemsOf (part entry "changes")).flatMap itemsOfChange

/-- The message has the id of an item and the number of its sender. -/
structure Describes (raw : Json) (m : Message) : Prop where
  id : m.id = shownOrBlank (part raw "id")
  phone : m.sender.phone = shownOrBlank (part raw "from")

/-- Nothing but a blank id or a blank number keeps a message from being accepted. -/
structure Sound (m : Message) : Prop where
  problems : m.draft.problems =
    (if Text.Blank m.id.toList then [.noId] else []) ++
    (if Text.Blank m.sender.phone.toList then [.noPhone] else [])
  accepted : m.draft.validate = .ok () ↔ ¬ Text.Blank m.id.toList ∧
    ¬ Text.Blank m.sender.phone.toList

/-- What a batch gives are results of what it was made of. -/
lemma Batch.mem_results {results : List (Except Fault Message)}
    (member : m ∈ (concat single results).messages) :
    .ok m ∈ results := by
  induction results with
  | nil => cases member
  | cons result results ih =>
    cases result with
    | error e => cases member
    | ok first =>
      obtain rfl | later := List.mem_cons.mp member
      · exact List.mem_cons_self
      · exact List.mem_cons_of_mem _ (ih later)

/-! ### One message -/

/-- A message that is dated with an offset is sound. -/
lemma sound_of_dated {date : DateTime} (dated : m.timestamp = some date)
    (offset : date.offset.isSome = true) :
    Sound m := by
  have problems : m.draft.problems =
      (if Text.Blank m.id.toList then [.noId] else []) ++
      (if Text.Blank m.sender.phone.toList then [.noPhone] else []) := by
    have fixed : date.offset.isNone = false := by simpa using offset
    simp [Draft.problems, Message.draft, dated, fixed, Draft.isBlank_some_iff]
  refine ⟨problems, ?_⟩
  rw [Draft.validate_eq_ok_iff, problems, List.append_eq_nil_iff]
  simp

/-- What was asked for is the part. -/
lemma part_of_get (asked : x.get name = .ok y) : y = part x name := by
  cases x <;> cases asked
  rfl

/-- The dates of the provider are in universal time. -/
lemma Cloud.offset_dateOfSeconds {n : Int} {date : DateTime} (dated : dateOfSeconds n = .ok date) :
    date.offset = some .zero := by
  unfold dateOfSeconds at dated
  split at dated
  · cases dated
  · split at dated
    · cases dated
    · split at dated <;> cases dated
      rfl

namespace Cloud

/-- A message that is mapped describes its item and is sound. -/
lemma describes_of_message (mapped : message raw value = .ok m) : Describes raw m ∧ Sound m := by
  obtain ⟨type, fileType, media, location, described⟩ := described_of_message mapped
  simp only [Cloud.described, bind_eq_ok_iff] at described
  obtain ⟨text, -, profile, -, id, identified, phone, sent, recipient, -, stamp, -, seconds, -,
      date, dated, same⟩ :=
    described
  cases same
  refine ⟨⟨congrArg shownOrBlank (part_of_get identified),
    congrArg shownOrBlank (part_of_get sent)⟩, sound_of_dated rfl ?_⟩
  rw [offset_dateOfSeconds dated]
  rfl

/-! ### The items of a delivery -/

/-- There is a message at a place. -/
def Place.Readable (place : Place) : Prop :=
  ∃ m, place.message = .ok m

/-- At each of the places is an item, and these are the items in their order. -/
def Hold (places : List Place) (raws : List Json) : Prop :=
  ∃ found : List Item, places = found.map .ok ∧ raws = found.map Item.raw

/-- Places hold the items of all their elements. -/
lemma Hold.flatMap {inner : Json → List Place} {raws : Json → List Json} {xs : List Json}
    (each : ∀ x ∈ xs, Hold (inner x) (raws x)) : Hold (xs.flatMap inner) (xs.flatMap raws) := by
  induction xs with
  | nil => exact ⟨[], rfl, rfl⟩
  | cons x xs ih =>
    obtain ⟨first, rest⟩ := List.forall_mem_cons.mp each
    obtain ⟨found, here, raw⟩ := first
    obtain ⟨others, there, raws⟩ := ih rest
    exact ⟨found ++ others, by simp [here, there], by simp [raw, raws]⟩

/-- What cannot be read is no place with a message. -/
lemma not_readable_error {e : Fault} : ¬ ∀ p ∈ ([.error e] : List Place), p.Readable := by
  intro readable
  obtain ⟨m, impossible⟩ := readable _ (List.mem_singleton.mpr rfl)
  cases impossible

/-- A text describes no message. -/
lemma not_readable_text {s : String} {value : Json} :
    ¬ ∀ p ∈ ([.ok ⟨.str s, value⟩] : List Place), p.Readable := by
  intro readable
  obtain ⟨m, impossible⟩ := readable _ (List.mem_singleton.mpr rfl)
  cases impossible

/-- What a value consists of are the elements of a list, or there is a text among them. -/
lemma elementsOrNone_or (x : Json) :
    x.elementsOrNone = .ok (itemsOf x) ∨ (∃ xs s, x.elementsOrNone = .ok xs ∧ .str s ∈ xs) ∨
      ∃ e, x.elementsOrNone = .error e := by
  by_cases truthy : x.truthy = true
  · have elements : x.elementsOrNone = x.elements := if_pos truthy
    rw [elements]
    cases x with
    | arr xs => exact .inl rfl
    | str s =>
      have filled : s.toList ≠ [] := by simpa [Json.truthy] using truthy
      obtain ⟨spelled, rest, points⟩ :=
        List.exists_cons_of_ne_nil (mt Text.spellings_eq_nil_iff.mp filled)
      exact .inr (.inl ⟨_, String.ofList spelled, rfl, by simp [points]⟩)
    | obj fields =>
      cases fields with
      | nil => cases truthy
      | cons field fields => exact .inr (.inl ⟨_, field.1, rfl, List.mem_cons_self⟩)
    | _ => exact .inr (.inr ⟨_, rfl⟩)
  · refine .inl ((if_neg truthy).trans ?_)
    cases x with
    | arr xs =>
      cases xs with
      | nil => rfl
      | cons x xs => exact absurd rfl truthy
    | _ => rfl

/-- Elements that can be read have their places. -/
lemma placesIn_of_elements {xs : List Json} {inner : Json → List Place}
    (elements : x.elementsOrNone = .ok xs) :
    placesIn (.ok x) inner = xs.flatMap inner := by
  simp only [placesIn, bind, Except.bind, elements]

/-- Others have one without an item. -/
lemma placesIn_of_failed {e : Fault} {inner : Json → List Place}
    (failed : x.elementsOrNone = .error e) :
    placesIn (.ok x) inner = [.error e] := by
  simp only [placesIn, bind, Except.bind, failed]

/-- Places that can all be read are those in the elements of a list, if there is one in every text
that cannot. -/
lemma placesIn_of_readable {asked : Except Fault Json} {inner : Json → List Place}
    (readable : ∀ p ∈ placesIn asked inner, p.Readable)
    (unread : ∀ s, ¬ ∀ p ∈ inner (.str s), p.Readable) :
    ∃ x, asked = .ok x ∧ placesIn asked inner = (itemsOf x).flatMap inner := by
  cases asked with
  | error e => exact absurd readable not_readable_error
  | ok x =>
    refine ⟨x, rfl, ?_⟩
    obtain elements | ⟨xs, s, elements, member⟩ | ⟨e, failed⟩ := elementsOrNone_or x
    · exact placesIn_of_elements elements
    · rw [placesIn_of_elements elements] at readable
      exact absurd (fun p inside => readable p (List.mem_flatMap.mpr ⟨_, member, inside⟩))
        (unread s)
    · rw [placesIn_of_failed failed] at readable
      exact absurd readable not_readable_error

/-- An empty value has no more items than an empty object. -/
lemma itemsOf_part_orElse (value : Json) (name : String) :
    itemsOf (part (value.orElse (.obj [])) name) = itemsOf (part value name) := by
  unfold Json.orElse
  split
  · rfl
  · rename_i falsy
    cases value with
    | obj fields =>
      cases fields with
      | nil => rfl
      | cons field fields => exact absurd rfl falsy
    | _ => rfl

/-- Items hold themselves. -/
lemma hold_singletons (raws : List Json) (value : Json) :
    Hold (raws.flatMap fun raw => [.ok ⟨raw, value⟩]) raws :=
  ⟨raws.map (⟨·, value⟩), by rw [List.map_map, List.map_eq_flatMap]; rfl,
    by rw [List.map_map]; exact (List.map_id' raws).symm⟩

/-- The places of a change that can all be read hold its items. -/
lemma hold_placesOfChange (readable : ∀ p ∈ placesOfChange change, p.Readable) :
    Hold (placesOfChange change) (itemsOfChange change) := by
  unfold itemsOfChange
  unfold placesOfChange at readable ⊢
  cases asked : change.get "field" with
  | error e =>
    rw [asked] at readable
    exact absurd readable not_readable_error
  | ok field =>
    cases part_of_get asked
    simp only [asked] at readable ⊢
    by_cases listed : part change "field" = .str "messages"
    · simp only [listed, if_true] at readable ⊢
      cases valued : change.get "value" with
      | error e =>
        rw [valued] at readable
        exact absurd readable not_readable_error
      | ok value =>
        cases part_of_get valued
        simp only [valued] at readable ⊢
        obtain ⟨x, found, places⟩ := placesIn_of_readable readable fun s => not_readable_text
        rw [places, part_of_get found, itemsOf_part_orElse]
        exact hold_singletons _ _
    · rw [if_neg listed, if_neg listed]
      exact ⟨[], rfl, rfl⟩

/-- The places of an entry that can all be read hold the items of its changes. -/
lemma hold_placesOfEntry
    (readable : ∀ p ∈ placesIn (entry.get "changes") placesOfChange, p.Readable) :
    Hold (placesIn (entry.get "changes") placesOfChange)
      ((itemsOf (part entry "changes")).flatMap itemsOfChange) := by
  obtain ⟨changes, found, places⟩ := placesIn_of_readable readable fun s => not_readable_error
  rw [places] at readable ⊢
  rw [part_of_get found] at readable ⊢
  exact .flatMap fun change member => hold_placesOfChange fun p inside =>
    readable p (List.mem_flatMap.mpr ⟨change, member, inside⟩)

/-- The places of a delivery that can all be read hold its items. -/
lemma hold_places (object : part body "object" = .str "whatsapp_business_account")
    (readable : ∀ p ∈ places body, p.Readable) : Hold (places body) (items body) := by
  unfold places at readable ⊢
  cases asked : body.get "object" with
  | error e =>
    rw [asked] at readable
    exact absurd readable not_readable_error
  | ok found =>
    cases part_of_get asked
    simp only [asked, object, if_true] at readable ⊢
    obtain ⟨entries, found, places⟩ := placesIn_of_readable readable fun s => not_readable_error
    rw [places] at readable ⊢
    rw [part_of_get found] at readable ⊢
    exact .flatMap fun entry member => hold_placesOfEntry fun p inside =>
      readable p (List.mem_flatMap.mpr ⟨entry, member, inside⟩)

/-- A batch that was read to its end has a message at each of its places. -/
lemma readable_of_whole {places : List Place} (whole : (batch places).stop = none) :
    ∀ p ∈ places, p.Readable := by
  intro p member
  have result : p.message ∈ places.map Place.message := List.mem_map_of_mem member
  rw [Batch.eq_of_stop_none whole] at result
  obtain ⟨m, -, mapped⟩ := List.mem_map.mp result
  exact ⟨m, mapped.symm⟩

/-- A batch that was read to its end has one message for each item of its places. -/
lemma describes_of_hold {places : List Place} {raws : List Json} (hold : Hold places raws)
    (whole : (batch places).stop = none) : List.Forall₂ Describes raws (batch places).messages := by
  obtain ⟨found, rfl, rfl⟩ := hold
  have results : (found.map .ok).map Place.message = (batch (found.map .ok)).messages.map .ok :=
    Batch.eq_of_stop_none whole
  rw [List.map_map, ← List.forall₂_eq_eq_eq, List.forall₂_map_left_iff,
    List.forall₂_map_right_iff] at results
  rw [List.forall₂_map_left_iff]
  exact results.imp fun item m mapped => (describes_of_message mapped).1

/-- A payload about another object gives nothing. -/
lemma messages_of_other (other : part body "object" ≠ .str "whatsapp_business_account") :
    (messages body).messages = [] := by
  unfold messages
  cases asked : body.get "object" with
  | error e => rfl
  | ok object =>
    cases part_of_get asked
    simp only [other, if_false]

/-- What a batch gives is what its places give. -/
lemma exists_of_mem_batch {places : List Place} (member : m ∈ (batch places).messages) :
    ∃ item : Item, item.message = .ok m := by
  obtain ⟨place, -, mapped⟩ := List.mem_map.mp (Batch.mem_results member)
  cases place with
  | error e => cases mapped
  | ok item => exact ⟨item, mapped⟩

end Cloud

/-! ### A message of the session -/

/-- A text with a character in it that is no blank is not blank. -/
lemma not_blank_of_mem {c : Char} (member : c ∈ s.toList) (solid : Text.isBlank c = false) :
    ¬ Text.Blank s.toList := by
  intro blank
  rw [blank c member] at solid
  cases solid

/-- An address begins with a sign or with a mark. -/
lemma Session.not_blank_address (phone : Json) (id : Option Json) :
    ¬ Text.Blank (address phone id).toList := by
  unfold address
  split
  · split
    · rename_i signed
      have first : ['+'] <+: phone.shown.toList := String.startsWith_string_iff.mp signed
      exact not_blank_of_mem (first.mem List.mem_cons_self) (by decide)
    · exact not_blank_of_mem (c := '+') (by simp) (by decide)
  · exact not_blank_of_mem (c := ':') (by simp) (by decide)

/-- A message has the id and the time of its event. -/
lemma Session.message_id {timestamp : Option DateTime} (described : message x timestamp = .ok m) :
    messageId (part x "chat_id") (part x "id") = .ok m.id ∧ m.timestamp = timestamp := by
  obtain ⟨s, -, rest⟩ := bind_eq_ok_iff.mp described
  obtain ⟨id, identified, last⟩ := bind_eq_ok_iff.mp rest
  cases last
  exact ⟨identified, rfl⟩

/-- Its id is not blank. -/
lemma Session.not_blank_messageId {chat message : Json}
    (identified : messageId chat message = .ok s) :
    ¬ Text.Blank s.toList := by
  obtain ⟨chat, -, rest⟩ := bind_eq_ok_iff.mp identified
  obtain ⟨message, -, last⟩ := bind_eq_ok_iff.mp rest
  cases last
  exact not_blank_of_mem (c := ':') (by simp) (by decide)

/-- A message of the session that is dated with an offset is accepted. -/
lemma Session.validate_of_dated {date : DateTime} (described : message x (some date) = .ok m)
    (offset : date.offset.isSome = true) : m.draft.validate = .ok () := by
  obtain ⟨identified, dated⟩ := message_id described
  refine (sound_of_dated dated offset).accepted.mpr ⟨not_blank_messageId identified, ?_⟩
  rw [sender_phone (message_sender described)]
  exact not_blank_address _ _

/-- A delivery that is read to its end gives one message for each of its items, in their order, with
the item's id and number; but a payload about another object than an account gives none. No message
of a delivery is refused but for a blank id or a blank number, and no message of the session that is
dated with an offset is refused. -/
theorem mapped_complete (body : Json) :
    ((Cloud.messages body).stop = none →
      (part body "object" = .str "whatsapp_business_account" →
        List.Forall₂ Describes (items body) (Cloud.messages body).messages) ∧
      (part body "object" ≠ .str "whatsapp_business_account" →
        (Cloud.messages body).messages = [])) ∧
    (∀ m ∈ (Cloud.messages body).messages, Sound m) ∧
    ∀ (x : Json) (date : DateTime) (m : Message), Session.message x (some date) = .ok m →
      date.offset.isSome = true → m.draft.validate = .ok () := by
  refine ⟨fun whole => ⟨fun object => ?_, fun other => ?_⟩, fun m member => ?_, fun x date m =>
    Session.validate_of_dated⟩
  · rw [Cloud.messages_eq] at whole ⊢
    exact Cloud.describes_of_hold (Cloud.hold_places object (Cloud.readable_of_whole whole)) whole
  · exact Cloud.messages_of_other other
  · rw [Cloud.messages_eq] at member
    obtain ⟨item, mapped⟩ := Cloud.exists_of_mem_batch member
    exact (Cloud.describes_of_message mapped).2

namespace Cloud.Sample

/-- A payload about an object, with a greeting and a reaction that has no id. -/
def payload (object : String) : Json :=
  .obj [("object", .str object), ("entry", .arr [.obj [("changes", .arr [
    .obj [("field", .str "statuses"), ("value", .obj [("messages", .arr [.null])])],
    .obj [("field", .str "messages"), ("value", .obj [("messages", .arr [
      .obj [("id", .str "wamid.A"), ("from", .str "393470000001"), ("timestamp", .str "1704103200"),
        ("type", .str "text"), ("text", .obj [("body", .str "hi")])],
      .obj [("from", .int 1), ("type", .str "reaction")]])])]])]])]

/-- The messages of the payload. -/
def mapped : List Message :=
  (Cloud.messages (payload "whatsapp_business_account")).messages

/-- A message of the session on the first of January. -/
def plea : Message :=
  { Session.Sample.plea with timestamp := some Desk.Sample.morning }

end Cloud.Sample

open Cloud.Sample in
/-- The greeting and the reaction give a message each, of which only the first is accepted, and a
message of the session is accepted too. -/
theorem mapped_complete_of_reaction :
    (Cloud.messages (payload "whatsapp_business_account")).stop = none ∧
    List.Forall₂ Describes (items (payload "whatsapp_business_account")) mapped ∧
    mapped.map (·.draft.problems) = [[], [.noId]] ∧ (∀ m ∈ mapped, Sound m) ∧
    (Cloud.messages (payload "page")).messages = [] ∧
    Session.message Session.Sample.stranger (some Desk.Sample.morning) = .ok plea ∧
      plea.draft.validate = .ok () := by
  obtain ⟨complete, sound, session⟩ := mapped_complete (payload "whatsapp_business_account")
  obtain ⟨other, -, -⟩ := mapped_complete (payload "page")
  have whole : (Cloud.messages (payload "whatsapp_business_account")).stop = none := by
    decide +kernel
  have described : Session.message Session.Sample.stranger (some Desk.Sample.morning) =
    .ok plea := by decide +kernel
  exact ⟨whole, (complete whole).1 (by decide),
    by decide +kernel, sound, (other (by decide +kernel)).2 (by decide),
    described, session _ _ _ described rfl⟩

open Cloud.Sample in
/-- Not every payload that is read to its end gives a message for each of its items: one about
another object than an account gives none. -/
theorem page_gives_no_messages :
    ¬ ∀ body, (Cloud.messages body).stop = none →
      List.Forall₂ Describes (items body) (Cloud.messages body).messages := by
  intro complete
  have whole : (Cloud.messages (payload "page")).stop = none := by decide +kernel
  have counted := (complete _ whole).length_eq
  have two : (items (payload "page")).length = 2 := by decide +kernel
  have none : (Cloud.messages (payload "page")).messages.length = 0 := by decide +kernel
  rw [two, none] at counted
  cases counted

end Inbound

end ChatTriage
