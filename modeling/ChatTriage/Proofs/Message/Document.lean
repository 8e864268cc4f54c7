import ChatTriage.Message.Document
import ChatTriage.Message.Intake
import ChatTriage.Proofs.Time.Reader

/-!
# Reading a message back

A message that was written reads back as it was, part by part. There are two exceptions: a recipient
that holds nothing reads back as null, and the date is what reading its written form gives.
-/

namespace ChatTriage

/-- What follows a result goes on from it. -/
lemma ok_bind {α β : Type} {a : α} {f : α → Except Fault β} : (Except.ok a >>= f) = f a := rfl

/-- A sequence that went well went well in both parts. -/
lemma bind_eq_ok_iff {α β : Type} {x : Except Fault α} {f : α → Except Fault β} {b : β} :
    x >>= f = .ok b ↔ ∃ a, x = .ok a ∧ f a = .ok b := by
  cases x with
  | error e => exact ⟨nofun, nofun⟩
  | ok a => exact ⟨fun run => ⟨a, rfl, run⟩, fun ⟨_, same, run⟩ => by cases same; exact run⟩

/-- A sequence fails in its first part, or after that in its second one. -/
lemma bind_eq_error_iff {α β : Type} {x : Except Fault α} {g : α → Except Fault β} {f : Fault} :
    x >>= g = .error f ↔ x = .error f ∨ ∃ a, x = .ok a ∧ g a = .error f := by
  cases x with
  | error e => simp [bind, Except.bind]
  | ok a => simp [bind, Except.bind]

/-- A text is shown as it is. -/
lemma shownOrBlank_str (s : String) : shownOrBlank (.str s) = s := by
  unfold shownOrBlank
  by_cases empty : s = ""
  · subst empty
    rfl
  · simp [Json.truthy, empty]

/-- Media that may be missing read back. -/
lemma Media.ofJson_option (media : Option Media) :
    Media.ofJson (match media with | some m => m.toJson | none => .null) = .ok media := by
  cases media <;> rfl

/-- So does a location. -/
lemma Location.ofJson_option (location : Option Location) :
    Location.ofJson (match location with | some l => l.toJson | none => .null) = .ok location := by
  cases location <;> rfl

/-- So does a group. -/
lemma Group.ofJson_option (group : Option Group) :
    Group.ofJson (match group with | some g => g.toJson | none => .null) = .ok group := by
  cases group <;> rfl

namespace Metadata

/-- The notes on a message read back with the group that was written beside them. -/
lemma ofJson_toJson (m : Metadata) {raw : Json} (grouped : Group.ofJson raw = .ok m.group) :
    Metadata.ofJson m.toJson raw = .ok m := by
  obtain ⟨important, priority, tags, notes, source, group⟩ := m
  have steps : Metadata.ofJson (toJson ⟨important, priority, tags, notes, source, group⟩) raw = (do
      let priority ← Priority.ofJson ((Json.str priority.name).orElse (.str "medium"))
      let tags ← (Json.arr tags).elementsOrNone
      let group ← Group.ofJson raw
      return ⟨important, priority, tags, notes, source, group⟩) := rfl
  have ranked : Priority.ofJson ((Json.str priority.name).orElse (.str "medium")) =
      .ok priority := by
    cases priority <;> rfl
  have tagged : (Json.arr tags).elementsOrNone = .ok tags := by cases tags <;> rfl
  rw [steps, ranked, tagged, grouped]
  rfl

end Metadata

/-- A date that reads back is read from the text of a document. -/
lemma DateTime.ofJson_of_read {text : String} {t : DateTime}
    (reads : DateTime.read? text = some t) :
    DateTime.ofJson (.str text) = .ok (some t) := by
  have some : text ≠ "" := by
    rintro rfl
    cases reads
  simp [DateTime.ofJson, reads, some]

/-- A date that was read from a document is legible. -/
lemma DateTime.legible_of_ofJson {raw : Json} {t : DateTime}
    (read : DateTime.ofJson raw = .ok (some t)) : t.Legible := by
  unfold DateTime.ofJson at read
  split at read
  · cases read
  · simp only at read
    split at read
    · rename_i found
      cases read
      exact ⟨_, found⟩
    · cases read

namespace Message

/-- A message with a date has a written form. -/
lemma toJson_eq_ok_iff {m : Message} {document : Json} :
    m.toJson = .ok document ↔ ∃ t, m.timestamp = some t ∧ document = m.document t.iso := by
  unfold toJson timestampText
  cases m.timestamp with
  | none => exact ⟨nofun, nofun⟩
  | some t => simp [Except.map, eq_comm]

/-- A message without problems has a date. -/
lemma dated_of_valid {m : Message} (valid : m.draft.problems = []) : ∃ t, m.timestamp = some t := by
  unfold Draft.problems draft at valid
  cases dated : m.timestamp with
  | none => simp [dated] at valid
  | some t => exact ⟨t, rfl⟩

/-- What reading a written message comes to. -/
lemma ofJson_document (m : Message) (date : String) (version : Version) :
    Message.ofJson (m.document date) version =
      (DateTime.ofJson (.str date)).map fun timestamp =>
        { m with recipient := m.recipient.orElse .null, timestamp, version } := by
  obtain ⟨id, ⟨phone, name, profileName⟩, ⟨type, text, media, location⟩, timestamp,
    recipient, status, metadata, saves⟩ := m
  have steps : Message.ofJson
      (document
        ⟨id, ⟨phone, name, profileName⟩, ⟨type, text, media, location⟩, timestamp, recipient,
        status, metadata, saves⟩ date) version = (do
      let recipient
        ← ((if recipient.truthy then Json.obj [("phoneNumber", recipient)] else .null).orElse
        (.obj [])).get "phoneNumber"
      let type ← ContentType.ofJson ((Json.str type.name).orElse (.str "text"))
      let media ← Media.ofJson (match media with | some m => m.toJson | none => .null)
      let location ← Location.ofJson (match location with | some l => l.toJson | none => .null)
      let timestamp ← DateTime.ofJson (.str date)
      let status ← Status.ofJson ((Json.str status.name).orElse (.str "received"))
      let metadata ← Metadata.ofJson metadata.toJson
        (match metadata.group with | some g => g.toJson | none => .null)
      return ⟨id, ⟨shownOrBlank (.str phone), name, profileName⟩,
        ⟨type, text, media, location⟩, timestamp, recipient, status, metadata, version⟩) := rfl
  have addressed :
    ((if recipient.truthy then Json.obj [("phoneNumber", recipient)] else .null).orElse
      (.obj [])).get "phoneNumber" = .ok (recipient.orElse .null) := by
    unfold Json.orElse
    cases recipient.truthy <;> rfl
  have typed : ContentType.ofJson ((Json.str type.name).orElse (.str "text")) = .ok type := by
    cases type <;> rfl
  have staged : Status.ofJson ((Json.str status.name).orElse (.str "received")) = .ok status := by
    cases status <;> rfl
  rw [steps, addressed, typed, Media.ofJson_option, Location.ofJson_option, staged,
    metadata.ofJson_toJson (Group.ofJson_option _), shownOrBlank_str]
  cases DateTime.ofJson (.str date) <;> rfl

/-- The date of a message that was read from a document is legible. -/
lemma legible_of_ofJson {raw : Json} {version : Version} {m : Message}
    (read : Message.ofJson raw version = .ok m) {t : DateTime} (dated : m.timestamp = some t) :
    t.Legible := by
  unfold Message.ofJson at read
  simp only [bind_eq_ok_iff] at read
  obtain ⟨_, -, _, -, _, -, _, -, _, -, _, -, _, -, _, -, _, -, _, -, _, -, _, -, _, -,
    _, -, _, -, _, -, _, -, _, -, timestamp, found, _, -, _, -, _, -, same⟩ := read
  cases same
  subst dated
  exact DateTime.legible_of_ofJson found

end Message

end ChatTriage
