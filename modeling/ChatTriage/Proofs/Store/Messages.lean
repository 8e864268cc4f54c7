import ChatTriage.Proofs.Json.Encoding
import ChatTriage.Proofs.Message.Document
import ChatTriage.Store.Messages

/-!
# Creating and saving rows

What the two statements that write the table of messages come to. Creating a row appends it when no
row has its id; a save overwrites the rows with the id and the version of the message, and both
leave every other row alone. A table is `Keyed` when no two rows share an id, which both statements
preserve. However such calls follow one another, and whichever of them fail, each row that is there
in the end was there before or was to be created by one of them (`MessageTable.isSome_row?_after`).
-/

namespace ChatTriage

variable {m : Message} {document : Json}

/-- The document that is stored for a message: it has to be written, and it has to be encoded. -/
def Message.stored (m : Message) : Except Fault Json := do
  let document ← m.toJson
  Store.bindDocument document
  return document

/-- A message is stored as its document, if that can be encoded. -/
lemma Message.stored_eq_ok_iff :
    m.stored = .ok document ↔ m.toJson = .ok document ∧ document.encodable = true := by
  unfold stored Store.bindDocument
  rw [bind_eq_ok_iff]
  constructor
  · rintro ⟨written, dated, rest⟩
    split at rest
    · rename_i encodable
      cases rest
      exact ⟨dated, encodable⟩
    · cases rest
  · rintro ⟨dated, encodable⟩
    exact ⟨document, dated, by rw [if_pos encodable]; rfl⟩

/-- The id of a message stands in its document. -/
lemma Message.encodable_id (stored : m.stored = .ok document) : Text.encodable m.id = true := by
  obtain ⟨dated, encodable⟩ := stored_eq_ok_iff.mp stored
  obtain ⟨date, -, rfl⟩ := toJson_eq_ok_iff.mp dated
  rw [Message.document, Json.encodable_obj, List.all_cons, Json.encodable_str] at encodable
  simp only [Bool.and_eq_true] at encodable
  exact encodable.1.2

namespace Store

variable {t t' : MessageTable} {id : String} {r : MessageRow}

/-- A column holds every count below its bound. -/
lemma fits_count {n : Nat} (few : n < 2 ^ 63) : Store.fits n = true := by
  have bound : Number.twoPow 63 = 2 ^ 63 := by decide +kernel
  unfold Store.fits Number.inSignedWord
  rw [bound]
  simp
  omega

/-- No two rows have the same id. -/
def MessageTable.Keyed (t : MessageTable) : Prop :=
  t.rows.Pairwise fun r s => ∀ id, r.id = some id → s.id ≠ some id

/-- The row of a message that is new. -/
def MessageRow.fresh (m : Message) (document : Json) : MessageRow :=
  ⟨some m.id, m.status, .count 0, .written document⟩

/-- Within the 64 bits of the column a row's version is raised by one. -/
lemma raised_saves {n : Nat} (few : n + 1 < 2 ^ 63) :
    (Version.count n).raised = .count (n + 1 : Nat) :=
  Version.raised_count (fits_count few)

/-- The row has the id and the version of a message. -/
def MessageRow.isCopied (r : MessageRow) (m : Message) : Bool :=
  r.id = some m.id && r.version.same m.version

/-- The row with a message written over it. -/
def MessageRow.written (r : MessageRow) (m : Message) (document : Json) : MessageRow :=
  { r with status := m.status, version := r.version.raised, document := .written document }

/-- What a save makes of a row. -/
def MessageRow.saved (r : MessageRow) (m : Message) (document : Json) : MessageRow :=
  if r.isCopied m then r.written m document else r

/-- Saving keeps the id of a row. -/
@[simp] lemma MessageRow.saved_id (r : MessageRow) (m : Message) (document : Json) :
    (r.saved m document).id = r.id := by
  unfold saved
  split <;> rfl

/-- No message is a copy of a row with another id. -/
lemma MessageRow.isCopied_of_ne (other : r.id ≠ some m.id) : r.isCopied m = false := by
  simp [isCopied, other]

/-- Such a row stays as it is. -/
lemma MessageRow.saved_of_ne (other : r.id ≠ some m.id) : r.saved m document = r := by
  simp [saved, isCopied_of_ne other]

namespace MessageTable

/-- The table with one more row. -/
def add (t : MessageTable) (r : MessageRow) : MessageTable :=
  ⟨t.rows ++ [r]⟩

/-- The table after a save. -/
def save (t : MessageTable) (m : Message) (document : Json) : MessageTable :=
  ⟨t.rows.map (·.saved m document)⟩

/-- The row of an id has that id. -/
lemma row?_id (found : t.row? id = some r) : r.id = some id := by
  simpa using List.find?_some found

/-- A new row is found unless there is one already. -/
lemma row?_add : (t.add r).row? id = (t.row? id).or (if r.id = some id then some r else none) := by
  unfold add row?
  rw [List.find?_append]
  by_cases own : r.id = some id <;> simp [own]

/-- The row of an id is found as it was saved. -/
lemma row?_save : (t.save m document).row? id = (t.row? id).map (·.saved m document) := by
  unfold save row?
  rw [List.find?_map]
  show (t.rows.find? fun r => (r.saved m document).id = some id).map _ = _
  simp only [MessageRow.saved_id]

end MessageTable

/-- Creating the row of a message in a table. -/
lemma createMessage_eq (stored : m.stored = .ok document) :
    createMessage (some t) m =
      if (t.row? m.id).isSome then .error (.duplicate (.messageId m.id))
      else .ok (t.add (.fresh m document)) := by
  obtain ⟨dated, encodable⟩ := Message.stored_eq_ok_iff.mp stored
  have id : bindText m.id = .ok () := if_pos (Message.encodable_id stored)
  have whole : bindDocument document = .ok () := if_pos encodable
  unfold createMessage
  rw [dated]
  simp only [ok_bind, id, whole]
  cases t.row? m.id <;> simp <;> rfl

/-- A message with a document that cannot be encoded is created in no table. -/
lemma createMessage_of_unencodable (dated : m.toJson = .ok document)
    (unencodable : document.encodable = false) :
    ∃ text, ∀ t, createMessage (some t) m = .error (.value (.unencodable text)) := by
  have whole : bindDocument document =
      .error (.value (.unencodable (document.write .unicode))) :=
        if_neg (Bool.eq_false_iff.mp unencodable)
  unfold createMessage
  rw [dated]
  simp only [ok_bind, whole]
  unfold bindText
  cases Text.encodable m.id with
  | true => exact ⟨_, fun t => rfl⟩
  | false => exact ⟨_, fun t => rfl⟩

/-- A message with a document that cannot be encoded is written over no table. -/
lemma writeMessage_of_unencodable (dated : m.toJson = .ok document)
    (unencodable : document.encodable = false) (t : MessageTable) :
    writeMessage (some t) m = .error (.value (.unencodable (document.write .unicode))) := by
  have whole : bindDocument document =
      .error (.value (.unencodable (document.write .unicode))) :=
    if_neg (Bool.eq_false_iff.mp unencodable)
  unfold writeMessage
  rw [dated]
  simp only [ok_bind, whole]
  rfl

/-- What cannot be stored is created in no table. -/
lemma createMessage_of_unstored {e : Fault} (unstored : m.stored = .error e) :
    ∃ e, ∀ t, createMessage (some t) m = .error e := by
  unfold createMessage
  unfold Message.stored at unstored
  cases dated : m.toJson with
  | error e => exact ⟨e, fun t => rfl⟩
  | ok document =>
    rw [dated, ok_bind] at unstored
    simp only [ok_bind]
    cases bindText m.id with
    | error e => exact ⟨e, fun t => rfl⟩
    | ok done =>
      cases whole : bindDocument document with
      | error e => exact ⟨e, fun t => rfl⟩
      | ok done =>
        rw [whole] at unstored
        cases unstored

/-- A row is created in a table without one for its id. -/
lemma createMessage_eq_ok_iff {table : Option MessageTable} :
    createMessage table m = .ok t' ↔
      ∃ t document, table = some t ∧ m.stored = .ok document ∧ t.row? m.id = none ∧
        t' = t.add (.fresh m document) := by
  cases table with
  | none =>
    have refused : ∃ e, createMessage none m = .error e := by
      unfold createMessage
      cases m.toJson with
      | error e => exact ⟨e, rfl⟩
      | ok document => exact ⟨_, rfl⟩
    obtain ⟨e, refused⟩ := refused
    simp [refused]
  | some t =>
    cases stored : m.stored with
    | error e =>
      obtain ⟨e, refused⟩ := createMessage_of_unstored stored
      simp [refused]
    | ok document =>
      rw [createMessage_eq stored]
      cases found : t.row? m.id with
      | none => simp [found, eq_comm]
      | some r => simp [found]

/-- Saving a message over a table. -/
lemma writeMessage_eq (stored : m.stored = .ok document) (fits : m.version.fits = true) :
    writeMessage (some t) m =
      .ok (if t.rows.any (·.isCopied m) then some (t.save m document) else none) := by
  obtain ⟨dated, encodable⟩ := Message.stored_eq_ok_iff.mp stored
  have id : bindText m.id = .ok () := if_pos (Message.encodable_id stored)
  have whole : bindDocument document = .ok () := if_pos encodable
  have steps : writeMessage (some t) m =
      if !t.rows.any (·.isCopied m) then .ok none else .ok (some (t.save m document)) := by
    unfold writeMessage
    rw [dated]
    simp only [ok_bind, id, whole, fits, Bool.not_true, Bool.false_eq_true, if_false]
    rfl
  rw [steps]
  cases t.rows.any (·.isCopied m) <;> rfl

/-- A message that cannot be stored, or has a version that does not fit its column, is written over
no table. -/
lemma writeMessage_of_unfit (unfit : (∃ e, m.stored = .error e) ∨ m.version.fits = false) :
    ∃ e, ∀ t, writeMessage (some t) m = .error e := by
  unfold writeMessage
  unfold Message.stored at unfit
  cases dated : m.toJson with
  | error e => exact ⟨e, fun t => rfl⟩
  | ok document =>
    rw [dated, ok_bind] at unfit
    simp only [ok_bind]
    cases whole : bindDocument document with
    | error e => exact ⟨e, fun t => rfl⟩
    | ok done =>
      cases bindText m.id with
      | error e => exact ⟨e, fun t => rfl⟩
      | ok done =>
        obtain ⟨e, impossible⟩ | large := unfit
        · rw [whole] at impossible
          cases impossible
        · exact ⟨.range .storedInteger, fun t => by rw [large]; rfl⟩

/-- A message is written over a table in which a row has its id and its version. -/
lemma writeMessage_eq_ok_iff {table : Option MessageTable} {result : Option MessageTable} :
    writeMessage table m = .ok result ↔
      ∃ t document, table = some t ∧ m.stored = .ok document ∧ m.version.fits = true ∧
        result = if t.rows.any (·.isCopied m) then some (t.save m document) else none := by
  cases table with
  | none =>
    have refused : ∃ e, writeMessage none m = .error e := by
      unfold writeMessage
      cases m.toJson with
      | error e => exact ⟨e, rfl⟩
      | ok document => exact ⟨_, rfl⟩
    obtain ⟨e, refused⟩ := refused
    simp [refused]
  | some t =>
    constructor
    · intro same
      cases stored : m.stored with
      | error e =>
        obtain ⟨e, refused⟩ := writeMessage_of_unfit (.inl ⟨e, stored⟩)
        cases (refused t).symm.trans same
      | ok document =>
        cases fits : m.version.fits with
        | false =>
          obtain ⟨e, refused⟩ := writeMessage_of_unfit (.inr fits)
          cases (refused t).symm.trans same
        | true =>
          cases (writeMessage_eq stored fits).symm.trans same
          exact ⟨t, document, rfl, rfl, rfl, rfl⟩
    · rintro ⟨_, _, same, stored, fits, rfl⟩
      cases same
      exact writeMessage_eq stored fits

/-- A message cannot be written over any table, or it is written over each as over the others. -/
lemma writeMessage_or (m : Message) :
    (∃ e, ∀ t, writeMessage (some t) m = .error e) ∨
    ∃ document, ∀ t, writeMessage (some t) m =
      .ok (if t.rows.any (·.isCopied m) then some (t.save m document) else none) := by
  cases stored : m.stored with
  | error e => exact .inl (writeMessage_of_unfit (.inl ⟨e, stored⟩))
  | ok document =>
    cases fits : m.version.fits with
    | true => exact .inr ⟨document, fun t => writeMessage_eq stored fits⟩
    | false => exact .inl (writeMessage_of_unfit (.inr fits))

/-- A message is looked for by its id if the id can be encoded. -/
lemma getMessage_of_encodable (encodable : Text.encodable id = true) : getMessage (some t) id =
    match t.row? id with
    | none => .ok none
    | some r => r.load.map some := by
  have bound : bindText id = .ok () := if_pos encodable
  unfold getMessage
  simp only [bound, ok_bind]
  cases t.row? id <;> rfl

/-- A message that is found was loaded from the row with its id. -/
lemma exists_row_of_getMessage (loaded : getMessage (some t) id = .ok (some m)) :
    ∃ r, t.row? id = some r ∧ r.load = .ok m := by
  obtain ⟨-, -, rest⟩ := bind_eq_ok_iff.mp loaded
  cases found : t.row? id with
  | none =>
    rw [found] at rest
    cases rest
  | some r =>
    rw [found] at rest
    cases read : r.load with
    | error e =>
      simp only [read] at rest
      cases rest
    | ok n =>
      simp only [read] at rest
      cases rest
      exact ⟨r, rfl, read⟩

namespace MessageTable

/-- A row is found under its id. -/
lemma Keyed.row?_eq (keyed : t.Keyed) (member : r ∈ t.rows) (own : r.id = some id) :
    t.row? id = some r := by
  obtain ⟨before, after, split⟩ := List.append_of_mem member
  unfold Keyed at keyed
  rw [split, List.pairwise_append] at keyed
  unfold row?
  rw [split, List.find?_append, List.find?_eq_none.mpr, Option.none_or, List.find?_cons_of_pos]
  · simpa using own
  · intro s earlier
    have apart := keyed.2.2 s earlier r List.mem_cons_self
    simpa using fun same => apart id same own

/-- In a keyed table it is the row found by its id that a message is written over. -/
lemma Keyed.any_isCopied_iff (keyed : t.Keyed) :
    t.rows.any (·.isCopied m) = true ↔
      ∃ r, t.row? m.id = some r ∧ r.version.same m.version = true := by
  rw [List.any_eq_true]
  constructor
  · rintro ⟨r, member, copied⟩
    obtain ⟨own, same⟩ := Bool.and_eq_true_iff.mp copied
    exact ⟨r, keyed.row?_eq member (of_decide_eq_true own), same⟩
  · rintro ⟨r, found, same⟩
    refine ⟨r, List.mem_of_find?_eq_some found, ?_⟩
    simp [MessageRow.isCopied, row?_id found, same]

/-- Ids stay apart with a new row under a free one. -/
lemma Keyed.add (keyed : t.Keyed) (free : ∀ id, r.id = some id → t.row? id = none) :
    (t.add r).Keyed := by
  refine List.pairwise_append.mpr
    ⟨keyed, List.pairwise_singleton _ _, fun s member u last id own => ?_⟩
  obtain rfl := List.mem_singleton.mp last
  intro same
  have found := keyed.row?_eq member own
  rw [free id same] at found
  cases found

/-- They do when a message is saved. -/
lemma Keyed.save (keyed : t.Keyed) : (t.save m document).Keyed := by
  unfold Keyed MessageTable.save at *
  rw [List.pairwise_map]
  simpa only [MessageRow.saved_id] using keyed

/-- Whether a save goes through does not depend on saves of other ids. -/
lemma any_isCopied_save {n : Message} (apart : m.id ≠ n.id) :
    (t.save m document).rows.any (·.isCopied n) = t.rows.any (·.isCopied n) := by
  unfold save
  rw [List.any_map]
  refine List.any_congr rfl fun r => ?_
  by_cases own : r.id = some m.id
  · have other : r.id ≠ some n.id := fun same => apart (Option.some.inj (own.symm.trans same))
    rw [Function.comp_apply, MessageRow.isCopied_of_ne other,
      MessageRow.isCopied_of_ne ((r.saved_id m document).trans_ne other)]
  · rw [Function.comp_apply, MessageRow.saved_of_ne own]

/-- Saves of two ids can be made in either order. -/
lemma save_comm {n : Message} {document' : Json} (apart : m.id ≠ n.id) :
    (t.save m document).save n document' = (t.save n document').save m document := by
  unfold save
  simp only [List.map_map, mk.injEq]
  refine List.map_congr_left fun r _ => ?_
  simp only [Function.comp_apply]
  by_cases own : r.id = some m.id
  · have other : r.id ≠ some n.id := fun same => apart (Option.some.inj (own.symm.trans same))
    rw [MessageRow.saved_of_ne other,
      MessageRow.saved_of_ne ((r.saved_id m document).trans_ne other)]
  · rw [MessageRow.saved_of_ne own, MessageRow.saved_of_ne ((r.saved_id n document').trans_ne own)]

/-- A row of another id can be added before a save or after it. -/
lemma save_add_other (other : r.id ≠ some m.id) :
    (t.add r).save m document = (t.save m document).add r := by
  unfold save add
  rw [List.map_append, List.map_singleton, MessageRow.saved_of_ne other]

/-- A save leaves the rows of other ids alone. -/
lemma row?_save_other (other : id ≠ m.id) : (t.save m document).row? id = t.row? id := by
  rw [row?_save]
  cases found : t.row? id with
  | none => rfl
  | some r =>
    have apart : r.id ≠ some m.id :=
      fun same => other (Option.some.inj ((row?_id found).symm.trans same))
    rw [Option.map_some, MessageRow.saved_of_ne apart]

/-- A save overwrites the row with the id of the message, if it has its version as well. -/
lemma row?_save_own (found : t.row? m.id = some r) (same : r.version.same m.version = true) :
    (t.save m document).row? m.id = some (r.written m document) := by
  rw [row?_save, found, Option.map_some]
  simp [MessageRow.saved, MessageRow.isCopied, row?_id found, same]

/-- A message whose id is in the last row only is saved in that row. -/
lemma save_add (free : t.row? m.id = none) :
    (t.add r).save m document = t.add (r.saved m document) := by
  have others : t.rows.map (·.saved m document) = t.rows := by
    refine (List.map_congr_left fun s member => ?_).trans (List.map_id _)
    have other : s.id ≠ some m.id := by simpa using List.find?_eq_none.mp free s member
    exact MessageRow.saved_of_ne other
  unfold save add
  rw [List.map_append, others, List.map_singleton]

/-- Every row was written from a message with its id and its status. -/
def Written (t : MessageTable) : Prop :=
  ∀ r ∈ t.rows, ∃ (m : Message) (date : String),
    r.id = some m.id ∧ r.status = m.status ∧ r.document = .written (m.document date)

/-- What the program has written may get a new row. -/
lemma Written.add (written : t.Written) (stored : m.stored = .ok document) :
    (t.add (.fresh m document)).Written := by
  intro r member
  obtain ⟨dated, -⟩ := Message.stored_eq_ok_iff.mp stored
  obtain ⟨date, -, rfl⟩ := Message.toJson_eq_ok_iff.mp dated
  obtain old | last := List.mem_append.mp member
  · exact written r old
  · obtain rfl := List.mem_singleton.mp last
    exact ⟨m, _, rfl, rfl, rfl⟩

/-- It may be saved over. -/
lemma Written.save (written : t.Written) (stored : m.stored = .ok document) :
    (t.save m document).Written := by
  intro r member
  obtain ⟨dated, -⟩ := Message.stored_eq_ok_iff.mp stored
  obtain ⟨s, old, rfl⟩ := List.mem_map.mp member
  obtain ⟨date, -, rfl⟩ := Message.toJson_eq_ok_iff.mp dated
  unfold MessageRow.saved
  split
  · rename_i copied
    obtain ⟨own, -⟩ := Bool.and_eq_true_iff.mp copied
    exact ⟨m, _, of_decide_eq_true own, rfl, rfl⟩
  · exact written s old

end MessageTable

/-- A row can be created before the save of a message whose row is there, or after it. -/
lemma createMessage_save {n : Message} {document' : Json} (held : (t.row? n.id).isSome = true) :
    createMessage (some (t.save n document')) m =
      (createMessage (some t) m).map (·.save n document') := by
  cases stored : m.stored with
  | error e =>
    obtain ⟨e, refused⟩ := createMessage_of_unstored stored
    rw [refused, refused]
    rfl
  | ok document =>
    rw [createMessage_eq stored, createMessage_eq stored, MessageTable.row?_save, Option.isSome_map]
    cases found : (t.row? m.id).isSome with
    | true => rfl
    | false =>
      have apart : (MessageRow.fresh m document).id ≠ some n.id := by
        intro same
        rw [← Option.some.inj same, found] at held
        cases held
      exact congrArg Except.ok (MessageTable.save_add_other apart).symm

/-- A row that the desk wrote is read without fail. -/
lemma MessageRow.load_of_written (r : MessageRow) (written : r.document = .written document) :
    r.load = Message.ofJson document r.version := by
  simp only [load, written, Document.read, bind, Except.bind]

/-- A message that is loaded from a written row has the id, the status and the version of the
row. -/
lemma MessageRow.load_eq {n : Message} (r : MessageRow) {date : String}
    (written : r.document = .written (m.document date)) (loaded : r.load = .ok n) :
    n.id = m.id ∧ n.status = m.status ∧ n.version = r.version := by
  rw [r.load_of_written written, Message.ofJson_document] at loaded
  cases read : DateTime.ofJson (.str date) with
  | error e =>
    rw [read] at loaded
    cases loaded
  | ok timestamp =>
    rw [read] at loaded
    cases loaded
    exact ⟨rfl, rfl, rfl⟩

/-! ### Calls one after the other -/

/-- A call that writes to the table of messages. -/
inductive MessageWrite where
  | create (m : Message)
  | save (m : Message)
  deriving DecidableEq, Repr

namespace MessageWrite

/-- What a call comes to. -/
def result (t : MessageTable) : MessageWrite → Except Fault MessageTable
  | .create m => createMessage (some t) m
  | .save m => saveMessage (some t) m

/-- The table after a call, which is as before if the call fails. -/
def apply (t : MessageTable) (w : MessageWrite) : MessageTable :=
  match w.result t with
  | .ok t' => t'
  | .error _ => t

/-- The call creates the row of a message with an id, unless there is one. What cannot be stored
has no row. -/
def Provides (id : String) (w : MessageWrite) : Prop :=
  ∃ m document, w = .create m ∧ m.id = id ∧ m.stored = .ok document

variable {w : MessageWrite}

/-- A write that succeeds gives its table. -/
lemma apply_of_ok (ended : w.result t = .ok t') : w.apply t = t' := by
  unfold apply
  rw [ended]

/-- A write that fails leaves the table. -/
lemma apply_of_error {e : Fault} (refused : w.result t = .error e) : w.apply t = t := by
  unfold apply
  rw [refused]

/-- A create that goes through adds the row of the message. -/
lemma exists_add_of_ok (created : (create m).result t = .ok t') :
    ∃ document, m.stored = .ok document ∧ t' = t.add (.fresh m document) := by
  have added : createMessage (some t) m = .ok t' := created
  obtain ⟨_, document, same, stored, -, rfl⟩ := createMessage_eq_ok_iff.mp added
  cases same
  exact ⟨document, stored, rfl⟩

/-- A save that goes through writes the message over rows of the table. -/
lemma exists_save_of_ok (saved : (save m).result t = .ok t') :
    ∃ document, t' = t.save m document := by
  obtain ⟨written, wrote, rest⟩ := bind_eq_ok_iff.mp saved
  obtain ⟨_, document, same, -, -, result⟩ := writeMessage_eq_ok_iff.mp wrote
  cases same
  cases written with
  | none => cases rest
  | some u =>
    cases rest
    split at result <;> cases result
    exact ⟨document, rfl⟩

/-- A create that fails does so because its row is there or cannot be written. -/
lemma held_of_create_error {e : Fault} (refused : (create m).result t = .error e)
    (stored : m.stored = .ok document) :
    (t.row? m.id).isSome = true := by
  by_contra free
  have created : (create m).result t = .ok (t.add (.fresh m document)) :=
    (createMessage_eq stored).trans (if_neg free)
  cases refused.symm.trans created

/-- After a call the rows are there that were there before, and one that the call provides. -/
lemma isSome_row?_apply (w : MessageWrite) :
    ((w.apply t).row? id).isSome = true ↔ (t.row? id).isSome = true ∨ w.Provides id := by
  cases ended : w.result t with
  | error e =>
    rw [apply_of_error ended]
    refine ⟨.inl, ?_⟩
    rintro (held | ⟨m, document, rfl, rfl, stored⟩)
    · exact held
    · exact held_of_create_error ended stored
  | ok t' =>
    rw [apply_of_ok ended]
    cases w with
    | create m =>
      obtain ⟨document, stored, rfl⟩ := exists_add_of_ok ended
      rw [MessageTable.row?_add, Option.isSome_or, Bool.or_eq_true]
      simp [Provides, MessageRow.fresh, stored]
    | save m =>
      obtain ⟨document, rfl⟩ := exists_save_of_ok ended
      rw [MessageTable.row?_save, Option.isSome_map]
      simp [Provides]

end MessageWrite

/-- The table after calls that are made one after the other, however they end. -/
def MessageTable.after (t : MessageTable) (writes : List MessageWrite) : MessageTable :=
  writes.foldl MessageWrite.apply t

/-- After any calls the rows are there that were there before, and those that a call provided. -/
lemma MessageTable.isSome_row?_after {writes : List MessageWrite} :
    ((t.after writes).row? id).isSome = true ↔
      (t.row? id).isSome = true ∨ ∃ w ∈ writes, w.Provides id := by
  induction writes generalizing t with
  | nil => simp [after]
  | cons w writes ih =>
    show (((w.apply t).after writes).row? id).isSome = true ↔ _
    rw [ih, w.isSome_row?_apply, or_assoc]
    simp only [List.mem_cons, exists_eq_or_imp]

end Store

end ChatTriage
