import ChatTriage.Proofs.Desk.Match
import ChatTriage.Proofs.Desk.Notes
import ChatTriage.Proofs.Filter.Encoding
import ChatTriage.Proofs.Office.Copies
import ChatTriage.Proofs.Store.Filters

/-!
# What an intake leaves behind

The row of a message that is taken in goes along with the message: `Settled` says that the row holds
what the message has become, its version being the number of saves. Each filter that is carried out
saves the message once, and nothing else that the desk asks writes the table, so that in the end the
row, the message and the report agree. What a filter adds to a message that can be stored are its
tags, so all of this takes that the tags can be encoded.
-/

namespace ChatTriage

namespace Desk

variable {α : Type} {c : Config} {m : Message} {f : Filter} {log : Log}

/-- Every route that was asked has told whether it is open. -/
def Log.Forthcoming (log : Log) : Prop :=
  ∀ x ∈ log, ∀ route e, x ≠ ⟨.available route, .error e⟩

/-- If nothing is written for each, nothing is written. -/
lemma Each.unwritten {ι : Type} {told : ι → Log → α → Prop} {is : List ι} {as : List α}
    (each : Each told is log as) (one : ∀ i log a, told i log a → log.Unwritten) :
    log.Unwritten := by
  induction each with
  | nil => exact fun x member => absurd member List.not_mem_nil
  | cons first _ ih => exact (one _ _ _ first).append ih

/-- Answering the sender writes no table. -/
lemma Replies.unwritten {effects : List SideEffect} (replies : Replies c m f log effects) :
    log.Unwritten := by
  cases replies with
  | none => exact fun x member => absurd member List.not_mem_nil
  | one _ replied =>
    cases replied with
    | nowhere => exact fun x member => absurd member List.not_mem_nil
    | closed => exact List.forall_mem_singleton.mpr rfl
    | tried => exact List.forall_mem_cons.mpr ⟨rfl, List.forall_mem_singleton.mpr rfl⟩

/-- Forwarding writes no table. -/
lemma Routed.unwritten {way : Route × Nat} {effects : List SideEffect}
    (routed : Routed m f way log effects) : log.Unwritten := by
  cases routed with
  | opened each =>
    refine List.forall_mem_cons.mpr ⟨rfl, each.unwritten fun destination log effect forwarded => ?_⟩
    cases forwarded with
    | tried => exact List.forall_mem_singleton.mpr rfl
  | closed => exact List.forall_mem_singleton.mpr rfl
  | silent => exact List.forall_mem_singleton.mpr rfl

end Desk

namespace Metadata

/-- What the notes on a message have to encode. -/
lemma encodable_toJson {notes : Metadata} : notes.toJson.encodable =
    (notes.tags.all Json.encodable && notes.notes.encodable && notes.source.encodable &&
      (match notes.group with | some g => g.toJson | none => .null).encodable) := by
  have priority : Text.encodable notes.priority.name = true := by cases notes.priority <;> decide
  have keys : ["isImportant", "priority", "tags", "notes", "source", "groupInfo"].all
      Text.encodable = true := by decide
  simp only [List.all_cons, List.all_nil, Bool.and_eq_true] at keys
  cases grouped : notes.group <;>
    simp [toJson, Json.encodable_obj, Json.encodable_arr, Json.encodable_bool, Json.encodable_str,
      keys, priority, grouped, Bool.and_assoc]

end Metadata

namespace Message

variable {m : Message} {a : FilterActions}

/-- The status of a message can be encoded, so it does not matter which it is. -/
lemma encodable_document_status (m : Message) (status : Status) (date : String) :
    ({ m with status }.document date).encodable = (m.document date).encodable := by
  have named (s : Status) : Text.encodable s.name = true := by cases s <;> decide
  simp [document, Json.encodable_obj, Json.encodable_str, named]

/-- A message that can be stored still can with another status. -/
lemma exists_stored_status (stored : ∃ document, m.stored = .ok document) (status : Status) :
    ∃ document, { m with status }.stored = .ok document := by
  obtain ⟨document, stored⟩ := stored
  obtain ⟨dated, encodable⟩ := stored_eq_ok_iff.mp stored
  obtain ⟨date, dates, rfl⟩ := toJson_eq_ok_iff.mp dated
  refine ⟨_, stored_eq_ok_iff.mpr ⟨toJson_eq_ok_iff.mpr ⟨date, dates, rfl⟩, ?_⟩⟩
  rwa [encodable_document_status]

/-- A message that can be stored still can with the notes of actions on it, if their tags can be
encoded. -/
lemma exists_stored_carry (stored : ∃ document, m.stored = .ok document)
    (tags : a.addTags.all Text.encodable = true) :
    ∃ document, (m.carry a).stored = .ok document := by
  refine exists_stored_status (m := m.annotate a) ?_ _
  obtain ⟨document, stored⟩ := stored
  obtain ⟨dated, encodable⟩ := stored_eq_ok_iff.mp stored
  obtain ⟨date, dates, rfl⟩ := toJson_eq_ok_iff.mp dated
  refine ⟨_, stored_eq_ok_iff.mpr ⟨toJson_eq_ok_iff.mpr ⟨date, dates, rfl⟩, ?_⟩⟩
  have added (notes : Metadata) : ((notes.newTags a.addTags).map Json.str).all Json.encodable := by
    rw [List.all_map, List.all_eq_true]
    intro tag member
    exact List.all_eq_true.mp tags tag (List.mem_filter.mp (List.mem_eraseDups.mp member)).1
  simp only [document, Json.encodable_obj, List.all_cons, List.all_nil, Bool.and_eq_true,
    Metadata.encodable_toJson] at encodable
  simp [document, annotate, Json.encodable_obj, Metadata.encodable_toJson, Metadata.foldl_addTag,
    encodable, added]

/-- The message with the notes of filters on it, archived if one of them asks for it. -/
def carryAll (m : Message) (filters : List Filter) : Message :=
  filters.foldl (fun m f => m.carry f.actions) m

/-- Notes are put on a message whatever its version. -/
lemma carryAll_version (m : Message) (version : Version) (filters : List Filter) :
    { m with version }.carryAll filters = { m.carryAll filters with version } := by
  induction filters generalizing m with
  | nil => rfl
  | cons f filters ih => exact ih (m.carry f.actions)

/-- Carrying a message to filters touches its notes and its status. -/
lemma carryAll_eq (m : Message) (filters : List Filter) :
    ∃ metadata, m.carryAll filters = { m with
      metadata, status := if filters.any (·.actions.archive) then .archived else m.status } := by
  induction filters generalizing m with
  | nil => exact ⟨m.metadata, rfl⟩
  | cons f filters ih =>
    obtain ⟨metadata, rest⟩ := ih (m.carry f.actions)
    refine ⟨metadata, rest.trans ?_⟩
    cases archived : f.actions.archive <;> simp [carry, annotate, archived]

end Message

namespace Office

variable {c : Desk.Config} {f : Filter} {o o' : Office} {m m' : Message} {t : Store.MessageTable}
  {log : Desk.Log} {world : World} {n : Nat} {document : Json}

/-- What writes no table leaves the messages as they are. -/
lemma messages_of_unwritten (quiet : log.Unwritten) (serves : Serves o log world o') :
    o'.messages = o.messages ∧ o'.outages = o.outages := by
  induction serves with
  | nil => exact ⟨rfl, rfl⟩
  | cons answered _ ih =>
    obtain ⟨first, rest⟩ := List.forall_mem_cons.mp quiet
    obtain ⟨messages, outages⟩ := ih rest
    have framed := framed_of_answer answered
    exact ⟨messages.trans (framed.messages first), outages.trans framed.outages⟩

/-- A table with one more row, which has an id that no other row has and counts a number of
saves. -/
structure Held (o : Office) (t : Store.MessageTable) (id : String) (n : Nat) : Prop where
  free : t.row? id = none
  outages : o.outages = []
  row : ∃ r : Store.MessageRow, o.messages = some (t.add r) ∧ r.id = some id ∧ r.version = .count n

/-- The last row of the table holds what a message has become after a number of saves. -/
structure Settled (o : Office) (t : Store.MessageTable) (m : Message) (n : Nat) : Prop where
  free : t.row? m.id = none
  outages : o.outages = []
  version : m.version = .count n
  row : ∃ document, m.stored = .ok document ∧
    o.messages = some (t.add ⟨some m.id, m.status, .count n, .written document⟩)

/-- A settled message is held. -/
lemma Settled.held (settled : Settled o t m n) : Held o t m.id n := by
  obtain ⟨document, -, messages⟩ := settled.row
  exact ⟨settled.free, settled.outages, _, messages, rfl, rfl⟩

/-- What writes no table leaves a row in its place. -/
lemma Held.of_unwritten {id : String} (held : Held o t id n) (quiet : log.Unwritten)
    (serves : Serves o log world o') : Held o' t id n := by
  obtain ⟨messages, outages⟩ := messages_of_unwritten quiet serves
  exact ⟨held.free, outages.trans held.outages, messages ▸ held.row⟩

/-- It stays settled while nothing is written. -/
lemma Settled.of_unwritten (settled : Settled o t m n) (quiet : log.Unwritten)
    (serves : Serves o log world o') : Settled o' t m n := by
  obtain ⟨messages, outages⟩ := messages_of_unwritten quiet serves
  exact ⟨settled.free, outages.trans settled.outages, settled.version, messages ▸ settled.row⟩

/-- A message that is level with its row can be saved. -/
lemma Held.save (held : Held o t m.id n) (version : m.version = .count n) (few : n + 1 < 2 ^ 63)
    (stored : m.stored = .ok document) :
    o.saveMessage m = (.ok (), { o with
      messages := some (t.add ⟨some m.id, m.status, .count (n + 1 : Nat), .written document⟩)
        }) := by
  obtain ⟨r, messages, own, counts⟩ := held.row
  have copied : r.isCopied m = true := by simp [Store.MessageRow.isCopied, own, counts, version]
  have fits : m.version.fits = true := version ▸ Store.fits_count (n := n) (by omega)
  have raised : r.version.raised = .count (n + 1 : Nat) := counts ▸ Store.raised_saves few
  apply saveMessage_eq_ok_iff.mpr
  refine ⟨held.outages ▸ rfl, t.add r, document, messages, stored, fits, ?_, ?_⟩
  · exact List.any_eq_true.mpr ⟨r, List.mem_append_right _ (List.mem_singleton.mpr rfl), copied⟩
  · rw [Store.MessageTable.save_add held.free, Store.MessageRow.saved, if_pos copied]
    unfold Store.MessageRow.written
    rw [own, raised]

/-- A save of a message that is level with its row goes through and leaves the two alike. -/
lemma Held.saved {answer : Except Fault Unit} (held : Held o t m.id n)
    (version : m.version = .count n) (few : n + 1 < 2 ^ 63) (stored : m.stored = .ok document)
    (serves : Serves o [⟨.saveMessage m, answer⟩] world o') :
    m.kept answer = (.ok (), { m with version := .count (n + 1 : Nat) }) ∧
      Settled o' t { m with version := .count (n + 1 : Nat) } (n + 1) := by
  obtain ⟨-, saved⟩ := answer_saveMessage_iff.mp (serves_one_iff.mp serves)
  rw [held.save version few stored] at saved
  cases saved
  have next : m.version.next = .ok (.count (n + 1 : Nat)) := version ▸ rfl
  exact ⟨Message.kept_ok next, held.free, held.outages, rfl, document, stored, rfl⟩

/-- A message that filters are put on and that can be stored, beside its row. -/
structure Level (o : Office) (t : Store.MessageTable) (m : Message) (n : Nat) : Prop where
  held : Held o t m.id n
  version : m.version = .count n
  matched : m.IsMatched
  stored : ∃ document, m.stored = .ok document

/-- A filter that is carried out leaves the message and its row alike, one save later. -/
lemma Level.runFilter {r : Except Fault Desk.FilterOutcome} (level : Level o t m n)
    (few : n + 1 < 2 ^ 63) (tags : f.actions.addTags.all Text.encodable = true)
    (run : Desk.Work.Runs (Desk.runFilter c f) m log r m') (serves : Serves o log world o')
    (told : log.Forthcoming) :
    ∃ outcome, r = .ok outcome ∧ m' = { m.carry f.actions with version := .count (n + 1 : Nat) } ∧
      Settled o' t m' (n + 1) := by
  obtain ⟨document, stored⟩ := Message.exists_stored_carry level.stored tags
  have saves {answer : Except Fault Unit} {world : World} {o' : Office}
      (serves : Serves o [⟨.saveMessage (m.carry f.actions), answer⟩] world o') :=
    level.held.saved (m := m.carry f.actions) level.version few stored serves
  obtain ⟨outcome, rfl, carried⟩ | ⟨fault, rfl, unanswered⟩ | ⟨answer, fault, rfl, unsaved,
      rfl, rfl⟩ :=
    (Desk.runs_runFilter_iff level.matched).mp run
  · cases carried with
    | mk noted replies routed =>
      obtain ⟨o₁, w₁, w₂, rfl, first, rest⟩ := serves_cons_iff.mp serves
      obtain ⟨kept, settled⟩ := saves (serves_one_iff.mpr first)
      -- what comes after the save asks the channels only
      have quiet := replies.unwritten.append (routed.unwritten fun _ _ _ => Desk.Routed.unwritten)
      rw [kept]
      exact ⟨_, rfl, rfl, settled.of_unwritten quiet rest⟩
  · cases unanswered with
    | @mk answer note route fault => exact absurd rfl (told _ (.tail _ (.head _)) route fault)
  · rw [(saves serves).1] at unsaved
    cases unsaved

/-- It is level with its row. -/
lemma Settled.level (settled : Settled o t m n) (matched : m.IsMatched) : Level o t m n := by
  obtain ⟨document, stored, -⟩ := settled.row
  exact ⟨settled.held, settled.version, matched, document, stored⟩

/-- Filters that are carried out one after the other leave the message and its row alike, one save
later each; without filters, it takes that they are alike already. -/
lemma Level.runFilters {filters : List Filter} {r : Except Fault (List Desk.FilterOutcome)}
    (level : Level o t m n) (few : n + filters.length < 2 ^ 63)
    (tags : ∀ f ∈ filters, f.actions.addTags.all Text.encodable = true)
    (run : Desk.Work.Runs (filters.mapM (Desk.runFilter c)) m log r m')
    (serves : Serves o log world o')
    (told : log.Forthcoming) :
    ∃ outcomes, r = .ok outcomes ∧
      m' = { m.carryAll filters with version := .count (n + filters.length : Nat) } ∧
      (filters ≠ [] ∨ Settled o t m n → Settled o' t m' (n + filters.length)) := by
  -- the message is level with its row before each filter, and settled after each
  induction filters generalizing o m log world r n with
  | nil =>
    obtain ⟨rfl, rfl, rfl⟩ := Desk.Work.runs_pure_iff.mp run
    cases serves
    have same : m' = { m' with version := .count n } := by rw [← level.version]
    exact ⟨[], rfl, same, fun alike => alike.resolve_left (· rfl)⟩
  | cons f filters ih =>
    rw [List.mapM_cons] at run
    rw [List.length_cons] at few ⊢
    obtain ⟨own, others⟩ := List.forall_mem_cons.mp tags
    obtain ⟨e, first, rfl⟩ | ⟨outcome, m₁, log₁, log₂, rfl, first, later⟩ :=
      Desk.Work.runs_bind_iff.mp run
    · obtain ⟨_, impossible, -⟩ := level.runFilter (by omega) own first serves told
      cases impossible
    · obtain ⟨o₁, w₁, w₂, rfl, serves₁, serves₂⟩ := serves_append_iff.mp serves
      obtain ⟨told₁, told₂⟩ := List.forall_mem_append.mp told
      obtain ⟨_, -, rfl, settled⟩ := level.runFilter (by omega) own first serves₁ told₁
      have matched : (m.carry f.actions).IsMatched := Message.carry_isMatched level.matched _
      obtain ⟨_, rest, rfl⟩ := Desk.Work.runs_bind_pure_iff.mp later
      obtain ⟨outcomes, rfl, same, settles⟩ :=
        ih (settled.level matched) (by omega) others rest serves₂ told₂
      -- the version that the first filter left is overwritten by the last one
      rw [Message.carryAll_version] at same
      have count : n + 1 + filters.length = n + (filters.length + 1) := by omega
      rw [count] at same settles
      exact ⟨_, rfl, same, fun _ => settles (.inr settled)⟩

namespace Sample

open Desk.Sample (order)

/-- The message can be stored. -/
lemma stored_order : order.stored = .ok (order.document "2024-01-01T10:00:00+00:00") :=
  Message.stored_eq_ok_iff.mpr
    ⟨Message.toJson_eq_ok_iff.mpr ⟨_, rfl, by decide +kernel⟩, by decide +kernel⟩

end Sample

end Office

end ChatTriage
