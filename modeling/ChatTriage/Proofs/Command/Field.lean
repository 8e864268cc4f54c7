import ChatTriage.Command.Field
import ChatTriage.Proofs.Filter.Document

/-!
# Updates of a filter

An update gives its field the new value and leaves everything else of a filter:
`Update.alike_apply`. So updates of different fields commute, three of which are parts of one record
of actions, and of two updates of one field the last one counts.
-/

namespace ChatTriage.Command

variable {field : Field} {raw : String} {f : Filter} {u v : Update}

/-- The value of a field as the update that gives it, unless a filter sets no priority. -/
def Field.value? (f : Filter) : Field → Option Update
  | .keywords => some (.keywords f.keywords)
  | .authors => some (.authors f.authors)
  | .messageTypes => some (.messageTypes f.messageTypes)
  | .priority => f.actions.setPriority.map .priority
  | .important => some (.important f.actions.markImportant)
  | .archive => some (.archive f.actions.archive)
  | .active => some (.active f.enabled)

/-- Two filters that differ in one field at most: in the other fields that operators may edit they
are alike, and in all that operators may not edit. -/
structure Alike (field : Field) (f g : Filter) : Prop where
  values : ∀ other, other ≠ field → other.value? g = other.value? f
  id : g.id = f.id
  name : g.name = f.name
  description : g.description = f.description
  keywordMode : g.keywordMode = f.keywordMode
  timeRange : g.timeRange = f.timeRange
  addTags : g.actions.addTags = f.actions.addTags
  autoReply : g.actions.autoReply = f.actions.autoReply
  forwardTo : g.actions.forwardTo = f.actions.forwardTo
  stats : g.stats = f.stats

/-- What is done to a result gives a result. -/
lemma map_eq_ok_iff {α β : Type} {x : Except Fault α} {g : α → β} {b : β} :
    g <$> x = .ok b ↔ ∃ a, x = .ok a ∧ g a = b := by
  cases x with
  | error e => exact ⟨nofun, nofun⟩
  | ok a =>
      exact ⟨fun same => ⟨a, rfl, Except.ok.inj same⟩,
      fun ⟨_, same, made⟩ => by cases same; rw [← made]; rfl⟩

namespace Update

/-- What is read for a field is an update of that field. -/
lemma field_of_read (read : Update.read field raw = .ok u) : u.field = field := by
  cases field with
  | keywords | authors =>
    obtain ⟨entries, -, made⟩ := bind_eq_ok_iff.mp read
    cases made
    rfl
  | messageTypes =>
    obtain ⟨entries, -, rest⟩ := bind_eq_ok_iff.mp read
    obtain ⟨types, -, made⟩ := bind_eq_ok_iff.mp rest
    cases made
    rfl
  | priority | important | archive | active =>
    obtain ⟨value, -, rfl⟩ := map_eq_ok_iff.mp read
    rfl

/-- After an update its field has the new value. -/
lemma value?_apply (u : Update) (f : Filter) : u.field.value? (u.apply f) = some u := by
  cases u <;> rfl

/-- An update leaves everything but its field. -/
lemma alike_apply (u : Update) (f : Filter) : Alike u.field f (u.apply f) := by
  refine ⟨fun other differs => ?_, ?_, ?_, ?_, ?_, ?_, ?_, ?_, ?_, ?_⟩
  · cases u <;> cases other <;> first | rfl | exact absurd rfl differs
  all_goals cases u <;> rfl

/-- Updates of different fields commute. -/
lemma apply_comm (differ : u.field ≠ v.field) : v.apply (u.apply f) = u.apply (v.apply f) := by
  cases u <;> cases v <;> first | rfl | exact absurd rfl differ

/-- Of two updates of one field the last one counts. -/
lemma apply_apply (same : u.field = v.field) : v.apply (u.apply f) = v.apply f := by
  cases u <;> cases v <;> first | rfl | cases same

end Update

end ChatTriage.Command
