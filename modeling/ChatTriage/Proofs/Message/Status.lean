import Mathlib.Logic.Relation
import ChatTriage.Message

/-!
# The way of a message

Where a message can get to along the edges of its life. From received the way forks into processed
and filtered, which never meet again: processed and archived are ends, and a filtered message is
archived or stays as it is.
-/

namespace ChatTriage

namespace Status

/-- The edges of the life of a message lead from one status to another, or the two are the same. -/
def Onward : Status → Status → Prop :=
  Relation.ReflTransGen fun current target => target ∈ current.next

variable {a b c : Status}

/-- A status may stay. -/
lemma Onward.refl : Onward a a :=
  Relation.ReflTransGen.refl

/-- What moves onward twice moves onward. -/
lemma Onward.trans (first : Onward a b) (second : Onward b c) : Onward a c :=
  Relation.ReflTransGen.trans first second

instance : IsTrans Status Onward :=
  ⟨fun _ _ _ => Onward.trans⟩

/-- Every status can be reached from received, and beyond that archived from filtered. -/
lemma onward_iff : Onward a b ↔ a = b ∨ a = .received ∨ a = .filtered ∧ b = .archived := by
  constructor
  · intro way
    induction way with
    | refl => exact .inl rfl
    | @tail b c _ edge ih =>
      obtain rfl | rfl | ⟨rfl, rfl⟩ := ih
      · cases a <;> cases c <;> simp_all [next]
      · exact .inr (.inl rfl)
      · cases edge
  · rintro (rfl | rfl | ⟨rfl, rfl⟩)
    · exact .refl
    · have filed : Onward .received .filtered := .single (by decide)
      cases b with
      | received => exact .refl
      | processed => exact .single (by decide)
      | filtered => exact filed
      | archived => exact filed.trans (.single (by decide))
    · exact .single (by decide)

/-- Processed and archived are ends. -/
lemma Onward.of_end (way : Onward a b) (last : a = .processed ∨ a = .archived) : b = a := by
  obtain rfl | rfl | ⟨rfl, -⟩ := onward_iff.mp way
  · rfl
  all_goals (obtain impossible | impossible := last <;> cases impossible)

/-- A filtered message does not leave its branch. -/
lemma Onward.of_filtered (way : Onward .filtered b) : b = .filtered ∨ b = .archived := by
  obtain rfl | impossible | ⟨-, rfl⟩ := onward_iff.mp way
  · exact .inl rfl
  · cases impossible
  · exact .inr rfl

end Status

/-- A message that moves changes its status alone, and comes onward. -/
lemma Message.onward_of_advance {m n : Message} {target : Status} {moved : Bool}
    (advanced : m.advance target = .ok (moved, n)) :
    m.status.Onward n.status ∧ n = { m with status := n.status } := by
  unfold advance at advanced
  split at advanced
  · cases advanced
    exact ⟨.refl, rfl⟩
  · rename_i goes
    cases advanced
    exact ⟨.single (Status.mem_next_of_move_go goes), rfl⟩
  · cases advanced

end ChatTriage
