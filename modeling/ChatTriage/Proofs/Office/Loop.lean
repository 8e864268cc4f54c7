import ChatTriage.Proofs.Desk.Phases
import ChatTriage.Proofs.Office.Intake

/-!
# Calls that wait for channels

Intakes and orders are under way at one office. Each is carried on without a break until it is over
or comes to something that it asks of a channel, and there it may be left while other calls start or
go on; it may also go on at once, for a channel need not keep it waiting. `Underway` is every way in
which calls can come to be under way like this, and `InOrder` has them carried out to their ends one
after the other. Forwarding starts on several channels at once, so the question whether a channel is
open counts as a place to wait at too.
-/

namespace ChatTriage.Office

/-- What the desk is called for: to take a message in, or to carry out the command in a message. -/
inductive Call where
  | intake (m : Message)
  | order (m : Message)

/-- What a call comes to: a report, with the message as it was left, or the result of a command. -/
inductive Ending where
  | reported (r : Except Fault Desk.Report) (left : Message)
  | answered (r : Except Fault Desk.CommandResult)

/-- What is done for a call. -/
def Call.program (c : Desk.Config) : Call → Dialogue Desk.service Ending
  | .intake m => do
    let (r, left) ← Office.intake c m
    return .reported r left
  | .order m => do
    let r ← (Desk.handleCommand c m).run
    return .answered r

/-- How channels behave: whether each is open, and whether what is sent or forwarded on it arrives.
What a channel reports about a delivery that arrived is left open. -/
structure Channels where
  isOpen : Nat → Bool
  send : Nat → String → String → Except Fault Unit
  forward : Nat → Message → String → Option String → Except Fault Unit

/-- An answer is one that the channels give, if it is for them to give. The clock tells times that
can be written down. -/
def Channels.Tells (ch : Channels) : Exchange Desk.service → Prop
  | ⟨.available route, x⟩ => x = Except.ok (ch.isOpen route)
  | ⟨.send route destination text, x⟩ =>
    Except.map (fun (_ : Desk.Delivery) => ()) x = ch.send route destination text
  | ⟨.forward route m destination label, x⟩ =>
    Except.map (fun (_ : Desk.Delivery) => ()) x = ch.forward route m destination label
  | ⟨.now, x⟩ => DateTime.Legible x
  | _ => True

variable {α : Type}

/-- A program is carried on in an office until a rest of it is left. -/
def Proceeds (ch : Channels) (o : Office) (d : Dialogue Desk.service α) (o' : Office)
    (left : Dialogue Desk.service α) : Prop :=
  ∃ log world, Dialogue.Reaches d log left ∧ Serves o log world o' ∧ ∀ x ∈ log, ch.Tells x

/-- A call with the rest of what is done for it. -/
structure Flight where
  call : Call
  rest : Dialogue Desk.service Ending

/-- A program is over or is about to use a channel. -/
def Waits (d : Dialogue Desk.service Ending) : Prop :=
  d.Pauses (S := Desk.service) (Desk.Request.isOutward ·)

/-- Calls are under way, the one that started first standing first. -/
inductive Underway (c : Desk.Config) (ch : Channels) (o : Office) :
    List Flight → Office → Prop where
  | idle :
    Underway c ch o [] o
  | start {o₁ o₂ flights call rest} :
    Underway c ch o flights o₁ →
    Proceeds ch o₁ (call.program c) o₂ rest →
    Waits rest →
    Underway c ch o (flights ++ [⟨call, rest⟩]) o₂
  | resume {o₁ o₂ earlier later call d rest} :
    Underway c ch o (earlier ++ ⟨call, d⟩ :: later) o₁ →
    Proceeds ch o₁ d o₂ rest →
    Waits rest →
    Underway c ch o (earlier ++ ⟨call, rest⟩ :: later) o₂

/-- Programs are carried out to their ends one after the other. -/
inductive InOrder (ch : Channels) :
    Office → List (Dialogue Desk.service α) → List α → Office → Prop where
  | nil {o} :
    InOrder ch o [] [] o
  | cons {o o₁ o' d ds a as} :
    Proceeds ch o d o₁ (.done a) →
    InOrder ch o₁ ds as o' →
    InOrder ch o (d :: ds) (a :: as) o'

variable {ch : Channels} {o o₁ o' : Office} {d left last : Dialogue Desk.service α}
  {ds ds₁ ds₂ : List (Dialogue Desk.service α)} {as as₁ as₂ : List α}

/-- What proceeds in two steps proceeds. -/
lemma Proceeds.trans (first : Proceeds ch o d o₁ left) (second : Proceeds ch o₁ left o' last) :
    Proceeds ch o d o' last := by
  obtain ⟨log₁, w₁, reaches₁, serves₁, tells₁⟩ := first
  obtain ⟨log₂, w₂, reaches₂, serves₂, tells₂⟩ := second
  exact ⟨log₁ ++ log₂, w₁ ++ w₂, reaches₁.trans reaches₂,
    serves_append_iff.mpr ⟨o₁, w₁, w₂, rfl, serves₁, serves₂⟩,
    List.forall_mem_append.mpr ⟨tells₁, tells₂⟩⟩

/-- No dialogues leave the office as it is. -/
lemma inOrder_nil_iff :
    InOrder ch o ([] : List (Dialogue Desk.service α)) as o' ↔ as = [] ∧ o' = o := by
  constructor
  · intro run
    cases run
    exact ⟨rfl, rfl⟩
  · rintro ⟨rfl, rfl⟩
    exact .nil

/-- The first dialogue is carried out before the others. -/
lemma inOrder_cons_iff :
    InOrder ch o (d :: ds) as o' ↔
      ∃ o₁ a rest, as = a :: rest ∧ Proceeds ch o d o₁ (.done a) ∧ InOrder ch o₁ ds rest o' := by
  constructor
  · intro run
    cases run with
    | cons first rest => exact ⟨_, _, _, rfl, first, rest⟩
  · rintro ⟨o₁, a, rest, rfl, first, others⟩
    exact .cons first others

/-- Two lists of programs are carried out one after the other. -/
lemma inOrder_append_iff :
    InOrder ch o (ds₁ ++ ds₂) as o' ↔
      ∃ o₁ as₁ as₂, as = as₁ ++ as₂ ∧ InOrder ch o ds₁ as₁ o₁ ∧ InOrder ch o₁ ds₂ as₂ o' := by
  induction ds₁ generalizing o as with
  | nil =>
    constructor
    · intro run
      exact ⟨o, [], as, rfl, .nil, run⟩
    · rintro ⟨o₁, as₁, as₂, rfl, first, second⟩
      obtain ⟨rfl, rfl⟩ := inOrder_nil_iff.mp first
      exact second
  | cons d ds₁ ih =>
    constructor
    · intro run
      obtain ⟨o₁, a, rest, rfl, first, others⟩ := inOrder_cons_iff.mp run
      obtain ⟨o₂, as₁, as₂, rfl, second, last⟩ := ih.mp others
      exact ⟨o₂, a :: as₁, as₂, rfl, .cons first second, last⟩
    · rintro ⟨o₂, as₁, as₂, rfl, first, last⟩
      obtain ⟨o₁, a, rest, rfl, first, second⟩ := inOrder_cons_iff.mp first
      exact .cons first (ih.mpr ⟨o₂, rest, as₂, rfl, second, last⟩)

/-- Programs that are over take nothing to carry out. -/
lemma inOrder_ended (as : List α) : InOrder ch o (as.map .done) as o := by
  induction as with
  | nil => exact .nil
  | cons a as ih =>
      exact .cons ⟨[], [], .here, .nil, fun x member => absurd member List.not_mem_nil⟩ ih

end ChatTriage.Office
