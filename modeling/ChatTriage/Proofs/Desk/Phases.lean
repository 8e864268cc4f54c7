import ChatTriage.Proofs.Desk.Orders
import ChatTriage.Proofs.Dialogue.Reach

/-!
# The phases of a call

Whatever the desk does to the rules and to the table of messages on behalf of a call is done before
the call uses a channel, the saving of its own message apart. An intake opens by creating its row
and by sorting the message, and settles it from then on; an order deals with the rules and then uses
the channels only.
-/

namespace ChatTriage.Desk

namespace Request

/-- The request opens the intake of the message with an id: it creates its row, reads the rules or
counts a match. -/
def opens (id : String) : Request → Bool
  | .createMessage m => m.id = id
  | q => q.isSorting

/-- The request is about the rules. -/
def isRuling : Request → Bool
  | .allFilters | .filterNamed _ | .storeFilter _ => true
  | q => q.isReading

/-- Opening an intake uses no channel. -/
lemma isOutward_of_opens {id : String} {q : Request} (opens : q.opens id = true) :
    q.isOutward = false := by
  cases q <;> first | rfl | cases opens

/-- Dealing with the rules uses no channel. -/
lemma isOutward_of_isRuling {q : Request} (ruling : q.isRuling = true) : q.isOutward = false := by
  cases q <;> first | rfl | cases ruling

/-- Sorting is part of opening an intake. -/
lemma opens_of_isSorting {id : String} {q : Request} (sorting : q.isSorting = true) :
    q.opens id = true := by
  cases q <;> first | rfl | cases sorting

/-- Reading the rules is dealing with them. -/
lemma isRuling_of_isReading {q : Request} (reading : q.isReading = true) : q.isRuling = true := by
  cases q <;> first | rfl | cases reading

end Request

variable {α β : Type} {c : Config} {m : Message} {id text : String} {log : Log}

/-- Work on the message with an id opens its intake first and settles it afterwards. -/
def Work.Phased (id : String) (w : Work α) : Prop :=
  ∀ m : Message, m.id = id →
    Dialogue.Phased (S := service) (Request.opens id ·) (Request.settles id ·)
      (StateT.run (ExceptT.run w) m)

/-- A task deals with the rules first and uses the channels afterwards. -/
def Task.Phased (t : Task α) : Prop :=
  Dialogue.Phased (S := service) (Request.isRuling ·) (Request.isOutward ·) (ExceptT.run t)

namespace Work.Phased

/-- Work that only settles is phased. -/
lemma late {w : Work α} (within : Work.Within id (·.settles id) w) : Work.Phased id w :=
  fun m own => .late ((within m own).mono (fun _ settles => settles) fun _ _ => trivial)

/-- Reading the message comes before either phase. -/
lemma get_bind {f : Message → Work β} (rest : ∀ m, m.id = id → Work.Phased id (f m)) :
    Work.Phased id (get >>= f) :=
  fun m own => rest m own m own

/-- What opens may come before phased work. -/
lemma bind {w : Work α} {f : α → Work β} (first : Work.Within id (·.opens id) w)
    (rest : ∀ a, Work.Phased id (f a)) : Work.Phased id (w >>= f) := by
  intro m own
  refine Dialogue.Within.phased (first m own) fun ⟨r, n⟩ still => ?_
  cases r with
  | ok a => exact rest a n still
  | error e => exact .late (.done trivial)

end Work.Phased

namespace Task.Phased

/-- A task that only uses channels is phased. -/
lemma late {t : Task α} (within : Task.Within (·.isOutward) t) : Task.Phased t :=
  Dialogue.Phased.late within

/-- So is one that only deals with the rules. -/
lemma early {t : Task α} (within : Task.Within (·.isRuling) t) : Task.Phased t := by
  unfold Task.Phased
  rw [← Dialogue.bind_done (ExceptT.run t)]
  exact Dialogue.Within.phased within fun _ _ => .late (.done trivial)

/-- What deals with the rules may come before a phased task. -/
lemma bind {t : Task α} {f : α → Task β} (first : Task.Within (·.isRuling) t)
    (rest : ∀ a, Task.Phased (f a)) : Task.Phased (t >>= f) := by
  refine Dialogue.Within.phased first fun r _ => ?_
  cases r with
  | ok a => exact rest a
  | error e => exact .late (.done trivial)

end Task.Phased

/-- An intake creates its row and sorts the message before it settles it. -/
lemma process_phased : Work.Phased id (process c) := by
  rw [process_eq]
  refine .get_bind fun m own => ?_
  cases m.draft.refusal? with
  | some report => exact .late .pure
  | none =>
    refine .bind (createRow_within fun m own => decide_eq_true own) fun created => ?_
    cases created with
    | error e => exact .late .result
    | ok u =>
      rw [← own]
      have sorting {α : Type} {t : Task α} (within : Task.Within (·.isSorting) t) :
          Work.Within m.id (·.opens m.id) (Task.toWork t) :=
        .toWork (within.mono fun q => Request.opens_of_isSorting)
      have reading := refresh_within.mono fun q => Request.isSorting_of_isReading
      refine .bind (sorting reading) fun filters => .get_bind fun n _ => ?_
      -- no channel is used until the filters that accept the message are known
      exact .bind (sorting matchAll_within) fun matched => .late finish_within

/-- Storing an update deals with the rules. -/
lemma storeUpdate_within : Task.Within (·.isRuling) (storeUpdate text) := by
  unfold storeUpdate
  refine .bind .result fun command => ?_
  cases Command.Field.ofWord? command.field with
  | none => exact .pure
  | some field =>
    refine .bind .result fun update => .ask_bind rfl fun found => ?_
    obtain e | _ | f := found
    · exact .throw
    · exact .pure
    · refine .ask_bind rfl fun stored => ?_
      cases stored with
      | error e => exact .throw
      | ok g => exact .pure

/-- So does an update command. -/
lemma updateFilter_within : Task.Within (·.isRuling) (updateFilter text) := by
  refine .attempt_bind storeUpdate_within fun outcome => ?_
  obtain e | reason | ⟨command, update⟩ := outcome
  · simp only
    cases updateRefusal? e with
    | none => exact .throw
    | some reason => exact .pure
  · exact .pure
  · exact .bind (refresh_within.mono fun q => Request.isRuling_of_isReading) fun filters => .pure

/-- A command deals with the rules first and is confirmed afterwards. -/
lemma handle_phased : Task.Phased (handle c m) := by
  unfold handle
  cases c.isAdmin m with
  | false => exact .late .pure
  | true =>
    refine .bind .result fun intent => ?_
    cases intent with
    | help => exact .late .pure
    | list => exact .early (listFilters_within rfl)
    | update =>
      show Task.Phased (updateFilter _ >>= telling c m)
      refine .bind updateFilter_within fun result => .late ?_
      unfold telling
      cases result.success with
      | false => exact .pure
      | true => exact .bind confirm_within fun _ => .pure
    | unknown => exact .late .pure

/-- An order deals with the rules before it uses the channels. -/
lemma handleCommand_phased : Task.Phased (handleCommand c m) := by
  unfold Task.Phased handleCommand
  rw [Task.run_attempt_bind]
  refine Dialogue.Phased.bind handle_phased fun r => ?_
  cases r with
  | ok result => exact .done trivial
  | error e => exact .done trivial

/-- Taking in a row begins with asking for it. -/
lemma run_createRow_bind {w : Except Fault Unit → Work α} :
    ((createRow >>= w).run).run m =
      .ask (.createMessage m) fun created => ((w created).run).run (m.listed created) := by
  refine congrArg (Dialogue.ask (S := service) (Request.createMessage m)) (funext fun created => ?_)
  cases created <;> rfl

/-- An intake that was begun is about to create its row, is over, or has created its row. -/
lemma reaches_process {left : Dialogue service (Except Fault Report × Message)}
    (reaches : Dialogue.Reaches (((process c).run).run m) log left) :
    (log = [] ∧ left.Pauses (S := service) (· = Request.createMessage m)) ∨
      (∃ e, log = [⟨.createMessage m, .error e⟩] ∧ ∃ a, left = .done a) ∨
      ∃ rest, log = ⟨.createMessage m, .ok ()⟩ :: rest := by
  rw [process_eq, Work.run_get_bind] at reaches
  cases refused : m.draft.refusal? with
  | some report =>
    rw [refused] at reaches
    obtain ⟨rfl, rfl⟩ := Dialogue.reaches_of_done_iff.mp reaches
    exact .inl ⟨rfl, fun q next same => by cases same⟩
  | none =>
    simp only [refused] at reaches
    rw [run_createRow_bind] at reaches
    obtain ⟨rfl, rfl⟩ | ⟨created, rest, rfl, later⟩ := Dialogue.reaches_of_ask_iff.mp reaches
    · refine .inl ⟨rfl, fun q next same => ?_⟩
      cases same
      rfl
    · obtain e | ⟨⟨⟩⟩ := created
      · obtain ⟨rfl, rfl⟩ := Dialogue.reaches_of_done_iff.mp later
        exact .inr (.inl ⟨e, rfl, _, rfl⟩)
      · exact .inr (.inr ⟨rest, rfl⟩)

end ChatTriage.Desk
