import ChatTriage.Proofs.Desk.Process
import ChatTriage.Proofs.Dialogue.Run

/-!
# What the desk asks for

An intake creates the row of its message and saves it, reads the rules, counts matches and uses the
channels; it touches no other row of a message and no definition of a filter, and answers nobody who
gave a command. `process_within` says so. Once the filters are known, which is before any channel is
used, the message is settled by saving it and by the channels alone, which is `finish_within`.
-/

namespace ChatTriage.Desk

namespace Request

/-- The request is for a channel. -/
def isOutward : Request → Bool
  | .available _ | .send _ _ _ | .forward _ _ _ _ => true
  | _ => false

/-- The request is made for an operator: it changes a definition, or answers who gave a command. -/
def isOrder : Request → Bool
  | .storeFilter _ | .reply _ => true
  | _ => false

/-- The request reads the rules or keeps them as they were read. -/
def isReading : Request → Bool
  | .enabledFilters | .snapshot | .keepSnapshot _ => true
  | _ => false

/-- The request reads the rules or counts a match. -/
def isSorting : Request → Bool
  | .now | .storeStats _ _ => true
  | q => q.isReading

/-- The request settles the message with an id: it saves the message or uses a channel. -/
def settles (id : String) : Request → Bool
  | .saveMessage m => m.id = id
  | q => q.isOutward

/-- The request takes the message with an id in. -/
def takesIn (id : String) : Request → Bool
  | .createMessage m => m.id = id
  | q => q.isSorting || q.settles id

/-- Reading the rules is part of sorting. -/
lemma isSorting_of_isReading {q : Request} (reading : q.isReading = true) : q.isSorting = true := by
  cases q <;> first | rfl | cases reading

/-- Sorting writes no message. -/
lemma writesMessages_of_isSorting {q : Request} (sorting : q.isSorting = true) :
    q.writesMessages = false := by
  cases q <;> first | rfl | cases sorting

/-- Sorting is part of taking a message in. -/
lemma takesIn_of_isSorting {id : String} {q : Request} (sorting : q.isSorting = true) :
    q.takesIn id = true := by
  cases q <;> first | rfl | cases sorting

/-- Settling a message is part of taking it in. -/
lemma takesIn_of_settles {id : String} {q : Request} (settles : q.settles id = true) :
    q.takesIn id = true := by
  cases q <;> first | exact settles | cases settles

/-- Nothing of taking a message in is an order. -/
lemma isOrder_of_takesIn {id : String} {q : Request} (takesIn : q.takesIn id = true) :
    q.isOrder = false := by
  cases q <;> first | rfl | cases takesIn

end Request

variable {α β : Type} {P P' : Request → Prop} {id : String}

/-- Whatever a task is answered, it asks only what is allowed. -/
def Task.Within (P : Request → Prop) (t : Task α) : Prop :=
  Dialogue.Within P (fun _ => True) (ExceptT.run t)

/-- Whatever work on the message with an id is answered, it asks only what is allowed and leaves the
message its id. -/
def Work.Within (id : String) (P : Request → Prop) (w : Work α) : Prop :=
  ∀ m, m.id = id → Dialogue.Within P (·.2.id = id) (StateT.run (ExceptT.run w) m)

namespace Task.Within

/-- A result asks nothing. -/
lemma pure {a : α} : Task.Within P (pure a) :=
  .done trivial

/-- A fault asks nothing. -/
lemma throw {f : Fault} : Task.Within P (throw f : Task α) :=
  .done trivial

/-- Neither does a result that may be a fault. -/
lemma result {r : Except Fault α} : Task.Within P (ExceptT.mk (Pure.pure r)) :=
  .done trivial

/-- A task may begin with a request that is allowed. -/
lemma ask_bind {q : Request} {f : q.Answer → Task β} (allowed : P q)
    (rest : ∀ x, Task.Within P (f x)) :
    Task.Within P (ask q >>= f) :=
  Dialogue.Within.ask allowed rest

/-- It may be such a request. -/
lemma ask {q : Request} (allowed : P q) : Task.Within P (ask q) :=
  Dialogue.Within.ask allowed fun _ => .done trivial

/-- Tasks within bounds may follow each other. -/
lemma bind {t : Task α} {f : α → Task β} (first : Task.Within P t)
    (rest : ∀ a, Task.Within P (f a)) :
    Task.Within P (t >>= f) := by
  refine Dialogue.Within.bind first fun r _ => ?_
  cases r with
  | ok a => exact rest a
  | error f => exact .done trivial

/-- So may what looks at whether a task failed. -/
lemma attempt_bind {t : Task α} {f : Except Fault α → Task β} (first : Task.Within P t)
    (rest : ∀ r, Task.Within P (f r)) : Task.Within P (attempt t >>= f) := by
  rw [Task.Within, run_attempt_bind]
  exact Dialogue.Within.bind first fun r _ => rest r

/-- A task within bounds may be carried out for each item of a list. -/
lemma mapM {ι : Type} {g : ι → Task α} {is : List ι} (each : ∀ i, Task.Within P (g i)) :
    Task.Within P (is.mapM g) := by
  induction is with
  | nil => exact pure
  | cons i is ih =>
    rw [List.mapM_cons]
    exact bind (each i) fun a => bind ih fun as => pure

/-- Bounds may be widened. -/
lemma mono {t : Task α} (within : Task.Within P t) (allowed : ∀ q, P q → P' q) : Task.Within P' t :=
  Dialogue.Within.mono within allowed fun _ ends => ends

end Task.Within

namespace Work.Within

/-- A result asks nothing. -/
lemma pure {a : α} : Work.Within id P (pure a) :=
  fun _ own => .done own

/-- Neither does a result that may be a fault. -/
lemma result {r : Except Fault α} : Work.Within id P (ExceptT.mk (Pure.pure r)) :=
  fun _ own => .done own

/-- A message with the same id may be put down. -/
lemma set {n : Message} (own : n.id = id) : Work.Within id P (set n) :=
  fun _ _ => .done own

/-- The message that is read has its id. -/
lemma get_bind {f : Message → Work β} (rest : ∀ m, m.id = id → Work.Within id P (f m)) :
    Work.Within id P (get >>= f) :=
  fun m own => rest m own m own

/-- Work within bounds may follow other such work. -/
lemma bind {w : Work α} {f : α → Work β} (first : Work.Within id P w)
    (rest : ∀ a, Work.Within id P (f a)) : Work.Within id P (w >>= f) := by
  intro m own
  refine Dialogue.Within.bind (first m own) fun ⟨r, n⟩ still => ?_
  cases r with
  | ok a => exact rest a n still
  | error f => exact .done still

/-- A task within bounds is such work. -/
lemma toWork {t : Task α} (within : Task.Within P t) : Work.Within id P (Task.toWork t) :=
  fun _ own => Dialogue.Within.bind within fun _ _ => .done own

/-- Work within bounds may be done for each item of a list. -/
lemma mapM {ι : Type} {g : ι → Work α} {is : List ι} (each : ∀ i, Work.Within id P (g i)) :
    Work.Within id P (is.mapM g) := by
  induction is with
  | nil => exact pure
  | cons i is ih =>
    rw [List.mapM_cons]
    exact bind (each i) fun a => bind ih fun as => pure

/-- Bounds may be widened. -/
lemma mono {w : Work α} (within : Work.Within id P w) (allowed : ∀ q, P q → P' q) :
    Work.Within id P' w :=
  fun m own => (within m own).mono allowed fun _ ends => ends

end Work.Within

/-- Moving the status keeps the id. -/
lemma id_of_advance {m n : Message} {target : Status} {moved : Bool}
    (advanced : m.advance target = .ok (moved, n)) : n.id = m.id := by
  unfold Message.advance at advanced
  split at advanced
  · cases advanced
    rfl
  · cases advanced
    rfl
  · cases advanced

/-- Applying actions keeps the id. -/
lemma id_of_applyActions {m : Message} {a : FilterActions} : (m.applyActions a).1.id = m.id := by
  unfold Message.applyActions
  cases a.archive with
  | false => rfl
  | true =>
    simp only [if_true]
    split
    · rename_i moved
      exact (id_of_advance moved).trans rfl
    · rfl

/-- Moving the status asks nothing. -/
lemma advance_within {target : Status} : Work.Within id P (advance target) := by
  refine .get_bind fun m own => ?_
  split
  · rename_i moved
    exact .set ((id_of_advance moved).trans own)
  · exact .result

/-- Saving asks for the message to be saved. -/
lemma save_within (allowed : ∀ m, m.id = id → P (.saveMessage m)) : Work.Within id P save := by
  refine .get_bind fun m own => ?_
  refine .bind (.toWork (.ask (allowed m own))) fun r => ?_
  cases r with
  | error e => exact .pure
  | ok u =>
    simp only
    split
    · exact .bind (.set own) fun _ => .pure
    · exact .pure

/-- Taking in a row asks for the message to be created. -/
lemma createRow_within (allowed : ∀ m, m.id = id → P (.createMessage m)) :
    Work.Within id P createRow := by
  refine .get_bind fun m own => .bind (.toWork (.ask (allowed m own))) fun r => ?_
  cases r with
  | error e => exact .pure
  | ok u => exact .bind (.set own) fun _ => .pure

/-- Saving after a filter asks for the message to be saved. -/
lemma persist_within (allowed : ∀ m, m.id = id → P (.saveMessage m)) :
    Work.Within id P persist := by
  rw [persist_eq]
  exact .bind (save_within allowed) fun _ => .result

/-- So does saving without telling when a store fails. -/
lemma saveQuietly_within (allowed : ∀ m, m.id = id → P (.saveMessage m)) :
    Work.Within id P saveQuietly := by
  rw [saveQuietly_eq]
  exact .bind (save_within allowed) fun _ => .result

section Channels

variable {c : Config} {m : Message} {f : Filter} (outward : ∀ q : Request, q.isOutward = true → P q)

include outward

/-- Answering the sender asks a route. -/
lemma autoReply_within {text : String} : Task.Within P (autoReply c m text) := by
  unfold autoReply
  cases c.routeNamed? m.metadata.source with
  | none => exact .pure
  | some route =>
    refine .ask_bind (outward _ rfl) fun usable => ?_
    obtain e | _ | _ := usable
    · exact .throw
    · exact .pure
    · refine .ask_bind (outward _ rfl) fun answer => ?_
      cases answer <;> exact .pure

/-- Forwarding on a route asks that route. -/
lemma forwardOn_within {route : Nat} {way : Route} : Task.Within P (forwardOn route way m f) := by
  refine .ask_bind (outward _ rfl) fun usable => ?_
  obtain e | _ | _ := usable
  · exact .pure
  · exact .pure
  · refine .mapM fun destination => .ask_bind (outward _ rfl) fun answer => ?_
    cases answer <;> exact .pure

/-- Forwarding for a filter asks routes. -/
lemma forwardAll_within : Task.Within P (forwardAll c m f) :=
  .bind (.mapM fun _ => forwardOn_within outward) fun _ => .pure

end Channels

/-- Carrying out filters settles the message. -/
lemma runFilter_within {c : Config} {f : Filter} :
    Work.Within id (·.settles id) (runFilter c f) := by
  have outward (q : Request) (outward : q.isOutward = true) : q.settles id = true := by
    cases q <;> first | exact outward | cases outward
  rw [runFilter_eq]
  refine .bind (.get_bind fun m own => ?_) fun notes => ?_
  · exact .bind (.set (id_of_applyActions.trans own)) fun _ => .pure
  refine .bind (persist_within fun m own => decide_eq_true own) fun note =>
    .get_bind fun m own => ?_
  have replying : Work.Within id (·.settles id) (replying c m f) := by
    unfold Desk.replying
    split
    · rw [map_eq_pure_bind]
      exact .bind (.toWork (autoReply_within outward)) fun _ => .pure
    · exact .pure
  exact .bind replying fun replies => .bind (.toWork (forwardAll_within outward)) fun _ => .pure

/-- Dispatching asks only for what settles the message. -/
lemma dispatch_within {c : Config} {filters : List Filter} :
    Work.Within id (·.settles id) (dispatch c filters) := by
  unfold dispatch
  cases filters with
  | nil => exact .mapM fun f => runFilter_within
  | cons f filters => exact .bind advance_within fun _ => .mapM fun f => runFilter_within

/-- Once the filters are known the message is settled. -/
lemma finish_within {c : Config} {matched : List Filter} :
    Work.Within id (·.settles id) (finish c id matched) := by
  cases matched with
  | nil =>
    refine .bind advance_within fun _ => ?_
    refine .bind (saveQuietly_within fun m own => decide_eq_true own) fun _ => ?_
    exact .get_bind fun m _ => .pure
  | cons f filters => exact .bind dispatch_within fun _ => .get_bind fun m _ => .pure

/-- Refreshing the rules only reads. -/
lemma refresh_within : Task.Within (·.isReading) refresh := by
  refine .ask_bind rfl fun r => ?_
  cases r with
  | ok filters => exact .ask_bind rfl fun _ => .pure
  | error e =>
    cases store : e.isStore with
    | true =>
      simp only [store]
      exact .ask rfl
    | false =>
      simp only [store]
      exact .throw

/-- Recording a match is part of sorting. -/
lemma recordMatch_within {f : Filter} : Task.Within (·.isSorting) (recordMatch f) := by
  unfold recordMatch
  split
  · exact .pure
  · refine .ask_bind rfl fun now => .ask_bind rfl fun r => ?_
    cases r with
    | ok u => exact .pure
    | error e =>
      simp only
      split
      · exact .pure
      · exact .throw

/-- Matching is part of sorting. -/
lemma matchAll_within {zone : Zone} {m : Message} {filters : List Filter} :
    Task.Within (·.isSorting) (matchAll zone m filters) := by
  induction filters with
  | nil => exact .pure
  | cons f filters ih =>
    refine .attempt_bind (.bind .result fun accepted => ?_) fun selected =>
      .bind ih fun others => .pure
    cases accepted with
    | false => exact .pure
    | true => exact .bind recordMatch_within fun _ => .pure

/-- What an intake asks for takes its message in. -/
lemma process_within {c : Config} : Work.Within id (·.takesIn id) (process c) := by
  rw [process_eq]
  refine .get_bind fun m own => ?_
  cases m.draft.refusal? with
  | some report => exact .pure
  | none =>
    refine .bind (createRow_within fun m own => decide_eq_true own) fun created => ?_
    cases created with
    | error e => exact .result
    | ok u =>
      rw [← own]
      have sorting {α : Type} {t : Task α} (within : Task.Within (·.isSorting) t) :
          Work.Within m.id (·.takesIn m.id) (Task.toWork t) :=
        .toWork (within.mono fun q => Request.takesIn_of_isSorting)
      have reading := refresh_within.mono fun q => Request.isSorting_of_isReading
      refine .bind (sorting reading) fun filters => .get_bind fun n _ => ?_
      refine .bind (sorting matchAll_within) fun matched => ?_
      exact finish_within.mono fun q => Request.takesIn_of_settles

end ChatTriage.Desk
