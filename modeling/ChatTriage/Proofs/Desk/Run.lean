import ChatTriage.Desk.Request
import ChatTriage.Proofs.Dialogue.Work

/-!
# Runs of the desk's work

A task of the desk asks requests and may fail, and work on a message changes the message besides.
The lemmas here take a run of either apart, one step at a time, so that no later proof has to look
at how failures and the message are carried along.
-/

namespace ChatTriage.Desk

variable {α β : Type}

/-- What the desk asked, and what it was told. -/
abbrev Log : Type := List (Exchange service)

namespace Request

/-- The request writes the table of messages. -/
def writesMessages : Request → Bool
  | .createMessage _ | .saveMessage _ => true
  | _ => false

/-- The request writes the table of filters. -/
def writesFilters : Request → Bool
  | .storeFilter _ | .storeStats _ _ => true
  | _ => false

end Request

/-- Nothing that was asked writes the table of messages. -/
def Log.Unwritten (log : Log) : Prop :=
  ∀ x ∈ log, x.request.writesMessages = false

/-- A task that is answered as in a log ends with a result. -/
def Task.Runs (t : Task α) (log : Log) (r : Except Fault α) : Prop :=
  Dialogue.Runs (ExceptT.run t) log r

/-- Work on a message that is answered as in a log ends with a result and leaves the message
changed. -/
def Work.Runs (w : Work α) (m : Message) (log : Log) (r : Except Fault α) (m' : Message) : Prop :=
  Dialogue.Runs (StateT.run (ExceptT.run w) m) log (r, m')

/-- Something is done for the members of a list one after the other; each time it has a log of its
own and gives a value. -/
inductive Each {ι : Type} (told : ι → Log → α → Prop) : List ι → Log → List α → Prop where
  | nil :
    Each told [] [] []
  | cons {i is log₁ log₂ a as} :
    told i log₁ a →
    Each told is log₂ as →
    Each told (i :: is) (log₁ ++ log₂) (a :: as)

/-- What is told of each holds of each. -/
lemma Each.forall {ι : Type} {told : ι → Log → α → Prop} {wanted : α → Prop}
    {is : List ι} {log : Log}
    {as : List α} (each : Each told is log as) (one : ∀ i log a, told i log a → wanted a) :
    ∀ a ∈ as, wanted a := by
  induction each with
  | nil => exact fun a member => absurd member List.not_mem_nil
  | cons first _ ih => exact List.forall_mem_cons.mpr ⟨one _ _ _ first, ih⟩

/-- What can be told of each is told of all, one after the other. -/
lemma Each.of_forall {ι : Type} {told : ι → Log → α → Prop} {is : List ι} {g : ι → Log} {h : ι → α}
    (all : ∀ i ∈ is, told i (g i) (h i)) : Each told is (is.flatMap g) (is.map h) := by
  induction is with
  | nil => exact .nil
  | cons i is ih =>
    obtain ⟨first, others⟩ := List.forall_mem_cons.mp all
    exact .cons first (ih others)

/-- A log ends with an exchange after which nothing is asked any more. -/
lemma log_ends_iff {x : Exchange service} {log : Log} {rests : Log → Prop} {ends : Prop}
    (last : ∀ rest, rests rest ↔ rest = [] ∧ ends) :
    (∃ rest, log = x :: rest ∧ rests rest) ↔ log = [x] ∧ ends := by
  constructor
  · rintro ⟨rest, rfl, run⟩
    obtain ⟨rfl, holds⟩ := (last rest).mp run
    exact ⟨rfl, holds⟩
  · rintro ⟨rfl, holds⟩
    exact ⟨[], rfl, (last []).mpr ⟨rfl, holds⟩⟩

namespace Task

/-- A result asks nothing. -/
lemma runs_pure_iff {a : α} {log : Log} {r : Except Fault α} :
    Task.Runs (pure a) log r ↔ log = [] ∧ r = .ok a :=
  Dialogue.runs_done_iff

/-- A fault asks nothing. -/
lemma runs_throw_iff {f : Fault} {log : Log} {r : Except Fault α} :
    Task.Runs (throw f) log r ↔ log = [] ∧ r = .error f :=
  Dialogue.runs_done_iff

/-- Neither does a result that may be a fault. -/
lemma runs_result_iff {x r : Except Fault α} {log : Log} :
    Task.Runs (ExceptT.mk (pure x)) log r ↔ log = [] ∧ r = x :=
  Dialogue.runs_done_iff

/-- What follows a result goes on from it. -/
lemma runs_ok_bind_iff {a : α} {f : α → Task β} {log : Log} {r : Except Fault β} :
    Task.Runs (ExceptT.mk (pure (.ok a)) >>= f) log r ↔ Task.Runs (f a) log r :=
  .rfl

/-- Nothing follows a fault. -/
lemma runs_error_bind_iff {e : Fault} {f : α → Task β} {log : Log} {r : Except Fault β} :
    Task.Runs (ExceptT.mk (pure (.error e)) >>= f) log r ↔ log = [] ∧ r = .error e :=
  Dialogue.runs_done_iff

/-- A sequence of tasks fails in its first part, or goes on with what the first part gave. -/
lemma runs_bind_iff {t : Task α} {f : α → Task β} {log : Log} {r : Except Fault β} :
    Task.Runs (t >>= f) log r ↔
      (∃ e, Task.Runs t log (.error e) ∧ r = .error e) ∨
      ∃ a log₁ log₂, log = log₁ ++ log₂ ∧ Task.Runs t log₁ (.ok a) ∧ Task.Runs (f a) log₂ r := by
  constructor
  · intro run
    obtain ⟨x, log₁, log₂, rfl, first, second⟩ := Dialogue.runs_bind_iff.mp run
    cases x with
    | ok a => exact .inr ⟨a, log₁, log₂, rfl, first, second⟩
    | error e =>
      obtain ⟨rfl, rfl⟩ := Dialogue.runs_done_iff.mp second
      rw [List.append_nil]
      exact .inl ⟨e, first, rfl⟩
  · rintro (⟨e, first, rfl⟩ | ⟨a, log₁, log₂, rfl, first, second⟩)
    · rw [← List.append_nil log]
      exact Dialogue.Runs.bind first .done
    · exact Dialogue.Runs.bind first second

/-- What a task gives is passed on as something else. -/
lemma runs_bind_pure_iff {t : Task α} {g : α → β} {log : Log} {r : Except Fault β} :
    Task.Runs (t >>= fun a => pure (g a)) log r ↔ ∃ x, Task.Runs t log x ∧ r = x.map g := by
  rw [runs_bind_iff]
  constructor
  · rintro (⟨e, first, rfl⟩ | ⟨a, log₁, log₂, rfl, first, second⟩)
    · exact ⟨.error e, first, rfl⟩
    · obtain ⟨rfl, rfl⟩ := runs_pure_iff.mp second
      rw [List.append_nil]
      exact ⟨.ok a, first, rfl⟩
  · rintro ⟨x, first, rfl⟩
    cases x with
    | error e => exact .inl ⟨e, first, rfl⟩
    | ok a => exact .inr ⟨a, log, [], by simp, first, runs_pure_iff.mpr ⟨rfl, rfl⟩⟩

/-- A task that begins with a request goes on from its answer. -/
lemma runs_ask_bind_iff {q : Request} {f : q.Answer → Task β} {log : Log} {r : Except Fault β} :
    Task.Runs (ask q >>= f) log r ↔ ∃ x rest, log = ⟨q, x⟩ :: rest ∧ Task.Runs (f x) rest r :=
  Dialogue.runs_ask_iff

/-- The outcome of a task is looked at whether it failed or not. -/
lemma run_attempt_bind {t : Task α} {f : Except Fault α → Task β} :
    ExceptT.run (attempt t >>= f) = ExceptT.run t >>= fun r => ExceptT.run (f r) := by
  simp [attempt]

/-- What looks at an outcome goes on from it. -/
lemma runs_attempt_bind_iff {t : Task α} {f : Except Fault α → Task β} {log : Log}
    {r : Except Fault β} :
    Task.Runs (attempt t >>= f) log r ↔
      ∃ x log₁ log₂, log = log₁ ++ log₂ ∧ Task.Runs t log₁ x ∧ Task.Runs (f x) log₂ r := by
  rw [Task.Runs, run_attempt_bind]
  exact Dialogue.runs_bind_iff

/-- An attempt has the outcome of its task for a result. -/
lemma runs_attempt_iff {t : Task α} {log : Log} {r : Except Fault (Except Fault α)} :
    Task.Runs (attempt t) log r ↔ ∃ outcome, r = .ok outcome ∧ Task.Runs t log outcome := by
  rw [← bind_pure (attempt t), runs_attempt_bind_iff]
  constructor
  · rintro ⟨x, log₁, log₂, rfl, run, last⟩
    obtain ⟨rfl, rfl⟩ := runs_pure_iff.mp last
    rw [List.append_nil]
    exact ⟨x, rfl, run⟩
  · rintro ⟨x, rfl, run⟩
    exact ⟨x, log, [], (List.append_nil log).symm, run, runs_pure_iff.mpr ⟨rfl, rfl⟩⟩

/-- A task that never fails is followed by the rest. -/
lemma runs_bind_of_sure {t : Task α} {f : α → Task β} {log : Log} {r : Except Fault β}
    (sure : ∀ log e, ¬ Task.Runs t log (.error e)) :
    Task.Runs (t >>= f) log r ↔
      ∃ a log₁ log₂, log = log₁ ++ log₂ ∧ Task.Runs t log₁ (.ok a) ∧ Task.Runs (f a) log₂ r := by
  rw [runs_bind_iff]
  constructor
  · rintro (⟨e, run, -⟩ | rest)
    · exact (sure log e run).elim
    · exact rest
  · exact .inr

/-- A task that never fails is done for every member of a list. -/
lemma runs_mapM_iff {ι : Type} {g : ι → Task α} {told : ι → Log → α → Prop}
    (each : ∀ i log r, Task.Runs (g i) log r ↔ ∃ a, r = .ok a ∧ told i log a)
    {is : List ι} {log : Log} {r : Except Fault (List α)} :
    Task.Runs (is.mapM g) log r ↔ ∃ as, r = .ok as ∧ Each told is log as := by
  have sure (i : ι) (log : Log) (e : Fault) : ¬ Task.Runs (g i) log (.error e) := by
    intro run
    obtain ⟨a, impossible, -⟩ := (each i log _).mp run
    cases impossible
  induction is generalizing log r with
  | nil =>
    rw [List.mapM_nil, runs_pure_iff]
    constructor
    · rintro ⟨rfl, rfl⟩
      exact ⟨[], rfl, .nil⟩
    · rintro ⟨as, rfl, told⟩
      cases told
      exact ⟨rfl, rfl⟩
  | cons i is ih =>
    rw [List.mapM_cons, runs_bind_of_sure (sure i)]
    constructor
    · rintro ⟨a, log₁, log₂, rfl, first, rest⟩
      obtain ⟨_, same, toldFirst⟩ := (each i _ _).mp first
      cases same
      obtain ⟨_, others, rfl⟩ := runs_bind_pure_iff.mp rest
      obtain ⟨as, rfl, toldOthers⟩ := ih.mp others
      exact ⟨a :: as, rfl, .cons toldFirst toldOthers⟩
    · rintro ⟨as, rfl, told⟩
      cases told with
      | @cons _ _ log₁ log₂ a as first others =>
        refine ⟨a, log₁, log₂, rfl, (each i _ _).mpr ⟨a, rfl, first⟩, ?_⟩
        exact runs_bind_pure_iff.mpr ⟨_, ih.mpr ⟨as, rfl, others⟩, rfl⟩

end Task

namespace Work

variable {m m' : Message} {log : Log}

/-- The message is read. -/
lemma run_get_bind {f : Message → Work β} :
    StateT.run (ExceptT.run (get >>= f)) m = StateT.run (ExceptT.run (f m)) m := rfl

/-- What follows a result goes on from it. -/
lemma run_ok_bind {a : α} {f : α → Work β} :
    StateT.run (ExceptT.run ((ExceptT.mk (pure (.ok a)) : Work α) >>= f)) m =
      StateT.run (ExceptT.run (f a)) m := rfl

/-- A result asks nothing and leaves the message. -/
lemma runs_pure_iff {a : α} {r : Except Fault α} :
    Work.Runs (pure a) m log r m' ↔ log = [] ∧ r = .ok a ∧ m' = m :=
  Dialogue.works_pure_iff

/-- So does a result that may be a fault. -/
lemma runs_result_iff {x r : Except Fault α} :
    Work.Runs (ExceptT.mk (pure x)) m log r m' ↔ log = [] ∧ r = x ∧ m' = m :=
  Dialogue.works_result_iff

/-- A sequence of work fails in its first part, or goes on with what the first part gave and
left. -/
lemma runs_bind_iff {w : Work α} {f : α → Work β} {r : Except Fault β} :
    Work.Runs (w >>= f) m log r m' ↔
      (∃ e, Work.Runs w m log (.error e) m' ∧ r = .error e) ∨
      ∃ a m₁ log₁ log₂, log = log₁ ++ log₂ ∧ Work.Runs w m log₁ (.ok a) m₁ ∧
        Work.Runs (f a) m₁ log₂ r m' :=
  Dialogue.works_bind_iff

/-- What work gives is passed on as something else. -/
lemma runs_bind_pure_iff {w : Work α} {g : α → β} {r : Except Fault β} :
    Work.Runs (w >>= fun a => pure (g a)) m log r m' ↔ ∃ x, Work.Runs w m log x m' ∧ r = x.map g :=
  Dialogue.works_bind_pure_iff

/-- Work that never fails is followed by the rest. -/
lemma runs_bind_of_sure {w : Work α} {f : α → Work β} {r : Except Fault β}
    (sure : ∀ log e m₁, ¬ Work.Runs w m log (.error e) m₁) :
    Work.Runs (w >>= f) m log r m' ↔
      ∃ a m₁ log₁ log₂, log = log₁ ++ log₂ ∧ Work.Runs w m log₁ (.ok a) m₁ ∧
        Work.Runs (f a) m₁ log₂ r m' := by
  rw [runs_bind_iff]
  constructor
  · rintro (⟨e, run, -⟩ | rest)
    · exact (sure log e m' run).elim
    · exact rest
  · exact .inr

/-- A sequence of work that goes well goes well in both parts. -/
lemma runs_bind_ok_iff {w : Work α} {f : α → Work β} {b : β} :
    Work.Runs (w >>= f) m log (.ok b) m' ↔
      ∃ a m₁ log₁ log₂, log = log₁ ++ log₂ ∧ Work.Runs w m log₁ (.ok a) m₁ ∧
        Work.Runs (f a) m₁ log₂ (.ok b) m' := by
  rw [runs_bind_iff]
  constructor
  · rintro (⟨_, -, impossible⟩ | rest)
    · cases impossible
    · exact rest
  · exact .inr

/-- What reads the message goes on with it. -/
lemma runs_get_bind_iff {f : Message → Work β} {r : Except Fault β} :
    Work.Runs (get >>= f) m log r m' ↔ Work.Runs (f m) m log r m' :=
  Dialogue.works_get_bind_iff

/-- What puts down a message goes on with that one. -/
lemma runs_set_bind_iff {n : Message} {f : PUnit → Work β} {r : Except Fault β} :
    Work.Runs (set n >>= f) m log r m' ↔ Work.Runs (f ⟨⟩) n log r m' :=
  Dialogue.works_set_bind_iff

/-- A task leaves the message alone. -/
lemma runs_toWork_iff {t : Task α} {r : Except Fault α} :
    Work.Runs (Task.toWork t) m log r m' ↔ Task.Runs t log r ∧ m' = m := by
  constructor
  · intro run
    obtain ⟨x, log₁, log₂, rfl, first, second⟩ := Dialogue.runs_bind_iff.mp run
    obtain ⟨rfl, same⟩ := Dialogue.runs_done_iff.mp second
    cases same
    rw [List.append_nil]
    exact ⟨first, rfl⟩
  · rintro ⟨run, rfl⟩
    rw [← List.append_nil log]
    exact Dialogue.Runs.bind run .done

/-- Work that begins with a request goes on from its answer. -/
lemma runs_ask_bind_iff {q : Request} {f : q.Answer → Work β} {r : Except Fault β} :
    Work.Runs (Task.toWork (ask q) >>= f) m log r m' ↔
      ∃ x rest, log = ⟨q, x⟩ :: rest ∧ Work.Runs (f x) m rest r m' :=
  Dialogue.runs_ask_iff

end Work

end ChatTriage.Desk
