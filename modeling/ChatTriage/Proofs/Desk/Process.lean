import ChatTriage.Desk.Intake
import ChatTriage.Proofs.Desk.Isolation

/-!
# Runs of an intake

A message that is taken in is validated first, then its row is created, and only when both went well
are the filters asked. `runs_process_iff` lists what can happen before that: a message that is
refused has asked for its row at most, and is handed back as it came.
-/

namespace ChatTriage

/-- The message after the store was asked to create its row. -/
def Message.listed (m : Message) : Except Fault Unit → Message
  | .ok () => { m with version := .count 0 }
  | .error _ => m

namespace Desk

variable {c : Config} {m m' : Message} {log : Log}

/-- What a message comes to when its row could not be created. -/
def turnedAway (m : Message) : Fault → Except Fault Report
  | .duplicate _ => .ok (.refused m.draft.reportedId .duplicate)
  | e => if e.isStore then .ok (.refused m.draft.reportedId (.store e)) else .error e

/-- What is done with a message once it is known which filters accept it. -/
def finish (c : Config) (id : String) (matched : List Filter) : Work Report := do
  if matched.isEmpty then
    advance .processed
    saveQuietly
    return .unmatched id (← get).status
  else
    let outcomes ← dispatch c matched
    return .dispatched id (← get).status (matched.map (·.name)) outcomes

/-- What is done with a message once its row is there. -/
def sort (c : Config) (id : String) : Work Report := do
  let filters ← Task.toWork refresh
  finish c id (← Task.toWork (matchAll c.zone (← get) filters))

/-- A message that is turned away is not accepted. -/
lemma turnedAway_refused {e : Fault} {report : Report} (away : turnedAway m e = .ok report) :
    report.accepted = false := by
  cases e with
  | duplicate key =>
    cases away
    rfl
  -- the other faults are reported if they are the store's, and thrown otherwise
  | _ =>
    unfold turnedAway at away
    split at away
    all_goals (try split at away)
    all_goals (cases away; try rfl)

/-- Taking in a row asks once. -/
lemma runs_createRow_iff {r : Except Fault (Except Fault Unit)} :
    Work.Runs createRow m log r m' ↔
      ∃ answer, log = [⟨.createMessage m, answer⟩] ∧ r = .ok answer ∧ m' = m.listed answer := by
  unfold createRow
  rw [Work.runs_get_bind_iff, Work.runs_ask_bind_iff]
  refine exists_congr fun answer => log_ends_iff fun rest => ?_
  cases answer with
  | error e => exact Work.runs_pure_iff
  | ok u => exact Work.runs_set_bind_iff.trans Work.runs_pure_iff

/-- The steps of an intake, one after the other. -/
lemma process_eq : process c = get >>= fun m =>
    match m.draft.refusal? with
    | some report => pure report
    | none => createRow >>= fun
      | .ok () => sort c m.id
      | .error e => ExceptT.mk (pure (turnedAway m e)) := by
  unfold process create
  refine congrArg (get >>= ·) (funext fun m => ?_)
  cases m.draft.refusal? with
  | some report => rfl
  | none =>
    simp only [bind_assoc]
    refine congrArg (createRow >>= ·) (funext fun created => ?_)
    cases created with
    | ok u => rfl
    | error e => cases e <;> rfl

/-- A message is refused or not taken in before anything but its row was asked for, or its row is
created and the filters are asked. -/
lemma runs_process_iff {r : Except Fault Report} :
    Work.Runs (process c) m log r m' ↔
      (∃ report, m.draft.refusal? = some report ∧ log = [] ∧ r = .ok report ∧ m' = m) ∨
      (∃ e, m.draft.refusal? = none ∧ log = [⟨.createMessage m, .error e⟩] ∧ r = turnedAway m e ∧
        m' = m) ∨
      ∃ rest, m.draft.refusal? = none ∧ log = ⟨.createMessage m, .ok ()⟩ :: rest ∧
        Work.Runs (sort c m.id) { m with version := .count 0 } rest r m' := by
  rw [process_eq, Work.runs_get_bind_iff]
  cases m.draft.refusal? with
  | some report =>
    rw [Work.runs_pure_iff]
    simp
  | none =>
    -- creating the row never fails itself: its failures are told
    rw [Work.runs_bind_of_sure]
    · constructor
      · rintro ⟨answer, n, log₁, log₂, rfl, created, later⟩
        obtain ⟨_, rfl, same, rfl⟩ := runs_createRow_iff.mp created
        cases same
        obtain e | ⟨⟨⟩⟩ := answer
        · obtain ⟨rfl, rfl, rfl⟩ := Work.runs_result_iff.mp later
          exact .inr (.inl ⟨e, rfl, rfl, rfl, rfl⟩)
        · exact .inr (.inr ⟨log₂, rfl, rfl, later⟩)
      · rintro (⟨_, impossible, -⟩ | ⟨e, -, rfl, rfl, rfl⟩ | ⟨rest, -, rfl, sorted⟩)
        · cases impossible
        · exact ⟨.error e, m', [_], [], rfl, runs_createRow_iff.mpr ⟨.error e, rfl, rfl, rfl⟩,
            Work.runs_result_iff.mpr ⟨rfl, rfl, rfl⟩⟩
        · exact ⟨.ok (), _, [_], rest, rfl, runs_createRow_iff.mpr ⟨.ok (), rfl, rfl, rfl⟩, sorted⟩
    · intro log e n created
      obtain ⟨_, -, impossible, -⟩ := runs_createRow_iff.mp created
      cases impossible

/-- Without filters the message is processed. -/
lemma runs_finish_nil_iff {id : String} {r : Except Fault Report} :
    Work.Runs (finish c id []) m log r m' ↔
      Work.Runs (do
        advance .processed
        saveQuietly
        return .unmatched id (← get).status) m log r m' :=
  .rfl

/-- With filters it is dispatched. -/
lemma runs_finish_cons_iff {id : String} {f : Filter} {filters : List Filter}
    {r : Except Fault Report} :
    Work.Runs (finish c id (f :: filters)) m log r m' ↔
      Work.Runs (do
        let outcomes ← dispatch c (f :: filters)
        return .dispatched id (← get).status ((f :: filters).map (·.name)) outcomes) m log r m' :=
  .rfl

/-- How a save ends when failures of the store are not told. -/
def hushed : Except Fault Unit → Except Fault Unit
  | .ok () => .ok ()
  | .error e => if e.isStore then .ok () else .error e

/-- A quiet save is a save whose store failures are hushed. -/
lemma saveQuietly_eq : saveQuietly = save >>= fun saved => ExceptT.mk (pure (hushed saved)) := by
  refine congrArg (save >>= ·) (funext fun saved => ?_)
  obtain e | ⟨⟨⟩⟩ := saved
  · cases store : e.isStore <;> simp only [hushed, store] <;> rfl
  · rfl

/-- It asks once. -/
lemma runs_saveQuietly_iff {r : Except Fault Unit} :
    Work.Runs saveQuietly m log r m' ↔
      ∃ answer, log = [⟨.saveMessage m, answer⟩] ∧ r = hushed (m.kept answer).1 ∧
        m' = (m.kept answer).2 := by
  rw [saveQuietly_eq]
  exact runs_save_bind_iff

/-- A new message that no filter accepts is marked as processed and saved. -/
lemma runs_finish_nil {id : String} {r : Except Fault Report} (received : m.status = .received)
    (run : Work.Runs (finish c id []) m log r m') :
    ∃ answer, log = [⟨.saveMessage { m with status := .processed }, answer⟩] ∧
      m' = ({ m with status := .processed }.kept answer).2 ∧
      (({ m with status := .processed }.kept answer).1 = .ok () →
        r = .ok (.unmatched id m'.status)) := by
  -- from received a message may always be processed
  have moves : m.advance .processed = .ok (true, { m with status := .processed }) := by
    simp [Message.advance, received, Status.move, Status.next, Status.passed]
  rw [runs_finish_nil_iff, advance, bind_assoc, Work.runs_get_bind_iff, moves] at run
  obtain ⟨e, saving, rfl⟩ | ⟨⟨⟩, m₁, log₁, log₂, rfl, saving, last⟩ :=
    Work.runs_bind_iff.mp (Work.runs_set_bind_iff.mp run)
  · obtain ⟨answer, rfl, failed, rfl⟩ := runs_saveQuietly_iff.mp saving
    refine ⟨answer, rfl, rfl, fun kept => ?_⟩
    rw [kept] at failed
    cases failed
  · obtain ⟨answer, rfl, -, rfl⟩ := runs_saveQuietly_iff.mp saving
    rw [Work.runs_get_bind_iff, Work.runs_pure_iff] at last
    obtain ⟨rfl, rfl, rfl⟩ := last
    exact ⟨answer, rfl, rfl, fun _ => rfl⟩

/-- What is reported on a message whose filters were asked. -/
lemma finish_report {id : String} {matched : List Filter} {report : Report}
    (run : Work.Runs (finish c id matched) m log (.ok report) m') :
    (matched = [] ∧ ∃ status, report = .unmatched id status) ∨
    ∃ status outcomes, report = .dispatched id status (matched.map (·.name)) outcomes := by
  cases matched with
  | nil =>
    obtain ⟨⟨⟩, m₁, -, log₁, -, -, run₁⟩ := Work.runs_bind_ok_iff.mp (runs_finish_nil_iff.mp run)
    obtain ⟨⟨⟩, m₂, -, log₂, -, -, run₂⟩ := Work.runs_bind_ok_iff.mp run₁
    rw [Work.runs_get_bind_iff, Work.runs_pure_iff] at run₂
    obtain ⟨-, same, -⟩ := run₂
    cases same
    exact .inl ⟨rfl, _, rfl⟩
  | cons f filters =>
    obtain ⟨outcomes, m₁, -, log₁, -, -, run₁⟩ :=
      Work.runs_bind_ok_iff.mp (runs_finish_cons_iff.mp run)
    rw [Work.runs_get_bind_iff, Work.runs_pure_iff] at run₁
    obtain ⟨-, same, -⟩ := run₁
    cases same
    exact .inr ⟨_, _, rfl⟩

/-- A message whose filters were asked is taken in. -/
lemma finish_accepted {id : String} {matched : List Filter} {report : Report}
    (run : Work.Runs (finish c id matched) m log (.ok report) m') : report.accepted = true := by
  obtain ⟨-, status, rfl⟩ | ⟨status, outcomes, rfl⟩ := finish_report run
  · rfl
  · rfl

/-- A message that is sorted is accepted. -/
lemma sort_accepted {id : String} {report : Report}
    (run : Work.Runs (sort c id) m log (.ok report) m') : report.accepted = true := by
  obtain ⟨filters, m₁, -, log₁, -, -, run₁⟩ := Work.runs_bind_ok_iff.mp run
  obtain ⟨matched, m₂, -, log₂, -, -, run₂⟩ :=
    Work.runs_bind_ok_iff.mp (Work.runs_get_bind_iff.mp run₁)
  exact finish_accepted run₂

/-- A message is taken in when its row was created, and refused when it was not. -/
lemma process_settled {report : Report} (run : Work.Runs (process c) m log (.ok report) m') :
    (report.accepted = true ∧ ∃ rest, log = ⟨.createMessage m, .ok ()⟩ :: rest) ∨
    (report.accepted = false ∧ m' = m ∧
      (log = [] ∨ ∃ e, log = [⟨.createMessage m, .error e⟩])) := by
  obtain ⟨_, refused, rfl, same, rfl⟩ | ⟨e, -, rfl, away, rfl⟩ | ⟨rest, -, rfl, sorted⟩ :=
    runs_process_iff.mp run
  · cases same
    refine .inr ⟨?_, rfl, .inl rfl⟩
    unfold Draft.refusal? at refused
    split at refused
    · cases refused
    · cases refused
      rfl
  · exact .inr ⟨turnedAway_refused away.symm, rfl, .inr ⟨e, rfl⟩⟩
  · exact .inl ⟨sort_accepted sorted, rest, rfl⟩

end Desk

end ChatTriage
