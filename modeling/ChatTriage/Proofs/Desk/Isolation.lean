import ChatTriage.Proofs.Desk.Dispatch

/-!
# Isolation of the steps of a dispatch

A dispatch marks the message as filtered and carries out the filters. Whatever the store and the
channels answer, it ends with one outcome for each filter, in their order, and with every step of
every filter tried; only a route that is to carry an answer to the sender, and does not tell whether
it is open, breaks it off.
-/

namespace ChatTriage

/-- The message as filters find it, if there are any: one that was received counts as filtered. -/
def Message.entering (m : Message) (filters : List Filter) : Message :=
  if filters ≠ [] ∧ m.status = .received then { m with status := .filtered } else m

/-- A message that enters the dispatch is matched. -/
lemma Message.entering_isMatched {m : Message} {filters : List Filter}
    (unprocessed : m.status ≠ .processed) (some : filters ≠ []) :
    (m.entering filters).IsMatched := by
  cases status : m.status with
  | received => exact .inl (by simp [entering, status, some])
  | processed => exact absurd status unprocessed
  | filtered => exact .inl (by simp [entering, status])
  | archived => exact .inr (by simp [entering, status])

/-- It has the same version. -/
@[simp] lemma Message.entering_version (m : Message) (filters : List Filter) :
    (m.entering filters).version = m.version := by
  unfold entering
  split <;> rfl

namespace Desk

variable {c : Config} {m m' : Message} {filters : List Filter} {log : Log}

/-- A message that was not processed enters its filters without a word to anybody. -/
lemma runs_dispatch_iff (unprocessed : m.status ≠ .processed)
    {r : Except Fault (List FilterOutcome)} :
    Work.Runs (dispatch c filters) m log r m' ↔
      Work.Runs (filters.mapM (runFilter c)) (m.entering filters) log r m' := by
  cases filters with
  | nil => exact .rfl
  | cons f filters =>
    -- of the four statuses only processed has no way to filtered
    have enters : m.advance .filtered =
        .ok (m.status.move .filtered = .go, m.entering (f :: filters)) := by
      cases status : m.status with
      | received =>
          simp [Message.advance, Message.entering, status, Status.move, Status.next, Status.passed]
      | processed => exact absurd status unprocessed
      | filtered => simp [Message.advance, Message.entering, status, Status.move]
      | archived => simp [Message.advance, Message.entering, status, Status.move, Status.passed]
    have steps : dispatch c (f :: filters) =
        advance .filtered >>= fun _ => (f :: filters).mapM (runFilter c) := rfl
    rw [steps, advance, bind_assoc, Work.runs_get_bind_iff, enters]
    exact Work.runs_set_bind_iff

/-- A dispatch ends normally when every filter is carried out. -/
lemma runs_dispatch_ok_iff (unprocessed : m.status ≠ .processed) {outcomes : List FilterOutcome} :
    Work.Runs (dispatch c filters) m log (.ok outcomes) m' ↔
      Served c filters (m.entering filters) log outcomes m' := by
  rw [runs_dispatch_iff unprocessed]
  exact runs_filters_ok_iff (Message.entering_isMatched unprocessed)

/-- Every step of a dispatch is isolated from the others but one. A dispatch always comes to an end;
and whatever the store, when it fails, and the channels answer, it ends with one outcome for each
filter, in their order, and with every step of every filter tried, or it is broken off by a route on
which the sender was to be answered and that does not tell whether it is open. -/
theorem dispatch_isolates (unprocessed : m.status ≠ .processed) (number : m.version.IsNumber) :
    (∀ tell, ∃ log r m', Dialogue.Told tell [] log ∧ Work.Runs (dispatch c filters) m log r m') ∧
    ∀ log r m', OnlyStoreFails log →
      (Work.Runs (dispatch c filters) m log r m' ↔
        (∃ outcomes, r = .ok outcomes ∧ outcomes.map (·.filterName) = filters.map (·.name) ∧
          Served c filters (m.entering filters) log outcomes m') ∨
        ∃ fault, r = .error fault ∧ Abandoned c filters (m.entering filters) log fault m') := by
  have counted : (m.entering filters).version.IsNumber := by
    rw [Message.entering_version]
    exact number
  refine ⟨fun tell => ?_, fun log r m' fails => ?_⟩
  · obtain ⟨log, ⟨r, m'⟩, told, run⟩ :=
      Dialogue.exists_run (StateT.run (ExceptT.run (dispatch c filters)) m) tell []
    exact ⟨log, r, m', told, run⟩
  -- that the store alone fails a save leaves the availability checks as the only way out
  have broken {fault : Fault} :
      Work.Runs (filters.mapM (runFilter c)) (m.entering filters) log (.error fault) m' ↔
        Abandoned c filters (m.entering filters) log fault m' :=
    runs_filters_error_iff (Message.entering_isMatched unprocessed) counted fails
  constructor
  · intro run
    cases r with
    | ok outcomes =>
      have served := (runs_dispatch_ok_iff unprocessed).mp run
      exact .inl ⟨outcomes, rfl, served.names, served⟩
    | error fault => exact .inr ⟨fault, rfl, broken.mp ((runs_dispatch_iff unprocessed).mp run)⟩
  · rintro (⟨outcomes, rfl, -, served⟩ | ⟨fault, rfl, abandoned⟩)
    · exact (runs_dispatch_ok_iff unprocessed).mpr served
    · exact (runs_dispatch_iff unprocessed).mpr (broken.mpr abandoned)

namespace Sample

/-- A desk with one channel. -/
def desk : Config :=
  { routes := [⟨"cloud", true, none⟩], admins := ⟨[]⟩, zone := .utc }

/-- The first of January 2024, at ten o'clock. -/
def morning : DateTime :=
  ⟨⟨63839700000000000, by decide⟩, some .zero⟩

/-- A message that came on it. -/
def order : Message where
  id := "wamid.1"
  sender := { phone := "+393470000001" }
  content := { type := .text, text := .str "hello world" }
  timestamp := some morning
  metadata := { source := .str "cloud" }

/-- A filter that takes every message and gives an answer to its sender. -/
def greeting : Filter where
  id := .int 1
  name := "greeting"
  description := ""
  authors := []
  keywords := []
  keywordMode := .any
  messageTypes := []
  timeRange := none
  actions :=
    { markImportant := true, setPriority := none, addTags := [], autoReply := ⟨true, "Thank you."⟩
      forwardTo := [], archive := false }
  enabled := true
  stats := {}

/-- A filter that takes every message and archives it. -/
def filing : Filter :=
  { greeting with
    id := .int 2, name := "filing"
    actions := { greeting.actions with autoReply := ⟨false, ""⟩, archive := true } }

/-- The message as the first of the filters leaves it. -/
def greeted : Message :=
  { order with status := .filtered, metadata := { order.metadata with important := true } }

end Sample

/-- A channel that breaks down when it is asked whether it is open keeps the second filter from
being carried out. -/
theorem dispatch_breaks_off :
    Sample.order.status ≠ .processed ∧ Sample.order.version.IsNumber ∧
    Work.Runs (dispatch Sample.desk [Sample.greeting, Sample.filing]) Sample.order
      [⟨.saveMessage Sample.greeted, .ok ()⟩, ⟨.available 0, .error (.runtime "no answer")⟩]
      (.error (.runtime "no answer")) { Sample.greeted with version := .count 1 } := by
  have unprocessed : Sample.order.status ≠ .processed := by decide
  have number : Sample.order.version.IsNumber := nofun
  refine ⟨unprocessed, number, ?_⟩
  have unanswered : Unanswered Sample.desk Sample.greeting
      (Sample.order.entering [Sample.greeting, Sample.filing])
      [⟨.saveMessage Sample.greeted, .ok ()⟩, ⟨.available 0, .error (.runtime "no answer")⟩]
      (.runtime "no answer") { Sample.greeted with version := .count 1 } := by
    have saved : noted (Sample.greeted.kept (.ok ())).1 = .ok none := rfl
    exact .mk saved rfl rfl
  refine ((dispatch_isolates unprocessed number).2 _ _ _ ?_).mpr (.inr ⟨_, rfl, .here unanswered⟩)
  rintro n e (_ | ⟨_, _ | ⟨_, ⟨⟩⟩⟩)

end Desk

end ChatTriage
