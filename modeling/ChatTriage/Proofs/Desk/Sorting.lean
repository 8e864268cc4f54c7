import ChatTriage.Proofs.Desk.Phases

/-!
# Messages that have been sorted

An intake that was begun, and is over or waits for a channel, has read the rules and counted the
filters that accept its message, or it did not get so far. `Log.rules?` are the rules that it goes
by, and `Log.anew` tells whether they were read from the store or are those that were kept from
before.
-/

namespace ChatTriage.Desk

/-- The request neither changes filters nor looks at the rules that are kept. -/
def Request.sparesRules : Request → Bool
  | .storeFilter _ | .storeStats _ _ | .keepSnapshot _ | .snapshot => false
  | _ => true

/-- The rules that an exchange puts or finds in force. -/
def rulesIn : Exchange service → Option (List Filter)
  | ⟨.keepSnapshot filters, _⟩ => some filters
  | ⟨.snapshot, filters⟩ => some filters
  | _ => none

/-- The exchange keeps rules that were read anew. -/
def keepsRules : Exchange service → Bool
  | ⟨.keepSnapshot _, _⟩ => true
  | _ => false

/-- The rules that a message is sorted by. -/
def Log.rules? (log : Log) : Option (List Filter) :=
  log.findSome? rulesIn

/-- The rules were read anew. -/
def Log.anew (log : Log) : Bool :=
  log.any keepsRules

/-- Nothing in the log touches the rules or the counts of their matches. -/
def Log.SparesRules (log : Log) : Prop :=
  ∀ x ∈ log, x.request.sparesRules = true

variable {α : Type} {c : Config} {m : Message} {id : String} {log log₁ log₂ : Log}
    {rules : List Filter}

/-- Settling a message spares the rules. -/
lemma sparesRules_of_settles {q : Request} (settles : q.settles id = true) :
    q.sparesRules = true := by
  cases q <;> first | rfl | cases settles

/-- The rules are those that were read first. -/
lemma Log.rules?_append : Log.rules? (log₁ ++ log₂) = log₁.rules?.or log₂.rules? :=
  List.findSome?_append

/-- They are anew if they were read in either part. -/
lemma Log.anew_append : Log.anew (log₁ ++ log₂) = (log₁.anew || log₂.anew) :=
  List.any_append

/-- What spares the rules reads none. -/
lemma Log.SparesRules.rules? (spares : log.SparesRules) : log.rules? = none := by
  refine List.findSome?_eq_none_iff.mpr fun x member => ?_
  have spared := spares x member
  obtain ⟨q, answer⟩ := x
  cases q <;> first | rfl | cases spared

/-- Nor does it read them anew. -/
lemma Log.SparesRules.anew (spares : log.SparesRules) : log.anew = false := by
  refine List.any_eq_false.mpr fun x member => ?_
  have spared := spares x member
  obtain ⟨q, answer⟩ := x
  cases q <;> first | exact Bool.false_ne_true | cases spared

/-- Counting matches has nothing to do with which rules are in force. -/
lemma rules?_of_counting {filters : List Filter} {times : List DateTime}
    (each : Each Counting filters log times) : log.rules? = none ∧ log.anew = false := by
  induction each with
  | nil => exact ⟨rfl, rfl⟩
  | cons counting _ ih =>
    rw [counting, Log.rules?_append, Log.anew_append, ih.1, ih.2]
    exact ⟨rfl, rfl⟩

/-- The rules that come of reading them are those that the log shows. -/
lemma rules?_of_refresh (run : Task.Runs refresh log (.ok rules)) : log.rules? = some rules := by
  obtain ⟨filters, rfl, same⟩ | ⟨e, filters, -, rfl, same⟩ | ⟨e, -, -, impossible⟩ :=
    runs_refresh_iff.mp run
  · cases same
    rfl
  · cases same
    rfl
  · cases impossible

/-- Sorting reads the rules. -/
lemma rules?_of_sorted (read : Task.Runs refresh log₁ (.ok rules)) :
    Log.rules? (⟨.createMessage m, .ok ()⟩ :: (log₁ ++ log₂)) = some rules := by
  show Log.rules? (log₁ ++ log₂) = some rules
  rw [Log.rules?_append, rules?_of_refresh read, Option.some_or]

/-- Settling a message has nothing to do with the rules. -/
lemma sparesRules_of_finish {filters : List Filter}
    {left : Dialogue service (Except Fault Report × Message)}
    (own : m.id = id) (reaches : Dialogue.Reaches (((finish c id filters).run).run m) log left) :
    log.SparesRules := by
  obtain ⟨settles, -⟩ := Dialogue.Within.reaches (finish_within m own) reaches
  exact fun x member => sparesRules_of_settles (settles x member)

/-- They are anew when they were refreshed. -/
lemma anew_of_sorted {log₃ : Log} {filters : List Filter} {times : List DateTime}
    (each : Each Counting filters log₂ times) (spares : log₃.SparesRules) :
    Log.anew (⟨.createMessage m, .ok ()⟩ :: (log₁ ++ (log₂ ++ log₃))) = log₁.anew := by
  show Log.anew (log₁ ++ (log₂ ++ log₃)) = log₁.anew
  rw [Log.anew_append, Log.anew_append, (rules?_of_counting each).2, spares.anew, Bool.or_false,
    Bool.or_false]

/-- A task is behind work that is over or waits for something that the task does not ask for. -/
lemma reaches_toWork_bind {P P' : Request → Prop} {t : Task α} {f : α → Work Report}
    {left : Dialogue service (Except Fault Report × Message)} (within : Task.Within P t)
    (reaches : Dialogue.Reaches (((Task.toWork t >>= f).run).run m) log left)
    (pauses : left.Pauses (S := service) P') (apart : ∀ q, P q → ¬ P' q) :
    (∃ e, Task.Runs t log (.error e) ∧ left = .done (.error e, m)) ∨
    ∃ a log₁ log₂, log = log₁ ++ log₂ ∧ Task.Runs t log₁ (.ok a) ∧
      Dialogue.Reaches (((f a).run).run m) log₂ left := by
  obtain ⟨⟨r, n⟩, log₁, log₂, rfl, run, rest⟩ :=
    Dialogue.Within.reaches_bind ((Work.Within.toWork within) m rfl) reaches pauses apart
  obtain ⟨ran, rfl⟩ := Work.runs_toWork_iff.mp run
  cases r with
  | error e =>
    obtain ⟨rfl, rfl⟩ := Dialogue.reaches_of_done_iff.mp rest
    rw [List.append_nil]
    exact .inl ⟨e, ran, rfl⟩
  | ok a => exact .inr ⟨a, log₁, log₂, rfl, ran, rest⟩

/-- How far an intake has come that is over or waits for a channel. It is over without having sorted
its message, or it has sorted it and is settling it. -/
inductive Progress (c : Config) (m : Message) :
    Log → Dialogue service (Except Fault Report × Message) → Prop where
  | unsorted {log r left} :
    Log.SparesRules log →
    (∀ report, r = .ok report → report.accepted = false) →
    Progress c m log (.done (r, left))
  | sorted {rules log₁ log₂ log₃ rest} :
    Task.Runs refresh log₁ (.ok rules) →
    Task.Runs (matchAll c.zone { m with version := .count 0 } rules) log₂
      (.ok (rules.filter (takes c.zone m))) →
    Dialogue.Reaches
      (((finish c m.id (rules.filter (takes c.zone m))).run).run { m with version := .count 0 })
      log₃ rest →
    Progress c m (⟨.createMessage m, .ok ()⟩ :: (log₁ ++ (log₂ ++ log₃))) rest

/-- A message whose row is there is sorted, or its rules could not be read. -/
lemma reaches_sort {left : Dialogue service (Except Fault Report × Message)}
    (reaches : Dialogue.Reaches (((sort c id).run).run m) log left)
    (waits : left.Pauses (S := service) (·.isOutward)) (counted : log.Counted) :
    (∃ e f, log = [⟨.enabledFilters, .error e⟩] ∧ left = .done (.error f, m)) ∨
    ∃ rules log₁ log₂ log₃, log = log₁ ++ (log₂ ++ log₃) ∧ Task.Runs refresh log₁ (.ok rules) ∧
      Task.Runs (matchAll c.zone m rules) log₂ (.ok (rules.filter (takes c.zone m))) ∧
      Dialogue.Reaches (((finish c id (rules.filter (takes c.zone m))).run).run m) log₃ left := by
  have inward {q : Request} (sorting : q.isSorting = true) : ¬ q.isOutward = true := by
    cases q <;> first | exact Bool.false_ne_true | cases sorting
  -- neither reading the rules nor counting matches uses a channel, so both are behind it
  obtain ⟨e, failed, rfl⟩ | ⟨rules, log₁, log₄, rfl, read, later⟩ :=
    reaches_toWork_bind refresh_within reaches waits fun q reading =>
      inward (Request.isSorting_of_isReading reading)
  · obtain ⟨_, -, impossible⟩ | ⟨_, _, -, -, impossible⟩ | ⟨e, -, rfl, -⟩ :=
      runs_refresh_iff.mp failed
    · cases impossible
    · cases impossible
    · exact .inl ⟨e, _, rfl, rfl⟩
  · obtain ⟨-, counted⟩ := List.forall_mem_append.mp counted
    rw [Work.run_get_bind] at later
    obtain ⟨e, failed, -⟩ | ⟨matched, log₂, log₃, rfl, accepted, last⟩ :=
      reaches_toWork_bind matchAll_within later waits fun q => inward
    · cases runs_matchAll failed (Log.Counted.onlyStore counted)
    · cases runs_matchAll accepted (Log.Counted.onlyStore (List.forall_mem_append.mp counted).1)
      exact .inr ⟨rules, log₁, log₂, log₃, rfl, read, accepted, last⟩

/-- An intake that is over or waits for a channel, its matches having been counted. -/
lemma reaches_process_waiting {left : Dialogue service (Except Fault Report × Message)}
    (reaches : Dialogue.Reaches (((process c).run).run m) log left)
    (waits : left.Pauses (S := service) (·.isOutward)) (counted : log.Counted) :
    Progress c m log left := by
  rw [process_eq, Work.run_get_bind] at reaches
  cases refused : m.draft.refusal? with
  | some report =>
    rw [refused] at reaches
    obtain ⟨rfl, rfl⟩ := Dialogue.reaches_of_done_iff.mp reaches
    refine .unsorted (fun x member => absurd member List.not_mem_nil) fun report same => ?_
    cases same
    unfold Draft.refusal? at refused
    split at refused
    · cases refused
    · cases refused
      rfl
  | none =>
    simp only [refused] at reaches
    rw [run_createRow_bind] at reaches
    obtain ⟨-, rfl⟩ | ⟨created, rest, rfl, later⟩ := Dialogue.reaches_of_ask_iff.mp reaches
    · exact absurd (waits _ _ rfl) Bool.false_ne_true
    obtain ⟨-, counted₁⟩ := List.forall_mem_cons.mp counted
    obtain e | ⟨⟨⟩⟩ := created
    · obtain ⟨rfl, rfl⟩ := Dialogue.reaches_of_done_iff.mp later
      exact .unsorted (List.forall_mem_singleton.mpr rfl) fun report same => turnedAway_refused same
    · obtain ⟨e, f, rfl, rfl⟩ | ⟨rules, log₁, log₂, log₃, rfl, read, accepted, last⟩ :=
        reaches_sort later waits counted₁
      · exact .unsorted (List.forall_mem_cons.mpr ⟨rfl, List.forall_mem_singleton.mpr rfl⟩) nofun
      · exact .sorted read accepted last

end ChatTriage.Desk
