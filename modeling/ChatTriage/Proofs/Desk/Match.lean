import ChatTriage.Desk.Rules
import ChatTriage.Proofs.Desk.Run

/-!
# Runs of the matching

Which filters are found to accept a message, and what is asked to count them. `runs_matchAll_iff`
says that the filters that accept it by themselves are counted one after the other, each with a
tally of its own, and that those are found whose tally did not end in a fault that is not the
store's; a filter that fails to be asked is passed over.
-/

namespace ChatTriage.Desk

variable {zone : Zone} {m : Message} {f : Filter} {filters : List Filter} {log : Log}

/-- Every match was counted. -/
def Log.Counted (log : Log) : Prop :=
  ∀ x ∈ log, ∀ id stats e, x ≠ ⟨.storeStats id stats, .error e⟩

/-- The store behind the desk reports what goes wrong with a count as a failure of its own. -/
def OnlyStoreMiscounts (log : Log) : Prop :=
  ∀ id stats e, (⟨.storeStats id stats, .error e⟩ : Exchange service) ∈ log → e.isStore = true

/-- If every match is counted, no store miscounts otherwise. -/
lemma Log.Counted.onlyStore (counted : log.Counted) : OnlyStoreMiscounts log :=
  fun id stats e member => absurd rfl (counted _ member id stats e)

/-- What holds of a log holds of both its parts. -/
lemma OnlyStoreMiscounts.of_append {log₁ log₂ : Log}
    (miscounts : OnlyStoreMiscounts (log₁ ++ log₂)) :
    OnlyStoreMiscounts log₁ ∧ OnlyStoreMiscounts log₂ :=
  ⟨fun id stats e member => miscounts id stats e (List.mem_append_left _ member),
    fun id stats e member => miscounts id stats e (List.mem_append_right _ member)⟩

/-- A filter accepts a message, on the clock of a zone. -/
def takes (zone : Zone) (m : Message) (f : Filter) : Bool :=
  (f.accepts m zone).toOption = some true

/-- Whether a filter accepts a message does not depend on how often it was saved. -/
lemma takes_version (version : Version) : takes zone { m with version } = takes zone m := rfl

/-- The rules are read anew; while the store cannot be read the last snapshot stays in force, and
any other fault is thrown. -/
lemma runs_refresh_iff {r : Except Fault (List Filter)} :
    Task.Runs refresh log r ↔
      (∃ filters,
        log = [⟨.enabledFilters, .ok filters⟩, ⟨.keepSnapshot (filters.filter (·.enabled)), ()⟩] ∧
        r = .ok (filters.filter (·.enabled))) ∨
      (∃ e filters, e.isStore = true ∧ log = [⟨.enabledFilters, .error e⟩, ⟨.snapshot, filters⟩] ∧
        r = .ok filters) ∨
      ∃ e, e.isStore = false ∧ log = [⟨.enabledFilters, .error e⟩] ∧ r = .error e := by
  constructor
  · intro run
    obtain ⟨answer, rest, rfl, told⟩ := Task.runs_ask_bind_iff.mp run
    cases answer with
    | ok filters =>
      obtain ⟨⟨⟩, last, rfl, kept⟩ := Task.runs_ask_bind_iff.mp told
      obtain ⟨rfl, rfl⟩ := Task.runs_pure_iff.mp kept
      exact .inl ⟨filters, rfl, rfl⟩
    | error e =>
      cases store : e.isStore with
      | true =>
        simp only [store] at told
        obtain ⟨filters, last, rfl, ended⟩ := Dialogue.runs_ask_iff.mp told
        obtain ⟨rfl, rfl⟩ := Dialogue.runs_done_iff.mp ended
        exact .inr (.inl ⟨e, filters, store, rfl, rfl⟩)
      | false =>
        simp only [store] at told
        obtain ⟨rfl, rfl⟩ := Task.runs_throw_iff.mp told
        exact .inr (.inr ⟨e, store, rfl, rfl⟩)
  · rintro (⟨filters, rfl, rfl⟩ | ⟨e, filters, store, rfl, rfl⟩ | ⟨e, sound, rfl, rfl⟩)
    · exact .ask (.ask .done)
    · refine Task.runs_ask_bind_iff.mpr ⟨.error e, _, rfl, ?_⟩
      simp only [store]
      exact .ask .done
    · refine Task.runs_ask_bind_iff.mpr ⟨.error e, _, rfl, ?_⟩
      simp only [sound]
      exact .done

/-- Logs without writes may follow each other. -/
lemma Log.Unwritten.append {log₁ log₂ : Log} (first : log₁.Unwritten) (second : log₂.Unwritten) :
    Log.Unwritten (log₁ ++ log₂) :=
  List.forall_mem_append.mpr ⟨first, second⟩

/-- When a match was counted and what the store said to it; nothing, for a filter without an id. -/
abbrev Tally : Type := Option (DateTime × Except Fault Unit)

/-- What is asked to count a match of a filter. -/
inductive Tallied (f : Filter) : Log → Tally → Prop where
  | unknown :
    f.id = .null →
    Tallied f [] none
  | tried {now} (answer : Except Fault Unit) :
    f.id ≠ .null →
    Tallied f [⟨.now, now⟩, ⟨.storeStats f.id ⟨f.stats.matched + 1, some now⟩, answer⟩]
      (some (now, answer))

/-- How the count of a match ends. -/
def Tally.report (f : Filter) : Tally → Except Fault SideEffect
  | none => .ok ⟨.stats, f.name, some "filter has no id"⟩
  | some (_, .ok ()) => .ok ⟨.stats, f.name, none⟩
  | some (_, .error e) => if e.isStore then .ok ⟨.stats, f.name, some e.text⟩ else .error e

/-- The filters whose counts end without a fault. -/
def selected (accepting : List Filter) (tallies : List Tally) : List Filter :=
  ((accepting.zip tallies).filter fun x => (x.2.report x.1).isOk).map (·.1)

/-- A filter with an id is counted at the present time. -/
lemma runs_recordMatch_known_iff {r : Except Fault SideEffect} (known : f.id ≠ .null) :
    Task.Runs (recordMatch f) log r ↔
      ∃ now answer,
        log = [⟨.now, now⟩, ⟨.storeStats f.id ⟨f.stats.matched + 1, some now⟩, answer⟩] ∧
        r = Tally.report f (some (now, answer)) := by
  unfold recordMatch
  rw [if_neg known, Task.runs_ask_bind_iff]
  refine exists_congr fun now => ?_
  have stored {rest : Log} :
      Task.Runs (ask (.storeStats f.id ⟨f.stats.matched + 1, some now⟩) >>= fun answer =>
        match answer with
        | .ok () => return ⟨.stats, f.name, none⟩
        | .error e => if e.isStore then return ⟨.stats, f.name, some e.text⟩ else throw e) rest r ↔
      ∃ answer, rest = [⟨.storeStats f.id ⟨f.stats.matched + 1, some now⟩, answer⟩] ∧
        r = Tally.report f (some (now, answer)) := by
    rw [Task.runs_ask_bind_iff]
    refine exists_congr fun answer => log_ends_iff fun last => ?_
    cases answer with
    | ok u => exact Task.runs_pure_iff
    | error e =>
      cases store : e.isStore with
      | true =>
        simp only [Tally.report, store, if_true]
        exact Task.runs_pure_iff
      | false =>
        simp only [Tally.report, store, Bool.false_eq_true, if_false]
        exact Task.runs_throw_iff
  constructor
  · rintro ⟨rest, rfl, run⟩
    obtain ⟨answer, rfl, rfl⟩ := stored.mp run
    exact ⟨answer, rfl, rfl⟩
  · rintro ⟨answer, rfl, rfl⟩
    exact ⟨_, rfl, stored.mpr ⟨answer, rfl, rfl⟩⟩

/-- A match is recorded in one of the ways of `Tallied`. -/
lemma runs_recordMatch_iff {r : Except Fault SideEffect} :
    Task.Runs (recordMatch f) log r ↔ ∃ tally, Tallied f log tally ∧ r = tally.report f := by
  by_cases unknown : f.id = .null
  · unfold recordMatch
    rw [if_pos unknown, Task.runs_pure_iff]
    constructor
    · rintro ⟨rfl, rfl⟩
      exact ⟨none, .unknown unknown, rfl⟩
    · rintro ⟨tally, tallied, rfl⟩
      cases tallied with
      | unknown => exact ⟨rfl, rfl⟩
      | tried _ known => exact absurd unknown known
  · rw [runs_recordMatch_known_iff unknown]
    constructor
    · rintro ⟨now, answer, rfl, rfl⟩
      exact ⟨_, .tried answer unknown, rfl⟩
    · rintro ⟨tally, tallied, rfl⟩
      cases tallied with
      | unknown is => exact absurd is unknown
      | tried answer => exact ⟨_, answer, rfl, rfl⟩

/-- A filter that accepts the message is counted; otherwise nothing is asked. -/
lemma runs_selects_iff {r : Except Fault Bool} :
    Task.Runs (selects zone m f) log r ↔
      (takes zone m f = true ∧ ∃ tally, Tallied f log tally ∧
        r = (tally.report f).map fun _ => true) ∨
      (takes zone m f = false ∧ log = [] ∧ r = f.accepts m zone) := by
  have counts : Task.Runs (recordMatch f >>= fun _ => pure true) log r ↔
      ∃ tally, Tallied f log tally ∧ r = (tally.report f).map fun _ => true := by
    rw [Task.runs_bind_pure_iff]
    constructor
    · rintro ⟨report, run, rfl⟩
      obtain ⟨tally, tallied, rfl⟩ := runs_recordMatch_iff.mp run
      exact ⟨tally, tallied, rfl⟩
    · rintro ⟨tally, tallied, rfl⟩
      exact ⟨_, runs_recordMatch_iff.mpr ⟨tally, tallied, rfl⟩, rfl⟩
  have steps : selects zone m f = (do
      if ← ExceptT.mk (pure (f.accepts m zone)) then
        let _ ← recordMatch f
        return true
      else return false) := rfl
  rw [steps, takes]
  obtain e | _ | _ := f.accepts m zone
  · rw [Task.runs_error_bind_iff]
    simp [Except.toOption]
  · rw [Task.runs_ok_bind_iff, if_neg Bool.false_ne_true, Task.runs_pure_iff]
    simp [Except.toOption]
  · rw [Task.runs_ok_bind_iff, if_pos rfl, counts]
    simp [Except.toOption]

/-- A filter is selected when its match is recorded. -/
lemma selected_cons {accepting : List Filter} {tally : Tally} {tallies : List Tally} :
    selected (f :: accepting) (tally :: tallies) =
      if (tally.report f).isOk then f :: selected accepting tallies
        else selected accepting tallies := by
  unfold selected
  rw [List.zip_cons_cons, List.filter_cons]
  split <;> rfl

/-- Those that are selected are among those that accept. -/
lemma selected_sublist {accepting : List Filter} {tallies : List Tally} :
    (selected accepting tallies).Sublist accepting := by
  induction accepting generalizing tallies with
  | nil => exact .slnil
  | cons f accepting ih =>
    cases tallies with
    | nil => exact List.nil_sublist _
    | cons tally tallies =>
      rw [selected_cons]
      split
      · exact ih.cons_cons f
      · exact ih.cons f

/-- The filters that accept the message are counted in their order, and found unless the count ends
in a fault. -/
lemma runs_matchAll_iff {r : Except Fault (List Filter)} :
    Task.Runs (matchAll zone m filters) log r ↔
      ∃ tallies, Each Tallied (filters.filter (takes zone m)) log tallies ∧
        r = .ok (selected (filters.filter (takes zone m)) tallies) := by
  induction filters generalizing log r with
  | nil =>
    rw [matchAll, Task.runs_pure_iff]
    constructor
    · rintro ⟨rfl, rfl⟩
      exact ⟨[], .nil, rfl⟩
    · rintro ⟨tallies, each, rfl⟩
      cases each
      exact ⟨rfl, rfl⟩
  | cons f filters ih =>
    have later {found : Prop} [Decidable found] {log : Log} {r : Except Fault (List Filter)} :
        Task.Runs (do
          let others ← matchAll zone m filters
          return if found then f :: others else others) log r ↔
        ∃ tallies, Each Tallied (filters.filter (takes zone m)) log tallies ∧
          r = .ok (if found then f :: selected (filters.filter (takes zone m)) tallies
            else selected (filters.filter (takes zone m)) tallies) := by
      rw [Task.runs_bind_pure_iff]
      constructor
      · rintro ⟨others, run, rfl⟩
        obtain ⟨tallies, each, rfl⟩ := ih.mp run
        exact ⟨tallies, each, rfl⟩
      · rintro ⟨tallies, each, rfl⟩
        exact ⟨_, ih.mpr ⟨tallies, each, rfl⟩, rfl⟩
    have counted (tally : Tally) :
        ((tally.report f).map fun _ => true).toOption = some true ↔
          (tally.report f).isOk = true := by
      cases tally.report f with
      | ok effect => exact ⟨fun _ => rfl, fun _ => rfl⟩
      | error e => exact ⟨nofun, nofun⟩
    rw [matchAll, Task.runs_attempt_bind_iff]
    cases accepts : takes zone m f with
    | true =>
      rw [List.filter_cons_of_pos accepts]
      constructor
      · rintro ⟨r₁, log₁, log₂, rfl, first, rest⟩
        obtain ⟨-, tally, tallied, rfl⟩ | ⟨impossible, -⟩ := runs_selects_iff.mp first
        · obtain ⟨tallies, each, rfl⟩ := later.mp rest
          refine ⟨tally :: tallies, .cons tallied each, ?_⟩
          rw [selected_cons, if_congr (counted tally) rfl rfl]
        · rw [accepts] at impossible
          cases impossible
      · rintro ⟨_, _ | @⟨_, _, log₁, log₂, tally, tallies, tallied, each⟩, rfl⟩
        have first := runs_selects_iff.mpr (.inl ⟨accepts, tally, tallied, rfl⟩)
        refine ⟨_, log₁, log₂, rfl, first, later.mpr ⟨tallies, each, ?_⟩⟩
        rw [selected_cons, if_congr (counted tally) rfl rfl]
    | false =>
      rw [List.filter_cons_of_neg (by simp [accepts])]
      have passed : ¬ (f.accepts m zone).toOption = some true := of_decide_eq_false accepts
      constructor
      · rintro ⟨r₁, log₁, log₂, rfl, first, rest⟩
        obtain ⟨impossible, -⟩ | ⟨-, rfl, rfl⟩ := runs_selects_iff.mp first
        · rw [accepts] at impossible
          cases impossible
        · obtain ⟨tallies, each, rfl⟩ := later.mp rest
          exact ⟨tallies, each, by rw [if_neg passed]⟩
      · rintro ⟨tallies, each, rfl⟩
        have first := runs_selects_iff.mpr (.inr ⟨accepts, rfl, rfl⟩)
        exact ⟨_, [], log, rfl, first, later.mpr ⟨tallies, each, by rw [if_neg passed]⟩⟩

/-- A count that goes wrong in the store is over like one that goes well. -/
lemma selected_eq {accepting : List Filter} {tallies : List Tally}
    (each : Each Tallied accepting log tallies)
    (miscounts : OnlyStoreMiscounts log) : selected accepting tallies = accepting := by
  induction each with
  | nil => rfl
  | @cons f accepting log₁ log₂ tally tallies tallied _ ih =>
    obtain ⟨own, others⟩ := miscounts.of_append
    have ended : (tally.report f).isOk = true := by
      cases tallied with
      | unknown => rfl
      | tried answer =>
        cases answer with
        | ok u => rfl
        | error e =>
          have store : e.isStore = true := own _ _ e (.tail _ (.head _))
          simp only [Tally.report, store, if_true]
          rfl
    rw [selected_cons, if_pos ended, ih others]

/-- The filters that are found are those that accept the message, in their order. -/
lemma runs_matchAll {r : Except Fault (List Filter)}
    (run : Task.Runs (matchAll zone m filters) log r)
    (miscounts : OnlyStoreMiscounts log) : r = .ok (filters.filter (takes zone m)) := by
  obtain ⟨tallies, each, rfl⟩ := runs_matchAll_iff.mp run
  rw [selected_eq each miscounts]

/-- The matching finds some of the filters that accept the message, whatever goes wrong. -/
lemma runs_matchAll_found {r : Except Fault (List Filter)}
    (run : Task.Runs (matchAll zone m filters) log r) :
    ∃ matched, r = .ok matched ∧ matched.Sublist (filters.filter (takes zone m)) := by
  obtain ⟨tallies, -, rfl⟩ := runs_matchAll_iff.mp run
  exact ⟨_, rfl, selected_sublist⟩

/-- What is asked to count a match of a filter, when it can be counted. -/
def Counting (f : Filter) (log : Log) (now : DateTime) : Prop :=
  log = [⟨.now, now⟩, ⟨.storeStats f.id ⟨f.stats.matched + 1, some now⟩, .ok ()⟩]

/-- The matching counts the filters that accept the message, and asks for nothing else. -/
lemma runs_matchAll_log {r : Except Fault (List Filter)} (known : ∀ f ∈ filters, f.id ≠ .null)
    (run : Task.Runs (matchAll zone m filters) log r) (counted : log.Counted) :
    ∃ times, Each Counting (filters.filter (takes zone m)) log times := by
  obtain ⟨tallies, each, -⟩ := runs_matchAll_iff.mp run
  replace known : ∀ f ∈ filters.filter (takes zone m), f.id ≠ .null :=
    fun f member => known f (List.mem_filter.mp member).1
  generalize filters.filter (takes zone m) = accepting at each known
  clear run
  induction each with
  | nil => exact ⟨[], .nil⟩
  | cons tallied _ ih =>
    obtain ⟨counted₁, counted₂⟩ := List.forall_mem_append.mp counted
    obtain ⟨first, others⟩ := List.forall_mem_cons.mp known
    obtain ⟨times, rest⟩ := ih counted₂ others
    cases tallied with
    | unknown unknown => exact absurd unknown first
    | @tried now answer =>
      cases answer with
      | ok u => exact ⟨now :: times, .cons rfl rest⟩
      | error e => exact absurd rfl (counted₁ _ (.tail _ (.head _)) _ _ e)

end ChatTriage.Desk
