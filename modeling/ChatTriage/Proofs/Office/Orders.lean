import ChatTriage.Proofs.Desk.Orders
import ChatTriage.Proofs.Office.Outcome
import ChatTriage.Proofs.Store.Undated

/-!
# What a command leaves behind

A command that stores nothing leaves every filter as it is. One that stores an edited filter
succeeds, unless its confirmation does not get to the channel: then the operator is told that it
failed.
-/

namespace ChatTriage.Office

variable {c : Desk.Config} {o o' : Office} {m : Message} {log : Desk.Log} {world : World}

/-- The table of filters, if there is one, was written by the desk, and operations of the stores
fail with faults of the stores. -/
structure Tidy (o : Office) : Prop where
  kept : ∀ t, o.filters = some t → t.Kept
  outages : ∀ x ∈ o.outages, x.2.isStore = true

/-- What fails in a tidy office is a store, or fails by itself. -/
lemma Tidy.unlessOut {α : Type} {operation : Operation} {result : Except Fault α} {e : Fault}
    (tidy : o.Tidy) (failed : o.unlessOut operation result = .error e) :
    e.isStore = true ∨ result = .error e := by
  unfold Office.unlessOut at failed
  cases out : o.outages.lookup operation with
  | none =>
    rw [out] at failed
    exact .inr failed
  | some f =>
    rw [out] at failed
    cases failed
    obtain ⟨before, after, split, -⟩ := List.lookup_eq_some_iff.mp out
    exact .inl (tidy.outages (operation, e) (split ▸ List.mem_append_right _ List.mem_cons_self))

/-- What edits nothing leaves an office tidy. -/
lemma Tidy.of_unedited (tidy : o.Tidy) (quiet : log.Unedited) (serves : Serves o log world o') :
    o'.Tidy ∧ o'.filters = o.filters := by
  induction serves with
  | nil => exact ⟨tidy, rfl⟩
  | cons answered _ ih =>
    obtain ⟨first, rest⟩ := List.forall_mem_cons.mp quiet
    have framed := framed_of_answer answered
    have same := framed.filters first
    obtain ⟨after, filters⟩ := ih ⟨same ▸ tidy.kept, framed.outages ▸ tidy.outages⟩ rest
    exact ⟨after, filters.trans same⟩

/-- The rules can be read, or the store says why not. -/
lemma Tidy.readable (tidy : o.Tidy) (quiet : log.Unedited) (serves : Serves o log world o') :
    log.Readable := by
  intro e member
  obtain ⟨before, after, rfl⟩ := List.append_of_mem member
  obtain ⟨o₁, w₁, w₂, rfl, first, rest⟩ := serves_append_iff.mp serves
  obtain ⟨tidy, -⟩ := tidy.of_unedited (List.forall_mem_append.mp quiet).1 first
  obtain ⟨o₂, w₃, w₄, rfl, answered, -⟩ := serves_cons_iff.mp rest
  obtain ⟨-, same, -⟩ := Act.runs_pure_iff.mp answered
  obtain store | failed := tidy.unlessOut same.symm
  · exact store
  · cases table : o₁.filters with
    | none =>
      rw [table] at failed
      cases failed
      rfl
    | some t =>
      have sound : ∀ r ∈ t.enabledRows, r.Sound := fun r enabled =>
        (tidy.kept t table).sound r (List.mem_filter.mp enabled).1
      obtain ⟨filters, loaded⟩ := Store.loadAll_of_sound sound
      have query : Store.enabledFilters (some t) = Store.loadAll t.enabledRows := rfl
      rw [table, query, loaded] at failed
      cases failed

/-- Saving a filter in a tidy office, unless it is out of order. -/
lemma Tidy.saveFilter {t : Store.FilterTable} {r : Store.FilterRow} {f g : Filter}
    {answer : Except Fault Filter} (tidy : o.Tidy) (table : o.filters = some t)
    (member : r ∈ t.rows)
    (loaded : r.load = .ok g) (regular : f.Regular) (own : f.id = .int r.id)
    (saved : o.saveFilter f = (answer, o')) :
    o'.Tidy ∧ ∀ e, answer = .error e → o'.filters = o.filters := by
  unfold Office.saveFilter at saved
  split at saved
  · cases saved
    exact ⟨tidy, fun _ _ => rfl⟩
  · have kept := tidy.kept t table
    rw [table] at saved
    cases stored : Store.saveFilter (some t) f with
    | mk filters result =>
      rw [stored] at saved
      cases saved
      obtain ⟨e, rfl, rfl⟩ | ⟨h, rfl⟩ := kept.saveFilter_edited member loaded regular own stored
      · exact ⟨⟨fun t' same => tidy.kept t' (table.trans same), tidy.outages⟩,
          fun _ _ => table.symm⟩
      · refine ⟨⟨fun t' same => ?_, tidy.outages⟩, fun _ impossible => by cases impossible⟩
        cases same
        exact kept.saveFilter regular stored

/-- An edited filter that is handed to the store is taken, or the filters stay as they are. -/
lemma Tidy.of_editing {name : String} {f : Filter} {u : Command.Update}
    {answer : Except Fault Filter}
    (tidy : o.Tidy) (serves : Serves o (Desk.editing name f u answer) world o') :
    o'.Tidy ∧ ∀ e, answer = .error e → o'.filters = o.filters := by
  obtain ⟨o₁, w₁, w₂, rfl, named, rest⟩ := serves_cons_iff.mp serves
  obtain ⟨-, found, rfl⟩ := Act.runs_pure_iff.mp named
  obtain ⟨-, saved⟩ := Act.runs_change_iff.mp (serves_one_iff.mp rest)
  have named : Store.filterNamed o₁.filters name = .ok (some f) := by
    unfold Office.filterNamed Office.unlessOut at found
    split at found
    · cases found
    · exact found.symm
  cases table : o₁.filters with
  | none =>
    rw [table] at named
    cases named
  | some t =>
    rw [table] at named
    obtain ⟨r, member, loaded⟩ := Store.mem_of_filterNamed named
    obtain ⟨regular, own, -⟩ := ((tidy.kept t table).sound r member).loaded loaded
    have same : (u.apply f).id = f.id := by cases u <;> rfl
    rw [← table]
    exact tidy.saveFilter table member loaded (regular.apply u) (same.trans own) saved.symm

/-- A command reported as failed changed nothing, but for its confirmation. Whatever the channels
do, a command that is carried out over filters that the desk has written ends with a result. Every
filter is as before unless the store took an edited one, and then the result is a success just when
the confirmation does not fail: it fails when the message gives a source that cannot name a route,
or when the route does not tell whether it is open. -/
theorem command_succeeds_iff_confirmed (reached : ∀ t, o.filters = some t → t.Reached)
    (outages : ∀ x ∈ o.outages, x.2.isStore = true) :
    (∀ tell, ∃ world r o', Dialogue.Told tell [] world ∧
      Act.Runs (carryOut (Desk.handleCommand c m)) o world r o') ∧
    ∀ log world r o', Desk.Task.Runs (Desk.handleCommand c m) log r → Serves o log world o' →
      ∃ result, r = .ok result ∧ (¬ log.Stored → o'.filters = o.filters) ∧
        (log.Stored → (result.success = true ↔ ¬ Desk.Unconfirmed c m log)) := by
  have tidy : o.Tidy := ⟨fun t table => (reached t table).kept, outages⟩
  refine ⟨fun tell => ?_, fun log world r o' run serves => ?_⟩
  · obtain ⟨world, ⟨r, o'⟩, told, run⟩ :=
      Dialogue.exists_run (StateT.run (carryOut (Desk.handleCommand c m)) o) tell []
    exact ⟨world, r, o', told, run⟩
  obtain ⟨result, rfl, ordered⟩ := Desk.runs_handleCommand run
  refine ⟨result, rfl, ?_⟩
  obtain quiet | ⟨name, f, u, answer, rest, rfl, quiet, succeeds⟩ := ordered
  · refine ⟨fun _ => (tidy.of_unedited quiet serves).2, ?_⟩
    rintro ⟨f, g, member⟩
    cases quiet _ member
  obtain ⟨o₁, w₁, w₂, rfl, edits, later⟩ := serves_append_iff.mp serves
  obtain ⟨tidy, unchanged⟩ := tidy.of_editing edits
  obtain ⟨-, same⟩ := tidy.of_unedited quiet later
  cases answer with
  | error e =>
    refine ⟨fun _ => same.trans (unchanged e rfl), ?_⟩
    rintro ⟨g, h, member⟩
    obtain edit | after := List.mem_append.mp member
    · obtain _ | ⟨_, _ | ⟨_, ⟨⟩⟩⟩ := edit
    · cases quiet _ after
  | ok g =>
    refine ⟨fun unstored => absurd ⟨_, g, .tail _ (.head _)⟩ unstored, fun _ => ?_⟩
    have inward : ∀ x ∈ Desk.editing name f u (.ok g), x.request.isOutward = false :=
      List.forall_mem_cons.mpr ⟨rfl, List.forall_mem_singleton.mpr rfl⟩
    rw [succeeds g rfl (tidy.readable quiet later), Desk.unconfirmed_append inward]

namespace Sample

open Desk.Sample

/-- A filter as an operator defines it. -/
def work : Filter :=
  { greeting with
    id := .null, name := "Work"
    actions := ⟨false, none, [], ⟨false, ""⟩, [], false⟩ }

/-- The table with that filter. -/
def defined : Store.FilterTable where
  rows := [⟨1, "Work", .int 1, .int 0, .null, .written (.obj work.definition)⟩]
  lastId := 1

/-- A desk whose operator writes on its channel. -/
def staffed : Desk.Config :=
  { desk with admins := ⟨["393470000001"]⟩ }

/-- The operator's command. -/
def switch : Message :=
  { order with content := { type := .text, text := .str "update filter Work active false" } }

/-- The table is reached. -/
lemma reached_defined : defined.Reached := by
  have read : Filter.ofJson (.obj [("name", .str "Work")]) = .ok work := by decide +kernel
  have saved : Store.saveFilter (some {}) work =
      (some defined, .ok { work with id := .int 1 }) := by
    decide +kernel
  exact .saved .empty (.read read) saved

/-- Its row can be read. -/
lemma loads_defined : defined.Loads := by
  refine List.forall_mem_singleton.mpr ⟨{ work with id := .int 1 }, ?_⟩
  decide +kernel

/-- The filter when it is switched off. -/
def off : Filter :=
  { work with id := .int 1, enabled := false }

/-- What is asked while the command is carried out. -/
def ordered : Desk.Log := [
  ⟨.filterNamed "Work", .ok (some { work with id := .int 1 })⟩,
  ⟨.storeFilter off, .ok off⟩,
  ⟨.enabledFilters, .ok []⟩,
  ⟨.keepSnapshot [], ()⟩,
  ⟨.available 0, .error (.runtime "no answer")⟩]

/-- The command ends in an error. -/
lemma runs_ordered :
    Desk.Task.Runs (Desk.handleCommand staffed switch) ordered
      (.ok (.refused Desk.internalError)) :=
  .ask (.ask (.ask (.ask (.ask .done))))

/-- An office with the table, and with a channel that is decided outside. -/
def manned : Office :=
  { filters := some defined, lines := [.stage "cloud"] }

/-- An office serves the storing of a filter. -/
lemma serves_stored {o o' : Office} {f g : Filter} {log : Desk.Log} {world : World}
    (stored : (o.saveFilter f).1 = .ok g) (rest : Serves (o.saveFilter f).2 log world o') :
    Serves o (⟨.storeFilter f, .ok g⟩ :: log) world o' :=
  .cons (q := .storeFilter f) (Act.runs_change_iff.mpr ⟨rfl, Prod.ext stored.symm rfl⟩) rest

/-- The office serves the command. -/
lemma serves_ordered : ∃ world o', Serves manned ordered world o' := by
  apply Exists.intro
  apply Exists.intro
  apply serves_found (by decide +kernel)
  apply serves_stored (by decide +kernel)
  apply serves_enabled (by decide +kernel)
  apply Serves.cons (q := .keepSnapshot _) .done
  exact serves_one_iff.mpr (.ask .done)

end Sample

open Sample in
/-- A filter is switched off, and because the channel breaks down the operator is told that the
command failed. -/
theorem command_fails_unconfirmed :
    (∀ t, manned.filters = some t → t.Reached) ∧ (∀ x ∈ manned.outages, x.2.isStore = true) ∧
    ∃ world o', Desk.Task.Runs (Desk.handleCommand staffed switch) ordered
        (.ok (.refused Desk.internalError)) ∧
      Serves manned ordered world o' ∧ ordered.Stored ∧
        Desk.Unconfirmed staffed switch ordered := by
  have reached : ∀ t, manned.filters = some t → t.Reached := by
    intro t same
    cases same
    exact reached_defined
  have outages : ∀ x ∈ manned.outages, x.2.isStore = true :=
    fun x member => absurd member List.not_mem_nil
  obtain ⟨world, o', serves⟩ := serves_ordered
  have stored : ordered.Stored := ⟨_, _, .tail _ (.head _)⟩
  obtain ⟨result, same, -, succeeds⟩ :=
    (command_succeeds_iff_confirmed reached outages).2 _ _ _ _ runs_ordered serves
  cases same
  refine ⟨reached, outages, world, o', runs_ordered, serves, stored, ?_⟩
  by_contra confirmed
  cases (succeeds stored).mpr confirmed

end ChatTriage.Office
