import ChatTriage.Proofs.Desk.Isolation
import ChatTriage.Proofs.Desk.Match
import ChatTriage.Proofs.Office.Run
import ChatTriage.Proofs.Store.Queries

/-!
# The snapshot of the rules

Reading the rules anew replaces the snapshot or leaves it as it is (`Office.Refreshes`), whatever
has become of the store meanwhile. So after any number of calls the snapshot holds the enabled
filters of the last reading that went well: `Office.snapshot_holds_last_reading`.
-/

namespace ChatTriage.Office

/-- What reading the enabled filters comes to. -/
def reading (o : Office) : Except Fault (List Filter) :=
  o.unlessOut .enabledFilters (Store.enabledFilters o.filters)

/-- The ways of reading the rules anew. While the store fails the snapshot stays in force, and any
other fault is thrown. -/
inductive Refreshes (o : Office) : Except Fault (List Filter) → Office → Prop where
  | anew {filters} :
    o.reading = .ok filters →
    Refreshes o (.ok (filters.filter (·.enabled)))
      { o with snapshot := filters.filter (·.enabled), loaded := true }
  | degraded {e} :
    o.reading = .error e →
    e.isStore = true →
    Refreshes o (.ok o.snapshot) o
  | failed {e} :
    o.reading = .error e →
    e.isStore = false →
    Refreshes o (.error e) o

/-- A call that reads the rules anew: the office as it is found, the result, and the office as it is
left. -/
structure Reload where
  found : Office
  result : Except Fault (List Filter)
  left : Office

/-- Calls that read the rules anew, one after the other. Between them anything may become of the
office, except that nobody else puts rules in force. -/
inductive Reloads : Office → List Reload → Office → Prop where
  | nil {o} :
    Reloads o [] o
  | snoc {o calls o₁ found world result left} :
    Reloads o calls o₁ →
    found.snapshot = o₁.snapshot →
    found.loaded = o₁.loaded →
    Act.Runs (carryOut Desk.refresh) found world result left →
    Reloads o (calls ++ [⟨found, result, left⟩]) left

/-- The rules in force after some readings: the enabled filters of the last one that went well. -/
def rulesAfter (readings : List (Except Fault (List Filter))) : List Filter :=
  ((readings.filterMap Except.toOption).getLast?.getD []).filter (·.enabled)

/-- One of the readings went well. -/
def SomeRead (readings : List (Except Fault (List Filter))) : Prop :=
  ∃ filters, .ok filters ∈ readings

variable {o o' : Office} {world : World} {r : Except Fault (List Filter)}
    {filters : List Filter} {e : Fault}
  {calls past future : List Reload} {call : Reload} {readings : List (Except Fault (List Filter))}

/-- Reading the rules leaves the office. -/
lemma answer_reading_iff {x : Except Fault (List Filter)} :
    Act.Runs (answer .enabledFilters) o world x o' ↔ world = [] ∧ x = o.reading ∧ o' = o :=
  Act.runs_pure_iff

/-- Reading the rules anew asks nothing of the world. -/
lemma runs_refresh_iff :
    Act.Runs (carryOut Desk.refresh) o world r o' ↔ world = [] ∧ Refreshes o r o' := by
  constructor
  · intro run
    obtain ⟨log, asks, serves⟩ := runs_run_iff.mp run
    obtain ⟨filters, rfl, rfl⟩ | ⟨e, filters, store, rfl, rfl⟩ | ⟨e, foreign, rfl, rfl⟩ :=
      Desk.runs_refresh_iff.mp asks
    · obtain ⟨o₁, w₁, w₂, rfl, asked, later⟩ := serves_cons_iff.mp serves
      obtain ⟨rfl, read, rfl⟩ := answer_reading_iff.mp asked
      obtain ⟨rfl, same⟩ := Dialogue.runs_done_iff.mp (serves_one_iff.mp later)
      cases same
      exact ⟨rfl, .anew read.symm⟩
    · obtain ⟨o₁, w₁, w₂, rfl, asked, later⟩ := serves_cons_iff.mp serves
      obtain ⟨rfl, read, rfl⟩ := answer_reading_iff.mp asked
      obtain ⟨rfl, rfl, rfl⟩ := Act.runs_pure_iff.mp (serves_one_iff.mp later)
      exact ⟨rfl, .degraded read.symm store⟩
    · obtain ⟨rfl, read, rfl⟩ := answer_reading_iff.mp (serves_one_iff.mp serves)
      exact ⟨rfl, .failed read.symm foreign⟩
  · rintro ⟨rfl, refreshes⟩
    have asked : Act.Runs (answer .enabledFilters) o [] o.reading o :=
      answer_reading_iff.mpr ⟨rfl, rfl, rfl⟩
    refine runs_run_iff.mpr ?_
    cases refreshes with
    | anew read =>
      rw [read] at asked
      exact ⟨_, Desk.runs_refresh_iff.mpr (.inl ⟨_, rfl, rfl⟩),
        .cons asked (.cons (q := .keepSnapshot _) .done .nil)⟩
    | degraded read store =>
      rw [read] at asked
      exact ⟨_, Desk.runs_refresh_iff.mpr (.inr (.inl ⟨_, _, store, rfl, rfl⟩)),
        .cons asked (.cons (q := .snapshot) .done .nil)⟩
    | failed read foreign =>
      rw [read] at asked
      exact ⟨_, Desk.runs_refresh_iff.mpr (.inr (.inr ⟨_, foreign, rfl, rfl⟩)), .cons asked .nil⟩

/-! ### One call -/

/-- Rules that were read are in force. -/
lemma rulesAfter_concat_ok :
    rulesAfter (readings ++ [.ok filters]) = filters.filter (·.enabled) := by
  simp [rulesAfter, Except.toOption]

/-- Rules that were not leave the last ones in force. -/
lemma rulesAfter_concat_error : rulesAfter (readings ++ [.error e]) = rulesAfter readings := by
  simp [rulesAfter, Except.toOption]

/-- Then some were read. -/
lemma someRead_concat_ok : SomeRead (readings ++ [.ok filters]) :=
  ⟨filters, List.mem_append_right _ (List.mem_singleton.mpr rfl)⟩

/-- Then some were read if they were before. -/
lemma someRead_concat_error : SomeRead (readings ++ [.error e]) ↔ SomeRead readings := by
  simp [SomeRead]

/-- A reading that fails leaves the snapshot and the flag as they are. -/
lemma Refreshes.of_error (refreshes : Refreshes o r o') (failed : o.reading = .error e) :
    o' = o := by
  cases refreshes with
  | anew read => cases failed.symm.trans read
  | degraded _ _ => rfl
  | failed _ _ => rfl

/-- The result is the snapshot, unless the reading failed and the store is not to blame. -/
lemma Refreshes.result (refreshes : Refreshes o r o')
    (stored : ∀ e, o.reading = .error e → e.isStore = true) :
    r = .ok o'.snapshot := by
  cases refreshes with
  | anew _ => rfl
  | degraded _ _ => rfl
  | failed read foreign =>
    rw [stored _ read] at foreign
    cases foreign

/-- The office has the rules of some readings in force. -/
structure InForce (o : Office) (readings : List (Except Fault (List Filter))) : Prop where
  snapshot : o.snapshot = rulesAfter readings
  loaded : o.loaded = true ↔ SomeRead readings

/-- One more reading puts its rules in force if it went well. -/
lemma InForce.refresh (inForce : o.InForce readings) (refreshes : Refreshes o r o') :
    o'.InForce (readings ++ [o.reading]) := by
  cases refreshes with
  | anew read =>
    rw [read]
    exact ⟨rulesAfter_concat_ok.symm, fun _ => someRead_concat_ok, fun _ => rfl⟩
  | degraded read _ | failed read _ =>
    rw [read]
    exact ⟨inForce.snapshot.trans rulesAfter_concat_error.symm,
      inForce.loaded.trans someRead_concat_error.symm⟩

/-! ### A history of calls -/

/-- What the calls read, in their order. -/
def readingsOf (calls : List Reload) : List (Except Fault (List Filter)) :=
  calls.map (·.found.reading)

/-- Each call has its reading. -/
lemma readingsOf_concat : readingsOf (calls ++ [call]) = readingsOf calls ++ [call.found.reading] :=
  List.map_append

/-- The last call has found the office in which the others left the snapshot. -/
lemma reloads_concat_iff :
    Reloads o (calls ++ [call]) o' ↔ call.left = o' ∧ ∃ o₁, Reloads o calls o₁ ∧
      call.found.snapshot = o₁.snapshot ∧ call.found.loaded = o₁.loaded ∧
      Refreshes call.found call.result call.left := by
  constructor
  · intro run
    generalize split : calls ++ [call] = all at run
    cases run with
    | nil =>
        exact absurd split (List.append_ne_nil_of_right_ne_nil calls (List.cons_ne_nil call []))
    | snoc earlier snapshot loaded run =>
      obtain ⟨rfl, last⟩ := List.append_inj' split rfl
      cases last
      exact ⟨rfl, _, earlier, snapshot, loaded, (runs_refresh_iff.mp run).2⟩
  · rintro ⟨rfl, o₁, earlier, snapshot, loaded, refreshes⟩
    exact .snoc earlier snapshot loaded (runs_refresh_iff.mpr ⟨rfl, refreshes⟩)

/-- The calls up to one of a history are a history. -/
lemma Reloads.until (run : Reloads o (past ++ call :: future) o') :
    Reloads o (past ++ [call]) call.left := by
  induction future using List.reverseRecOn generalizing o' with
  | nil => rwa [(reloads_concat_iff.mp run).1]
  | append_singleton future last ih =>
    rw [← List.cons_append, ← List.append_assoc] at run
    obtain ⟨-, o₁, earlier, -⟩ := reloads_concat_iff.mp run
    exact ih earlier

/-- An office that has read no rules has none in force. -/
lemma inForce_nil (fresh : o.snapshot = []) (unread : o.loaded = false) : o.InForce [] :=
  ⟨fresh, iff_of_false (by simp [unread]) nofun⟩

/-- The rules in force are those of the readings so far. The induction is on the number of calls. -/
lemma Reloads.inForce (run : Reloads o calls o') (fresh : o.snapshot = [])
    (unread : o.loaded = false) :
    o'.InForce (readingsOf calls) := by
  induction run with
  | nil => exact inForce_nil fresh unread
  | snoc earlier snapshot loaded run ih =>
    rw [readingsOf_concat]
    refine InForce.refresh ⟨?_, ?_⟩ (runs_refresh_iff.mp run).2
    · rw [snapshot, ih.snapshot]
    · rw [loaded, ih.loaded]

/-- There is a way of reading the rules anew whatever the office is like. -/
lemma exists_refreshes (o : Office) : ∃ r o', Refreshes o r o' := by
  cases read : o.reading with
  | ok filters => exact ⟨_, _, .anew read⟩
  | error e =>
    cases store : e.isStore with
    | true => exact ⟨_, _, .degraded read store⟩
    | false => exact ⟨_, _, .failed read store⟩

/-- A reading that goes well gives what the enabled rows of the table define. -/
lemma lists_reading (read : o.reading = .ok filters) :
    ∃ t, o.filters = some t ∧ (t.Numbered → Store.Lists t.enabledRows filters) := by
  unfold reading unlessOut at read
  split at read
  · cases read
  · cases table : o.filters with
    | none =>
      rw [table] at read
      cases read
    | some t =>
      rw [table] at read
      refine ⟨t, rfl, fun numbered => ?_⟩
      rw [Store.eq_of_loadAll read]
      exact Store.lists_loaded (numbered.ascending.filter _)

/-- After every call of a history the snapshot holds the enabled filters of the last reading that
went well, in the order in which the table has them, and the flag tells whether there was one. The
call gives that snapshot unless its reading failed for another reason than the store, and a reading
that fails changes nothing. Whatever the office is like when it is next read, that call ends too. -/
theorem snapshot_holds_last_reading (fresh : o.snapshot = []) (unread : o.loaded = false)
    (run : Reloads o (past ++ call :: future) o') :
    call.left.InForce (readingsOf (past ++ [call])) ∧
    ((∀ e, call.found.reading = .error e → e.isStore = true) →
      call.result = .ok call.left.snapshot) ∧
    (∀ e, call.found.reading = .error e → call.left = call.found) ∧
    (∀ filters, call.found.reading = .ok filters →
      ∃ t, call.found.filters = some t ∧ (t.Numbered → Store.Lists t.enabledRows filters)) ∧
    ∀ found : Office, found.snapshot = o'.snapshot → found.loaded = o'.loaded →
      ∃ result left, Reloads o (past ++ call :: future ++ [⟨found, result, left⟩]) left := by
  obtain ⟨-, -, -, -, -, refreshes⟩ := reloads_concat_iff.mp run.until
  refine ⟨run.until.inForce fresh unread, refreshes.result, fun e => refreshes.of_error,
    fun filters => lists_reading, fun found snapshot loaded => ?_⟩
  obtain ⟨result, left, next⟩ := exists_refreshes found
  exact ⟨result, left, reloads_concat_iff.mpr ⟨rfl, o', run, snapshot, loaded, next⟩⟩

namespace Sample

open Desk.Sample

/-- An office whose enabled rows are a greeting and one that is malformed, while its store is out of
order. -/
def disconnected : Office where
  filters := some {
    rows := [
      ⟨1, "greeting", .int 1, .int 0, .null, .written (.obj greeting.definition)⟩,
      ⟨2, "scrap", .int 1, .int 0, .null, .foreign "not json"⟩]
    lastId := 2 }
  outages := [(.enabledFilters, .store (.reported "down"))]

/-- The store is in order again and its rules have been read. -/
def connected : Office :=
  { disconnected with outages := [], snapshot := [greeting], loaded := true }

/-- The table of filters has gone. -/
def bereft : Office :=
  { connected with filters := none }

/-- A call while the store is out of order. -/
def outage : Reload := ⟨disconnected, .ok [], disconnected⟩

/-- A call when it is in order again. -/
def recovery : Reload := ⟨{ disconnected with outages := [] }, .ok [greeting], connected⟩

/-- A call after the table has gone. -/
def loss : Reload := ⟨bereft, .ok [greeting], bereft⟩

end Sample

open Desk.Sample Sample in
/-- The rules are read in an outage, after it, and when their table has gone. -/
theorem snapshot_holds_last_reading_without_table :
    Reloads {} [outage, recovery, loss] bereft ∧ readingsOf [outage, recovery, loss] =
      [.error (.store (.reported "down")), .ok [greeting],
        .error (.store (.filterQuery (.noTable "filters")))] ∧
    bereft.InForce (readingsOf [outage, recovery, loss]) := by
  have failed : Refreshes outage.found outage.result outage.left :=
    .degraded (e := .store (.reported "down")) rfl rfl
  have read : recovery.found.reading = .ok [greeting] := by decide +kernel
  have good : Refreshes recovery.found recovery.result recovery.left := .anew read
  have bare : Refreshes loss.found loss.result loss.left :=
    .degraded (e := .store (.filterQuery (.noTable "filters"))) rfl rfl
  have run : Reloads {} ([outage, recovery] ++ [loss]) bereft := by
    have first : Reloads {} ([] ++ [outage]) disconnected :=
      reloads_concat_iff.mpr ⟨rfl, {}, .nil, rfl, rfl, failed⟩
    have second := reloads_concat_iff.mpr ⟨rfl, disconnected, first, rfl, rfl, good⟩
    exact reloads_concat_iff.mpr ⟨rfl, connected, second, rfl, rfl, bare⟩
  obtain ⟨inForce, -⟩ := snapshot_holds_last_reading rfl rfl run
  exact ⟨run, by decide +kernel, inForce⟩

end ChatTriage.Office
