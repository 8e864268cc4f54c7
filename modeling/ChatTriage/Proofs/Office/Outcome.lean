import ChatTriage.Proofs.Desk.Scope
import ChatTriage.Proofs.Office.Settled
import ChatTriage.Proofs.Office.Snapshot
import ChatTriage.Proofs.Time.Reader

/-!
# What becomes of a new message

A new message without problems is taken in. It is carried to the enabled filters that accept it, in
the order of their ids, and these alone decide where it ends: processed if there are none, archived
if one of them archives, filtered otherwise. The report, the message and its row agree about this,
and the row reads back as the message.
-/

namespace ChatTriage

namespace Desk

/-- Where a message stands according to a report. -/
def Report.status? : Report → Option Status
  | .refused _ _ => none
  | .unmatched _ status => some status
  | .dispatched _ status _ _ => some status

/-- The names of the filters that a report lists. -/
def Report.matched : Report → List String
  | .dispatched _ _ filters _ => filters
  | _ => []

/-- Where filters leave a new message that they accept. -/
def endOf (filters : List Filter) : Status :=
  if filters.isEmpty then .processed
  else if filters.any (·.actions.archive) then .archived
  else .filtered

/-- A message whose filters were asked is reported with their names. -/
lemma finish_matched {c : Config} {id : String} {matched : List Filter} {m m' : Message} {log : Log}
    {report : Report} (run : Work.Runs (finish c id matched) m log (.ok report) m') :
    report.matched = matched.map (·.name) := by
  obtain ⟨rfl, status, rfl⟩ | ⟨status, outcomes, rfl⟩ := finish_report run
  · rfl
  · rfl

end Desk

namespace Store.FilterTable

variable {ft : FilterTable}

/-- The enabled filters of a table, in the order of their ids. -/
def enabled (ft : FilterTable) : List Filter :=
  ft.enabledRows.filterMap (·.load.toOption)

/-- Rows that can all be read are what the query for the enabled filters finds. -/
lemma enabledFilters_eq (loads : ∀ row ∈ ft.enabledRows, ∃ f, row.load = .ok f) :
    enabledFilters (some ft) = .ok ft.enabled :=
  loadAll_eq loads

/-- The enabled filters of a table are enabled. -/
lemma filter_enabled (ft : FilterTable) : ft.enabled.filter (·.enabled) = ft.enabled := by
  refine List.filter_eq_self.mpr fun f member => ?_
  obtain ⟨row, listed, loaded⟩ := List.mem_filterMap.mp member
  obtain ⟨-, on⟩ := List.mem_filter.mp listed
  cases load : row.load with
  | error e =>
    rw [load] at loaded
    cases loaded
  | ok g =>
    rw [load] at loaded
    cases loaded
    rw [FilterRow.enabled_of_load load, of_decide_eq_true on]
    rfl

/-- There are fewer enabled filters than a version can count. -/
lemma Numbered.length_enabled (numbered : ft.Numbered) : ft.enabled.length < 2 ^ 63 :=
  calc ft.enabled.length
    _ ≤ ft.enabledRows.length := List.length_filterMap_le ..
    _ ≤ ft.rows.length := List.length_filter_le ..
    _ < 2 ^ 63 := numbered.length_lt

end Store.FilterTable

namespace Office

variable {c : Desk.Config} {o o' : Office} {m m' : Message} {t : Store.MessageTable}
  {ft : Store.FilterTable} {log : Desk.Log} {world : World} {r : Except Fault Desk.Report}

/-- A message was taken in and carried to filters. The report lists them, and tells where the
message is, as the message and its row do. The row, which is new, has as many saves as there are
filters, but at least one, and reads back as the message; where a date is one that some text writes,
that is. No other row is touched. -/
structure TakenIn (t : Store.MessageTable) (filters : List Filter) (m m' : Message)
    (report : Desk.Report) (o' : Office) : Prop where
  accepted : report.accepted = true
  matched : report.matched = filters.map (·.name)
  status : m'.status = Desk.endOf filters
  reported : report.status? = some m'.status
  version : m'.version = .count (max 1 filters.length : Nat)
  stored : ∃ row : Store.MessageRow, o'.messages = some (t.add row) ∧ row.id = some m.id ∧
    row.status = m'.status ∧ row.version = m'.version ∧
    ((∀ date, m.timestamp = some date → date.Legible) →
      row.load = .ok { m' with recipient := m'.recipient.orElse .null })

/-- A row that is settled reads back as its message. -/
lemma Settled.row_stored {n : Nat} (settled : Settled o t m n) :
    ∃ row : Store.MessageRow, o.messages = some (t.add row) ∧ row.id = some m.id ∧
      row.status = m.status ∧ row.version = m.version ∧
      ((∀ date, m.timestamp = some date → date.Legible) →
        row.load = .ok { m with recipient := m.recipient.orElse .null }) := by
  obtain ⟨document, stored, messages⟩ := settled.row
  obtain ⟨dated, -⟩ := Message.stored_eq_ok_iff.mp stored
  obtain ⟨date, dates, rfl⟩ := Message.toJson_eq_ok_iff.mp dated
  refine ⟨_, messages, rfl, rfl, settled.version.symm, fun legible => ?_⟩
  -- everything but the date reads back as it was written
  have read := DateTime.ofJson_of_read (legible date dates).read?_iso
  rw [Store.MessageRow.load_of_written _ rfl, Message.ofJson_document, read, ← dates,
    ← settled.version]
  rfl

/-- A new message that no filter accepts is processed. -/
lemma Held.finish_nil {id : String} {document : Json} (held : Held o t m.id 0)
    (version : m.version = .count 0) (received : m.status = .received)
    (stored : m.stored = .ok document)
    (run : Desk.Work.Runs (Desk.finish c id []) m log r m') (serves : Serves o log world o') :
    r = .ok (.unmatched id m'.status) ∧ m' = { m with status := .processed, version := .count 1 } ∧
      Settled o' t m' 1 := by
  obtain ⟨answer, rfl, rfl, reports⟩ := Desk.runs_finish_nil received run
  obtain ⟨_, written⟩ := Message.exists_stored_status ⟨document, stored⟩ .processed
  obtain ⟨kept, settled⟩ :=
    held.saved (m := { m with status := .processed }) version (by decide) written serves
  rw [kept] at reports ⊢
  exact ⟨reports rfl, rfl, settled⟩

/-- A new message that filters accept is carried to all of them. -/
lemma Held.finish_cons {id : String} {document : Json} {f : Filter} {filters : List Filter}
    (held : Held o t m.id 0) (version : m.version = .count 0) (received : m.status = .received)
    (stored : m.stored = .ok document) (few : (f :: filters).length < 2 ^ 63)
    (tags : ∀ g ∈ f :: filters, g.actions.addTags.all Text.encodable = true)
    (run : Desk.Work.Runs (Desk.finish c id (f :: filters)) m log r m')
    (serves : Serves o log world o')
    (told : log.Forthcoming) :
    ∃ outcomes, r = .ok (.dispatched id m'.status ((f :: filters).map (·.name)) outcomes) ∧
      m' = { { m with status := .filtered }.carryAll (f :: filters) with
        version := .count ((f :: filters).length : Nat) } ∧
      Settled o' t m' (f :: filters).length := by
  have unprocessed : m.status ≠ .processed := by simp [received]
  have enters : m.entering (f :: filters) = { m with status := .filtered } := by
    simp [Message.entering, received]
  have level : Level o t { m with status := .filtered } 0 :=
    ⟨held, version, .inl rfl, Message.exists_stored_status ⟨document, stored⟩ _⟩
  -- stated once for both ways in which the binding can go on
  have carried {r : Except Fault (List Desk.FilterOutcome)} {m₁ log w o₁}
      (run : Desk.Work.Runs (Desk.dispatch c (f :: filters)) m log r m₁)
      (serves : Serves o log w o₁) (told : log.Forthcoming) := by
    rw [Desk.runs_dispatch_iff unprocessed, enters] at run
    exact level.runFilters (by rwa [Nat.zero_add]) tags run serves told
  rw [Desk.runs_finish_cons_iff] at run
  obtain ⟨e, dispatched, -⟩ | ⟨outcomes, m₁, log₁, log₂, rfl, dispatched, last⟩ :=
    Desk.Work.runs_bind_iff.mp run
  · obtain ⟨_, impossible, -⟩ := carried dispatched serves told
    cases impossible
  · rw [Desk.Work.runs_get_bind_iff, Desk.Work.runs_pure_iff] at last
    obtain ⟨rfl, rfl, rfl⟩ := last
    rw [List.append_nil] at serves told
    obtain ⟨_, -, same, settles⟩ := carried dispatched serves told
    rw [Nat.zero_add] at same settles
    exact ⟨outcomes, rfl, same, settles (.inl (List.cons_ne_nil f filters))⟩

/-- A new message is taken in whatever filters accept it. -/
lemma Held.finish {id : String} {document : Json} {filters : List Filter} (held : Held o t m.id 0)
    (version : m.version = .count 0) (received : m.status = .received)
    (stored : m.stored = .ok document) (few : filters.length < 2 ^ 63)
    (tags : ∀ f ∈ filters, f.actions.addTags.all Text.encodable = true)
    (run : Desk.Work.Runs (Desk.finish c id filters) m log r m')
    (serves : Serves o log world o') (told : log.Forthcoming) :
    ∃ report, r = .ok report ∧ TakenIn t filters m m' report o' := by
  cases filters with
  | nil =>
    obtain ⟨rfl, rfl, settled⟩ := held.finish_nil version received stored run serves
    exact ⟨_, rfl, rfl, rfl, rfl, rfl, rfl, settled.row_stored⟩
  | cons f filters =>
    obtain ⟨outcomes, rfl, same, settled⟩ :=
      held.finish_cons version received stored few tags run serves told
    obtain ⟨metadata, carried⟩ := Message.carryAll_eq { m with status := .filtered } (f :: filters)
    rw [carried] at same
    subst same
    refine ⟨_, rfl, rfl, rfl, rfl, rfl, ?_, settled.row_stored⟩
    simp only [List.length_cons]
    rw [Nat.max_eq_right (by omega)]

/-- What comes of reading the rules anew, and the office after it. The enabled filters become the
snapshot. While the table is not in order the last snapshot stays in force, and any other fault is
thrown. -/
def refreshed (o : Office) : Except Fault (List Filter) × Office :=
  match Store.enabledFilters o.filters with
  | .ok filters =>
    let rules := filters.filter (·.enabled)
    (.ok rules, { o with snapshot := rules, loaded := true })
  | .error e => if e.isStore then (.ok o.snapshot, o) else (.error e, o)

/-- What `Refreshes` says is what comes of reading the rules anew. -/
lemma Refreshes.refreshed {r : Except Fault (List Filter)} (refreshes : Refreshes o r o')
    (order : o.outages = []) :
    o.refreshed = (r, o') := by
  have asked : o.reading = Store.enabledFilters o.filters := unlessOut_eq order
  unfold Office.refreshed
  rw [← asked]
  cases refreshes with
  | anew read => rw [read]
  | degraded read store =>
    rw [read]
    exact if_pos store
  | failed read foreign =>
    rw [read]
    exact if_neg (by simp [foreign])

/-- How the rules are read anew while no operation is out of order. -/
lemma refreshes_iff {r : Except Fault (List Filter)} (order : o.outages = []) :
    Refreshes o r o' ↔ o.refreshed = (r, o') := by
  refine ⟨fun refreshes => refreshes.refreshed order, fun same => ?_⟩
  obtain ⟨x, o₁, refreshes⟩ := exists_refreshes o
  cases (refreshes.refreshed order).symm.trans same
  exact refreshes

/-- Reading the rules anew writes no table of messages. -/
lemma unwritten_of_refresh {r : Except Fault (List Filter)}
    (run : Desk.Task.Runs Desk.refresh log r) :
    log.Unwritten := by
  obtain ⟨filters, rfl, rfl⟩ | ⟨e, filters, -, rfl, rfl⟩ | ⟨e, -, rfl, rfl⟩ :=
    Desk.runs_refresh_iff.mp run
  · exact List.forall_mem_cons.mpr ⟨rfl, List.forall_mem_singleton.mpr rfl⟩
  · exact List.forall_mem_cons.mpr ⟨rfl, List.forall_mem_singleton.mpr rfl⟩
  · exact List.forall_mem_singleton.mpr rfl

/-- Reading the rules anew asks nothing of the world and writes no table. -/
lemma runs_refresh {r : Except Fault (List Filter)} (order : o.outages = [])
    (run : Desk.Task.Runs Desk.refresh log r) (serves : Serves o log world o') :
    o.refreshed = (r, o') ∧ world = [] ∧ log.Unwritten := by
  obtain ⟨quiet, refreshes⟩ := runs_refresh_iff.mp (runs_run_iff.mpr ⟨log, run, serves⟩)
  exact ⟨(refreshes_iff order).mp refreshes, quiet, unwritten_of_refresh run⟩

/-- The rules that are read anew are the enabled filters of the table. -/
lemma refreshed_of_query (query : Store.enabledFilters o.filters = .ok ft.enabled) :
    o.refreshed = (.ok ft.enabled, { o with snapshot := ft.enabled, loaded := true }) := by
  unfold refreshed
  rw [query]
  simp only [Store.FilterTable.filter_enabled]

/-- A message whose row is there is carried to some of the rules, which accept it. -/
lemma Held.sort_found {id : String} {document : Json} {rules : List Filter} (held : Held o t m.id 0)
    (version : m.version = .count 0) (received : m.status = .received)
    (stored : m.stored = .ok document)
    (read : o.refreshed.1 = .ok rules) (few : rules.length < 2 ^ 63)
    (tags : ∀ f ∈ rules.filter (Desk.takes c.zone m), f.actions.addTags.all Text.encodable = true)
    (run : Desk.Work.Runs (Desk.sort c id) m log r m') (serves : Serves o log world o')
    (told : log.Forthcoming) :
    ∃ matched report, r = .ok report ∧ TakenIn t matched m m' report o' ∧
      (log.Counted → matched = rules.filter (Desk.takes c.zone m)) := by
  obtain ⟨e, asked, rfl⟩ | ⟨all, m₁, log₁, log₂, rfl, asked, later⟩ :=
    Desk.Work.runs_bind_iff.mp run
  · obtain ⟨refresh, -⟩ := Desk.Work.runs_toWork_iff.mp asked
    rw [(runs_refresh held.outages refresh serves).1] at read
    cases read
  · obtain ⟨refresh, rfl⟩ := Desk.Work.runs_toWork_iff.mp asked
    obtain ⟨-, told⟩ := List.forall_mem_append.mp told
    obtain ⟨o₁, w₁, w₂, rfl, serves₁, serves₂⟩ := serves_append_iff.mp serves
    obtain ⟨same, -, quiet₁⟩ := runs_refresh held.outages refresh serves₁
    rw [same] at read
    cases read
    rw [Desk.Work.runs_get_bind_iff] at later
    obtain ⟨e, matching, rfl⟩ | ⟨matched, m₂, log₃, log₄, rfl, matching, last⟩ :=
      Desk.Work.runs_bind_iff.mp later
    · obtain ⟨matchAll, -⟩ := Desk.Work.runs_toWork_iff.mp matching
      obtain ⟨_, impossible, -⟩ := Desk.runs_matchAll_found matchAll
      cases impossible
    · obtain ⟨matchAll, rfl⟩ := Desk.Work.runs_toWork_iff.mp matching
      obtain ⟨_, same, among⟩ := Desk.runs_matchAll_found matchAll
      cases same
      obtain ⟨o₂, w₃, w₄, rfl, serves₃, serves₄⟩ := serves_append_iff.mp serves₂
      have quiet₃ : Desk.Log.Unwritten log₃ := fun x member =>
        Desk.Request.writesMessages_of_isSorting ((Desk.matchAll_within.runs matchAll).1 x member)
      -- neither the rules nor the matching have touched the row
      have still := (held.of_unwritten quiet₁ serves₁).of_unwritten quiet₃ serves₃
      obtain ⟨report, rfl, taken⟩ :=
        still.finish version received stored
          ((among.length_le.trans (List.length_filter_le ..)).trans_lt few)
          (fun f member => tags f (among.subset member)) last serves₄
          (List.forall_mem_append.mp told).2
      refine ⟨matched, report, rfl, taken, fun counted => ?_⟩
      obtain ⟨-, counted⟩ := List.forall_mem_append.mp counted
      have counted₃ : Desk.Log.Counted log₃ := (List.forall_mem_append.mp counted).1
      exact Except.ok.inj (Desk.runs_matchAll matchAll counted₃.onlyStore)

/-- A message whose row is there is carried to the rules that accept it. -/
lemma Held.sort_of_refreshed {id : String} {document : Json} {rules : List Filter}
    (held : Held o t m.id 0)
    (version : m.version = .count 0) (received : m.status = .received)
    (stored : m.stored = .ok document)
    (read : o.refreshed.1 = .ok rules) (few : rules.length < 2 ^ 63)
    (tags : ∀ f ∈ rules.filter (Desk.takes c.zone m), f.actions.addTags.all Text.encodable = true)
    (run : Desk.Work.Runs (Desk.sort c id) m log r m') (serves : Serves o log world o')
    (counted : log.Counted) (told : log.Forthcoming) :
    ∃ report, r = .ok report ∧ TakenIn t (rules.filter (Desk.takes c.zone m)) m m' report o' := by
  obtain ⟨matched, report, rfl, taken, accepting⟩ :=
    held.sort_found version received stored read few tags run serves told
  obtain rfl := accepting counted
  exact ⟨report, rfl, taken⟩

/-- A message whose row is there is carried to the enabled filters that accept it. -/
lemma Held.sort {id : String} {document : Json} (held : Held o t m.id 0)
    (version : m.version = .count 0) (received : m.status = .received)
    (stored : m.stored = .ok document) (filters : o.filters = some ft) (numbered : ft.Numbered)
    (loads : ∀ row ∈ ft.enabledRows, ∃ f, row.load = .ok f)
    (tags : ∀ f ∈ ft.enabled.filter (Desk.takes c.zone m),
      f.actions.addTags.all Text.encodable = true)
    (run : Desk.Work.Runs (Desk.sort c id) m log r m') (serves : Serves o log world o')
    (counted : log.Counted) (told : log.Forthcoming) :
    ∃ report, r = .ok report ∧
      TakenIn t (ft.enabled.filter (Desk.takes c.zone m)) m m' report o' := by
  have query : Store.enabledFilters o.filters = .ok ft.enabled := by
    rw [filters, ft.enabledFilters_eq loads]
  have read : o.refreshed.1 = .ok ft.enabled := congrArg Prod.fst (refreshed_of_query query)
  exact held.sort_of_refreshed version received stored read numbered.length_enabled tags run
    serves counted told

/-- A new message without problems is taken in, and carried to exactly the enabled filters that
accept it; provided that the stores do not fail, that every match was counted and that every route
has told whether it is open. The stores do not fail when the tables are in order and the texts can
be encoded that are to be stored: those of the message and the tags that are put on it. -/
theorem process_takes_in {document : Json} (received : m.status = .received)
    (valid : m.draft.problems = [])
    (messages : o.messages = some t) (new : t.row? m.id = none) (filters : o.filters = some ft)
    (numbered : ft.Numbered) (loads : ∀ row ∈ ft.enabledRows, ∃ f, row.load = .ok f)
    (order : o.outages = []) (stored : m.stored = .ok document)
    (tags : ∀ f ∈ ft.enabled.filter (Desk.takes c.zone m),
      f.actions.addTags.all Text.encodable = true) :
    (∀ tell, ∃ world r m' o', Dialogue.Told tell [] world ∧
      Act.Runs (workOn m (Desk.process c)) o world (r, m') o') ∧
    ∀ log world r m' o', Desk.Work.Runs (Desk.process c) m log r m' → Serves o log world o' →
      log.Counted → log.Forthcoming →
      ∃ report, r = .ok report ∧
        TakenIn t (ft.enabled.filter (Desk.takes c.zone m)) m m' report o' := by
  refine ⟨fun tell => ?_, fun log world r m' o' run serves counted told => ?_⟩
  · obtain ⟨world, ⟨⟨r, m'⟩, o'⟩, told, run⟩ :=
      Dialogue.exists_run (StateT.run (workOn m (Desk.process c)) o) tell []
    exact ⟨world, r, m', o', told, run⟩
  have created : o.createMessage m =
      (.ok (), { o with messages := some (t.add (.fresh m document)) }) :=
    createMessage_eq_ok_iff.mpr ⟨order ▸ rfl, t, document, messages, stored, new, rfl⟩
  have unrefused : m.draft.refusal? = none := by
    unfold Draft.refusal?
    rw [valid]
  obtain ⟨_, refused, -⟩ | ⟨e, -, rfl, -, -⟩ | ⟨rest, -, rfl, sorted⟩ :=
    Desk.runs_process_iff.mp run
  · rw [unrefused] at refused
    cases refused
  · obtain ⟨-, impossible⟩ := answer_createMessage_iff.mp (serves_one_iff.mp serves)
    rw [created] at impossible
    cases impossible
  · obtain ⟨o₁, w₁, w₂, rfl, first, later⟩ := serves_cons_iff.mp serves
    obtain ⟨-, same⟩ := answer_createMessage_iff.mp first
    rw [created] at same
    cases same
    -- from here on the row of the message is the last of the table
    have held : Held { o with messages := some (t.add (.fresh m document)) } t m.id 0 :=
      ⟨new, order, _, rfl, rfl, rfl⟩
    obtain ⟨-, counted⟩ := List.forall_mem_cons.mp counted
    obtain ⟨-, told⟩ := List.forall_mem_cons.mp told
    obtain ⟨report, rfl, taken⟩ :=
      held.sort (m := { m with version := .count 0 }) rfl received stored
        filters numbered loads (by rwa [Desk.takes_version]) sorted later counted told
    rw [Desk.takes_version] at taken
    exact ⟨report, rfl, taken.accepted, taken.matched, taken.status, taken.reported, taken.version,
      taken.stored⟩

open Desk.Sample

namespace Sample

/-- A desk without channels. -/
def quiet : Desk.Config :=
  { desk with routes := [] }

/-- The table of the filters that take every message. -/
def rules : Store.FilterTable where
  rows := [
    ⟨1, "greeting", .int 1, .int 0, .null, .written (.obj greeting.definition)⟩,
    ⟨2, "filing", .int 1, .int 0, .null, .written (.obj filing.definition)⟩]
  lastId := 2

/-- An office with the filters and without messages. -/
def ruled : Office :=
  { filters := some rules }

/-- The rows have ids of their own. -/
lemma numbered_rules : rules.Numbered :=
  ⟨by decide, by decide, by decide +kernel⟩

/-- The rows can be read. -/
lemma loads_rules : ∀ row ∈ rules.enabledRows, ∃ f, row.load = .ok f := by
  refine List.forall_mem_cons.mpr ⟨⟨greeting, ?_⟩, List.forall_mem_singleton.mpr ⟨filing, ?_⟩⟩
  · decide +kernel
  · decide +kernel

/-- Both filters take the message. -/
lemma takes_rules : rules.enabled.filter (Desk.takes quiet.zone order) = [greeting, filing] := by
  decide +kernel

/-- What is asked while the message is taken in. -/
def asked : Desk.Log := [
  ⟨.createMessage order, .ok ()⟩,
  ⟨.enabledFilters, .ok [greeting, filing]⟩,
  ⟨.keepSnapshot [greeting, filing], ()⟩,
  ⟨.now, morning⟩,
  ⟨.storeStats (.int 1) ⟨1, some morning⟩, .ok ()⟩,
  ⟨.now, morning⟩,
  ⟨.storeStats (.int 2) ⟨1, some morning⟩, .ok ()⟩,
  ⟨.saveMessage greeted, .ok ()⟩,
  ⟨.saveMessage { greeted with status := .archived, version := .count 1 }, .ok ()⟩]

/-- The message is taken in as written down. -/
lemma runs_asked : ∃ r m', Desk.Work.Runs (Desk.process quiet) order asked r m' :=
  ⟨_, _, .ask (.ask (.ask (.ask (.ask (.ask (.ask (.ask (.ask .done))))))))⟩

/-- An office serves the creation of a message. -/
lemma serves_created {o o' : Office} {m : Message} {log : Desk.Log} {world : World}
    (created : (o.createMessage m).1 = .ok ()) (rest : Serves (o.createMessage m).2 log world o') :
    Serves o (⟨.createMessage m, .ok ()⟩ :: log) world o' :=
  .cons (answer_createMessage_iff.mpr ⟨rfl, Prod.ext created rfl⟩) rest

/-- It serves a save. -/
lemma serves_saved {o o' : Office} {m : Message} {log : Desk.Log} {world : World}
    (saved : (o.saveMessage m).1 = .ok ()) (rest : Serves (o.saveMessage m).2 log world o') :
    Serves o (⟨.saveMessage m, .ok ()⟩ :: log) world o' :=
  .cons (answer_saveMessage_iff.mpr ⟨rfl, Prod.ext saved rfl⟩) rest

/-- It serves a count. -/
lemma serves_counted {o o' : Office} {id : Json} {stats : FilterStats} {log : Desk.Log}
    {world : World}
    (counted : (o.updateFilter id [.ofStats stats]).1 = .ok ())
    (rest : Serves (o.updateFilter id [.ofStats stats]).2 log world o') :
    Serves o (⟨.storeStats id stats, .ok ()⟩ :: log) world o' := by
  have answered : Act.Runs (answer (.storeStats id stats)) o [] (.ok ())
      (o.updateFilter id [.ofStats stats]).2 :=
    Act.runs_change_iff.mpr ⟨rfl, Prod.ext counted.symm rfl⟩
  exact .cons answered rest

/-- It serves a lookup. -/
lemma serves_found {o o' : Office} {name : String} {found : Option Filter} {log : Desk.Log}
    {world : World}
    (lookup : o.filterNamed name = .ok found) (rest : Serves o log world o') :
    Serves o (⟨.filterNamed name, .ok found⟩ :: log) world o' :=
  .cons (q := .filterNamed name) (Act.runs_pure_iff.mpr ⟨rfl, lookup.symm, rfl⟩) rest

/-- It serves a question for the rules. -/
lemma serves_enabled {o o' : Office} {filters : List Filter} {log : Desk.Log} {world : World}
    (enabled : o.unlessOut .enabledFilters (Store.enabledFilters o.filters) = .ok filters)
    (rest : Serves o log world o') : Serves o (⟨.enabledFilters, .ok filters⟩ :: log) world o' :=
  .cons (q := .enabledFilters) (Act.runs_pure_iff.mpr ⟨rfl, enabled.symm, rfl⟩) rest

/-- The office answers all of this. -/
lemma serves_asked : ∃ world o', Serves ruled asked world o' := by
  apply Exists.intro
  apply Exists.intro
  apply serves_created (by decide +kernel)
  apply serves_enabled (by decide +kernel)
  apply Serves.cons (q := .keepSnapshot _) .done
  apply Serves.cons (q := .now) (.ask .done)
  apply serves_counted (by decide +kernel)
  apply Serves.cons (q := .now) (.ask .done)
  apply serves_counted (by decide +kernel)
  apply serves_saved (by decide +kernel)
  apply serves_saved (by decide +kernel)
  exact .nil

end Sample

/-- A message that two filters accept, the second of which archives it, ends up archived after two
saves. -/
theorem process_takes_in_archived :
    ∃ log world r m' o', Desk.Work.Runs (Desk.process Sample.quiet) order log r m' ∧
      Serves Sample.ruled log world o' ∧ m'.status = .archived ∧ m'.version = .count 2 ∧
      ∃ report, r = .ok report ∧ TakenIn {} [greeting, filing] order m' report o' := by
  obtain ⟨r, m', run⟩ := Sample.runs_asked
  obtain ⟨world, o', serves⟩ := Sample.serves_asked
  have counted : Sample.asked.Counted := by
    intro x member id stats e same
    simp only [Sample.asked, List.mem_cons, List.not_mem_nil, or_false] at member
    rcases member with rfl | rfl | rfl | rfl | rfl | rfl | rfl | rfl | rfl <;> cases same
  have told : Sample.asked.Forthcoming := by
    intro x member route e same
    simp only [Sample.asked, List.mem_cons, List.not_mem_nil, or_false] at member
    rcases member with rfl | rfl | rfl | rfl | rfl | rfl | rfl | rfl | rfl <;> cases same
  have valid : order.draft.problems = [] := by decide +kernel
  have tags : ∀ f ∈ Sample.rules.enabled.filter (Desk.takes Sample.quiet.zone order),
      f.actions.addTags.all Text.encodable = true := by
    rw [Sample.takes_rules]
    decide
  obtain ⟨report, same, taken⟩ :=
    (process_takes_in (o := Sample.ruled) (t := {}) rfl valid rfl rfl rfl Sample.numbered_rules
      Sample.loads_rules rfl Sample.stored_order tags).2 _ _ _ _ _ run serves counted told
  rw [Sample.takes_rules] at taken
  exact ⟨_, _, _, _, _, run, serves, taken.status, taken.version, report, same, taken⟩

end Office

end ChatTriage
