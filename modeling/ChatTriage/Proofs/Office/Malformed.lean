import ChatTriage.Proofs.Office.Outcome
import ChatTriage.Proofs.Store.Queries

/-!
# Filters beside malformed rows

An operator can write anything into a row of the filters. A row that is malformed is passed over,
and the desk goes on with all the others (`Sorts`). But a row that blocks ends the query that comes
to it, and while there is such a row among the enabled ones the desk stands still: the rules cannot
be read, and a message that comes in gets no further than its row (`Stalls`).
-/

namespace ChatTriage

namespace Office

open Store

variable {c : Desk.Config} {o o' : Office} {m m' : Message} {t : MessageTable} {ft : FilterTable}
  {log : Desk.Log} {world : World} {e : Fault}

/-- The office with the row of a new message at the end of its table. -/
def listing (o : Office) (t : MessageTable) (m : Message) (document : Json) : Office :=
  { o with messages := some (t.add (.fresh m document)) }

/-- The rules can be read, and a new message without problems is taken in with them; provided that
its texts and the tags that are put on it can be encoded, that every match was counted and that
every route has told whether it is open. -/
structure Sorts (c : Desk.Config) (o : Office) (t : MessageTable) (rules : List Filter) : Prop where
  refresh : ∀ world r o', Act.Runs (carryOut Desk.refresh) o world r o' ↔
    world = [] ∧ r = .ok rules ∧ o' = { o with snapshot := rules, loaded := true }
  ends : ∀ m tell, ∃ world r m' o', Dialogue.Told tell [] world ∧
    Act.Runs (workOn m (Desk.process c)) o world (r, m') o'
  process : ∀ m document, m.status = .received → m.draft.problems = [] → t.row? m.id = none →
    m.stored = .ok document →
    (∀ f ∈ rules.filter (Desk.takes c.zone m), f.actions.addTags.all Text.encodable = true) →
    ∀ log world r m' o', Desk.Work.Runs (Desk.process c) m log r m' → Serves o log world o' →
      log.Counted → log.Forthcoming →
      ∃ report, r = .ok report ∧ TakenIn t (rules.filter (Desk.takes c.zone m)) m m' report o'

/-- Reading the rules fails, and so does taking in a new message without problems that can be
stored, whose row is left behind. -/
structure Stalls (c : Desk.Config) (o : Office) (t : MessageTable) (e : Fault) : Prop where
  refresh : ∀ world r o', Act.Runs (carryOut Desk.refresh) o world r o' ↔
    world = [] ∧ r = .error e ∧ o' = o
  process : ∀ m document, m.draft.problems = [] → t.row? m.id = none → m.stored = .ok document →
    ∀ world r m' o', Act.Runs (workOn m (Desk.process c)) o world (r, m') o' ↔
      world = [] ∧ r = .error e ∧ m' = { m with version := .count 0 } ∧
        o' = o.listing t m document

/-- How the rules are read anew. -/
lemma runs_carryOut_refresh_iff {r : Except Fault (List Filter)} (order : o.outages = []) :
    Act.Runs (carryOut Desk.refresh) o world r o' ↔ world = [] ∧ o.refreshed = (r, o') := by
  rw [runs_refresh_iff, refreshes_iff order]

/-- The rules can be refreshed. -/
lemma exists_refresh (order : o.outages = []) :
    ∃ log, Desk.Task.Runs Desk.refresh log o.refreshed.1 ∧ Serves o log [] o.refreshed.2 :=
  runs_run_iff.mp ((runs_carryOut_refresh_iff order).mpr ⟨rfl, rfl⟩)

/-- A fault that is not the store's keeps the rules from being read. -/
lemma refreshed_of_foreign (query : enabledFilters o.filters = .error e)
    (foreign : e.isStore = false) :
    o.refreshed = (.error e, o) := by
  unfold refreshed
  rw [query]
  exact if_neg (by simp [foreign])

/-- A new message without problems has its row created, which is the last one, and is then
sorted. -/
lemma runs_process_of_new_iff {r : Except Fault Desk.Report} {document : Json}
    (order : o.outages = [])
    (messages : o.messages = some t) (valid : m.draft.problems = []) (new : t.row? m.id = none)
    (stored : m.stored = .ok document) :
    Desk.Work.Runs (Desk.process c) m log r m' ∧ Serves o log world o' ↔
      ∃ rest, log = ⟨.createMessage m, .ok ()⟩ :: rest ∧
        Desk.Work.Runs (Desk.sort c m.id) { m with version := .count 0 } rest r m' ∧
        Serves (o.listing t m document) rest world o' := by
  have created : o.createMessage m = (.ok (), o.listing t m document) :=
    createMessage_eq_ok_iff.mpr ⟨order ▸ rfl, t, document, messages, stored, new, rfl⟩
  have unrefused : m.draft.refusal? = none := by
    unfold Draft.refusal?
    rw [valid]
  have answered {w o₁} {x : Except Fault Unit} : Act.Runs (answer (.createMessage m)) o w x o₁ ↔
      w = [] ∧ x = .ok () ∧ o₁ = o.listing t m document := by
    rw [answer_createMessage_iff, created, Prod.mk.injEq, eq_comm (a := Except.ok ()),
      eq_comm (b := o₁)]
  rw [Desk.runs_process_iff, unrefused]
  constructor
  · rintro ⟨⟨_, impossible, -⟩ | ⟨e, -, rfl, -, -⟩ | ⟨rest, -, rfl, sorted⟩, serves⟩
    · cases impossible
    · obtain ⟨-, impossible, -⟩ := answered.mp (serves_one_iff.mp serves)
      cases impossible
    · obtain ⟨o₁, w₁, w₂, rfl, first, later⟩ := serves_cons_iff.mp serves
      obtain ⟨rfl, -, rfl⟩ := answered.mp first
      exact ⟨rest, rfl, sorted, later⟩
  · rintro ⟨rest, rfl, sorted, later⟩
    refine ⟨.inr (.inr ⟨rest, rfl, rfl, sorted⟩), serves_cons_iff.mpr ?_⟩
    exact ⟨_, [], world, rfl, answered.mpr ⟨rfl, rfl, rfl⟩, later⟩

/-- A new message without problems is taken in with the rules that can be read. -/
lemma sorts_of_query (messages : o.messages = some t) (order : o.outages = [])
    (query : enabledFilters o.filters = .ok ft.enabled) (few : ft.enabled.length < 2 ^ 63) :
    Sorts c o t ft.enabled := by
  refine ⟨fun world r o' => ?_, fun m tell => ?_, fun m document received valid new stored tags log
    world r m' o' run serves counted told => ?_⟩
  · rw [runs_carryOut_refresh_iff order, refreshed_of_query query, Prod.mk.injEq, eq_comm (b := r),
      eq_comm (b := o')]
  · obtain ⟨world, ⟨⟨r, m'⟩, o'⟩, told, run⟩ :=
      Dialogue.exists_run (StateT.run (workOn m (Desk.process c)) o) tell []
    exact ⟨world, r, m', o', told, run⟩
  · obtain ⟨rest, rfl, sorted, later⟩ :=
      (runs_process_of_new_iff order messages valid new stored).mp ⟨run, serves⟩
    have held : Held (o.listing t m document) t m.id 0 := ⟨new, order, _, rfl, rfl, rfl⟩
    have read := congrArg Prod.fst (refreshed_of_query (o := o.listing t m document) query)
    obtain ⟨report, rfl, taken⟩ :=
      held.sort_of_refreshed (m := { m with version := .count 0 }) rfl received stored read few
        (by rwa [Desk.takes_version]) sorted later
        (List.forall_mem_cons.mp counted).2 (List.forall_mem_cons.mp told).2
    rw [Desk.takes_version] at taken
    exact ⟨report, rfl, taken.accepted, taken.matched, taken.status, taken.reported, taken.version,
      taken.stored⟩

/-- Sorting ends where the rules cannot be read. -/
lemma runs_sort_of_refreshed_iff {i : String} {r : Except Fault Desk.Report}
    (order : o.outages = [])
    (read : o.refreshed = (.error e, o)) :
    (∃ log, Desk.Work.Runs (Desk.sort c i) m log r m' ∧ Serves o log world o') ↔
      world = [] ∧ r = .error e ∧ m' = m ∧ o' = o := by
  constructor
  · rintro ⟨log, run, serves⟩
    obtain ⟨e', asked, rfl⟩ | ⟨all, m₁, log₁, log₂, rfl, asked, -⟩ := Desk.Work.runs_bind_iff.mp run
    · obtain ⟨refresh, rfl⟩ := Desk.Work.runs_toWork_iff.mp asked
      obtain ⟨same, quiet, -⟩ := runs_refresh order refresh serves
      cases read.symm.trans same
      exact ⟨quiet, rfl, rfl, rfl⟩
    · obtain ⟨refresh, -⟩ := Desk.Work.runs_toWork_iff.mp asked
      obtain ⟨o₁, w₁, w₂, rfl, serves₁, -⟩ := serves_append_iff.mp serves
      cases read.symm.trans (runs_refresh order refresh serves₁).1
  · rintro ⟨rfl, rfl, rfl, rfl⟩
    obtain ⟨log, refresh, serves⟩ := exists_refresh order
    rw [read] at refresh serves
    exact ⟨log,
      Desk.Work.runs_bind_iff.mpr (.inl ⟨e, Desk.Work.runs_toWork_iff.mpr ⟨refresh, rfl⟩, rfl⟩),
      serves⟩

/-- Nothing gets beyond rules that a row blocks. -/
lemma stalls_of_query (messages : o.messages = some t) (order : o.outages = [])
    (query : enabledFilters o.filters = .error e) (foreign : e.isStore = false) :
    Stalls c o t e := by
  refine ⟨fun world r o' => ?_, fun m document valid new stored world r m' o' => ?_⟩
  · rw [runs_carryOut_refresh_iff order, refreshed_of_foreign query foreign, Prod.mk.injEq,
      eq_comm (b := r), eq_comm (b := o')]
  · have ordered : (o.listing t m document).outages = [] := order
    have read := refreshed_of_foreign (o := o.listing t m document) query foreign
    rw [runs_workOn_iff, ← runs_sort_of_refreshed_iff (c := c) (i := m.id) ordered read]
    simp only [runs_process_of_new_iff order messages valid new stored]
    constructor
    · rintro ⟨log, rest, -, sorted, serves⟩
      exact ⟨rest, sorted, serves⟩
    · rintro ⟨rest, sorted, serves⟩
      exact ⟨_, rest, rfl, sorted, serves⟩

/-- A row of filters that cannot be read hides no other row unless it blocks. A query gives exactly
the filters that its rows define, in the order of their ids; and if there is a row that blocks, it
ends with the fault of the first such row. Only a name that cannot be encoded is not looked for. In
the first case the rules can be read and new messages are sorted with all of them, and in the second
neither can be done. -/
theorem filters_load_unless_blocked (filters : o.filters = some ft) (messages : o.messages = some t)
    (numbered : ft.Numbered) (order : o.outages = []) :
    (Answers ft.rows (allFilters o.filters) ∧ Answers ft.enabledRows (enabledFilters o.filters) ∧
      (∀ name, Text.encodable name = true →
        ∃ answer, Answers (ft.rows.filter (·.name = name)) answer ∧
          Store.filterNamed o.filters name = answer.map List.head?) ∧
      ∀ name, Text.encodable name = false →
        Store.filterNamed o.filters name = .error (.value (.unencodable name))) ∧
    ((∀ row ∈ ft.enabledRows, ¬ row.Blocked) → ∃ rules, Lists ft.enabledRows rules ∧
      Sorts c o t rules) ∧
    ∀ e, FirstBlocks ft.enabledRows e → Stalls c o t e := by
  have enabled : Answers ft.enabledRows (enabledFilters o.filters) := by
    rw [filters]
    exact answers_loadAll (numbered.ascending.filter _)
  refine ⟨⟨?_, enabled, fun name encodable => ?_, fun name unencodable => ?_⟩, fun unblocked => ?_,
    fun e blocks => ?_⟩
  · rw [filters]
    exact answers_loadAll numbered.ascending
  · rw [filters]
    exact ⟨_, answers_loadAll (numbered.ascending.filter _), filterNamed_of_encodable encodable⟩
  · rw [filters]
    exact filterNamed_of_unencodable unencodable
  · obtain ⟨rules, query, lists⟩ := enabled.listed unblocked
    obtain rfl : rules = ft.enabled := by
      rw [filters] at query
      exact eq_of_loadAll query
    exact ⟨_, lists, sorts_of_query messages order query numbered.length_enabled⟩
  · have foreign : e.isStore = false := by
      obtain ⟨before, row, after, -, -, blocks⟩ := blocks
      exact blocks.foreign
    exact stalls_of_query messages order ((enabled.blocked e).mpr blocks) foreign

namespace Sample

open Desk.Sample

/-- A filter, a row that is malformed, and one whose actions are not an object, which may be
enabled. -/
def littered (odd : Bool) : FilterTable where
  rows := [
    ⟨1, "greeting", .int 1, .int 0, .null, .written (.obj greeting.definition)⟩,
    ⟨2, "scrap", .int 1, .int 0, .null, .foreign "not json"⟩,
    ⟨3, "odd", .ofBool odd, .int 0, .null, .foreign "\x7b\"actions\": \"none\"\x7d"⟩]
  lastId := 3

/-- The rows have ids of their own. -/
lemma numbered_littered {odd : Bool} : (littered odd).Numbered :=
  ⟨by simp [littered], by simp [littered], by cases odd <;> decide +kernel⟩

end Sample

open Desk.Sample in
/-- The row whose actions are not an object blocks the desk as long as it is enabled, and after that
still keeps the filters from being listed; the row that is malformed does neither. -/
theorem filters_load_beside_scrap :
    Stalls desk { filters := some (Sample.littered true) } {} (.missingPart "str" "get") ∧
    Sorts desk { filters := some (Sample.littered false) } {} [greeting] ∧
    FirstBlocks (Sample.littered false).rows (.missingPart "str" "get") := by
  obtain ⟨⟨-, enabled, -⟩, -, stalls⟩ := filters_load_unless_blocked (c := desk)
    (o := { filters := some (Sample.littered true) }) rfl rfl Sample.numbered_littered rfl
  obtain ⟨⟨all, -, -⟩, sorts, -⟩ := filters_load_unless_blocked (c := desk)
    (o := { filters := some (Sample.littered false) }) rfl rfl Sample.numbered_littered rfl
  refine ⟨stalls _ ((enabled.blocked _).mp (by decide +kernel)), ?_,
    (all.blocked _).mp (by decide +kernel)⟩
  have loaded : loadAll (Sample.littered false).enabledRows = .ok [greeting] := by decide +kernel
  obtain ⟨rules, -, sorted⟩ := sorts (unblocked_of_loadAll loaded)
  -- the rules are those that are loaded
  obtain ⟨-, read⟩ :=
    (runs_carryOut_refresh_iff rfl).mp ((sorted.refresh [] _ _).mpr ⟨rfl, rfl, rfl⟩)
  have same : Office.refreshed { filters := some (Sample.littered false) } =
      (.ok [greeting],
        { filters := some (Sample.littered false), snapshot := [greeting], loaded := true }) := by
    decide +kernel
  cases same.symm.trans read
  exact sorted

end Office

end ChatTriage
