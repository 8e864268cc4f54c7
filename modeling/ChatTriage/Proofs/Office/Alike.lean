import ChatTriage.Proofs.Office.Loop
import ChatTriage.Proofs.Office.Outsiders
import ChatTriage.Proofs.Store.Undated

/-!
# Offices that differ in dates

Two offices are alike when their tables are the same, the dates of matches apart. What the clock
tells gets into those dates and nowhere else, so that requests of alike offices are answered alike
and leave them alike; `Alongside` says so of two programs, and is built up for a sequence from its
parts.
-/

namespace ChatTriage

namespace Office

open Store (FilterTable)

variable {α β γ δ : Type} {ch : Channels} {o o' p p' : Office} {m : Message}

/-- The tables of two offices are the same but for the dates of matches, and can be read and
written. -/
structure Alike (o p : Office) : Prop where
  outages : o.outages = [] ∧ p.outages = []
  messages : o.messages = p.messages
  filters : ∃ t u : FilterTable, o.filters = some t ∧ p.filters = some u ∧ t.Loads ∧ u.Loads ∧
    t.undated = u.undated

/-- Filters that differ in their dates. -/
def SameFilters (fs gs : List Filter) : Prop :=
  fs.map Filter.undated = gs.map Filter.undated

/-- Queries that do not look at dates find the same filters in both offices. -/
lemma Alike.query {select : FilterTable → List Store.FilterRow} (alike : Alike o p)
    (blind : FilterTable.Blind select) :
    ∃ fs gs, Store.queryFilters o.filters select = .ok fs ∧
      Store.queryFilters p.filters select = .ok gs ∧
      SameFilters fs gs ∧ (∀ f ∈ fs, f.Regular) ∧ ∀ g ∈ gs, g.Regular := by
  obtain ⟨-, -, t, u, here, there, loads, loadsToo, same⟩ := alike
  obtain ⟨fs, found, regular, bare⟩ := loads.query blind
  obtain ⟨gs, foundToo, regularToo, bareToo⟩ := loadsToo.query blind
  rw [same] at bare
  exact ⟨fs, gs, here ▸ found, there ▸ foundToo, Except.ok.inj (bare.symm.trans bareToo),
    regular, regularToo⟩

/-- Two programs that are carried out in alike offices leave them alike and come to related ends. -/
def Alongside (ch : Channels) (R : α → β → Prop) (d : Dialogue Desk.service α)
    (e : Dialogue Desk.service β) : Prop :=
  ∀ o p, Alike o p → ∀ a o' b p', Proceeds ch o d o' (.done a) → Proceeds ch p e p' (.done b) →
    Alike o' p' ∧ R a b

/-- A dialogue that is done stays as it is. -/
lemma proceeds_done_iff {a b : α} : Proceeds ch o (.done a) o' (.done b) ↔ b = a ∧ o' = o := by
  constructor
  · rintro ⟨log, w, reaches, serves, -⟩
    obtain ⟨rfl, same⟩ := Dialogue.reaches_of_done_iff.mp reaches
    cases serves
    cases same
    exact ⟨rfl, rfl⟩
  · rintro ⟨rfl, rfl⟩
    exact ⟨[], [], .here, .nil, fun x member => absurd member List.not_mem_nil⟩

/-- A dialogue in two parts proceeds through the first. -/
lemma proceeds_bind {d : Dialogue Desk.service α} {f : α → Dialogue Desk.service β} {b : β}
    (proceeds : Proceeds ch o (d >>= f) o' (.done b)) :
    ∃ a o₁, Proceeds ch o d o₁ (.done a) ∧ Proceeds ch o₁ (f a) o' (.done b) := by
  obtain ⟨log, w, reaches, serves, tells⟩ := proceeds
  obtain ⟨a, log₁, log₂, rfl, first, second⟩ :=
    Dialogue.runs_bind_iff.mp (Dialogue.reaches_done_iff.mp reaches)
  obtain ⟨o₁, w₁, w₂, rfl, serves₁, serves₂⟩ := serves_append_iff.mp serves
  obtain ⟨tells₁, tells₂⟩ := List.forall_mem_append.mp tells
  exact ⟨a, o₁, ⟨log₁, w₁, Dialogue.reaches_done_iff.mpr first, serves₁, tells₁⟩,
    ⟨log₂, w₂, Dialogue.reaches_done_iff.mpr second, serves₂, tells₂⟩⟩

/-- A request proceeds to its answer. -/
lemma proceeds_request {q : Desk.Request} {x : q.Answer}
    (proceeds : Proceeds ch o (Dialogue.request (S := Desk.service) q) o' (.done x)) :
    ∃ w, Act.Runs (answer q) o w x o' ∧ ch.Tells ⟨q, x⟩ := by
  obtain ⟨log, w, reaches, serves, tells⟩ := proceeds
  obtain rfl := Dialogue.runs_request_iff.mp (Dialogue.reaches_done_iff.mp reaches)
  exact ⟨w, serves_one_iff.mp serves, tells _ List.mem_cons_self⟩

namespace Alongside

/-- Related results are alongside each other. -/
lemma done {R : α → β → Prop} {a : α} {b : β} (related : R a b) :
    Alongside ch R (.done a) (.done b) := by
  intro o p alike a' o' b' p' first second
  obtain ⟨rfl, rfl⟩ := proceeds_done_iff.mp first
  obtain ⟨rfl, rfl⟩ := proceeds_done_iff.mp second
  exact ⟨alike, related⟩

/-- Dialogues alongside each other may go on alongside. -/
lemma bind {R : α → β → Prop} {R' : γ → δ → Prop} {d : Dialogue Desk.service α}
    {e : Dialogue Desk.service β} {f : α → Dialogue Desk.service γ}
    {g : β → Dialogue Desk.service δ}
    (first : Alongside ch R d e) (second : ∀ a b, R a b → Alongside ch R' (f a) (g b)) :
    Alongside ch R' (d >>= f) (e >>= g) := by
  intro o p alike c o' c' p' here there
  obtain ⟨a, o₁, begun, ended⟩ := proceeds_bind here
  obtain ⟨b, p₁, begunToo, endedToo⟩ := proceeds_bind there
  obtain ⟨still, related⟩ := first o p alike a o₁ b p₁ begun begunToo
  exact second a b related o₁ p₁ still c o' c' p' ended endedToo

end Alongside

/-- Two requests of alike offices that are answered alike. -/
def Answered (ch : Channels) (q r : Desk.Request) (R : q.Answer → r.Answer → Prop) : Prop :=
  ∀ o p w w' x y o' p', Alike o p → Act.Runs (answer q) o w x o' → Act.Runs (answer r) p w' y p' →
    ch.Tells ⟨q, x⟩ → ch.Tells ⟨r, y⟩ → Alike o' p' ∧ R x y

/-- Requests that are answered alike are alongside each other. -/
lemma Answered.alongside {q r : Desk.Request} {R : q.Answer → r.Answer → Prop}
    (answered : Answered ch q r R) :
    Alongside ch R (Dialogue.request (S := Desk.service) q)
      (Dialogue.request (S := Desk.service) r) := by
  intro o p alike x o' y p' here there
  obtain ⟨w, run, tells⟩ := proceeds_request here
  obtain ⟨w', runToo, tellsToo⟩ := proceeds_request there
  exact answered o p w w' x y o' p' alike run runToo tells tellsToo

/-- Both went well with related values, or both failed with the same fault. -/
inductive Paired (R : α → β → Prop) : Except Fault α → Except Fault β → Prop where
  | ok {a b} :
    R a b →
    Paired R (.ok a) (.ok b)
  | error {e} :
    Paired R (.error e) (.error e)

/-- What is printed keeps offices alike. -/
lemma Alike.of_lines (alike : Alike o p) (ours : ∃ lines, o' = { o with lines })
    (theirs : ∃ lines, p' = { p with lines }) : Alike o' p' := by
  obtain ⟨lines, rfl⟩ := ours
  obtain ⟨lines', rfl⟩ := theirs
  exact ⟨alike.outages, alike.messages, alike.filters⟩

/-- The answers to two queries are filters that differ in their dates. -/
def SameFound (x y : Except Fault (List Filter)) : Prop :=
  ∃ fs gs, x = .ok fs ∧ y = .ok gs ∧ SameFilters fs gs

/-- So they do when they are asked of the office. -/
lemma Alike.sameFound {operation : Operation} {select : FilterTable → List Store.FilterRow}
    (alike : Alike o p) (blind : FilterTable.Blind select) :
    SameFound (o.unlessOut operation (Store.queryFilters o.filters select))
      (p.unlessOut operation (Store.queryFilters p.filters select)) := by
  rw [unlessOut_eq alike.outages.1, unlessOut_eq alike.outages.2]
  obtain ⟨fs, gs, found, foundToo, same, -⟩ := alike.query blind
  exact ⟨fs, gs, found, foundToo, same⟩

/-- The enabled filters are given alike. -/
lemma answered_enabledFilters : Answered ch .enabledFilters .enabledFilters SameFound := by
  intro o p w w' x y o' p' alike run runToo tells tellsToo
  obtain ⟨-, rfl, rfl⟩ := Act.runs_pure_iff.mp run
  obtain ⟨-, rfl, rfl⟩ := Act.runs_pure_iff.mp runToo
  have blind : FilterTable.Blind FilterTable.enabledRows := FilterTable.blind_filter fun _ => rfl
  exact ⟨alike, alike.sameFound blind⟩

/-- All filters are given alike. -/
lemma answered_allFilters : Answered ch .allFilters .allFilters SameFound := by
  intro o p w w' x y o' p' alike run runToo tells tellsToo
  obtain ⟨-, rfl, rfl⟩ := Act.runs_pure_iff.mp run
  obtain ⟨-, rfl, rfl⟩ := Act.runs_pure_iff.mp runToo
  exact ⟨alike, alike.sameFound FilterTable.blind_rows⟩

/-- No filter was looked for or found with a name, or filters that can be saved and differ in their
dates. -/
inductive SameNamed : Except Fault (Option Filter) → Except Fault (Option Filter) → Prop where
  | refused {e} :
    SameNamed (.error e) (.error e)
  | none :
    SameNamed (.ok none) (.ok none)
  | some {f g : Filter} :
    f.Regular →
    g.Regular →
    f.undated = g.undated →
    SameNamed (.ok (some f)) (.ok (some g))

/-- The filter with a name is given alike. -/
lemma answered_filterNamed {name : String} :
    Answered ch (.filterNamed name) (.filterNamed name) SameNamed := by
  intro o p w w' x y o' p' alike run runToo tells tellsToo
  obtain ⟨-, rfl, rfl⟩ := Act.runs_pure_iff.mp run
  obtain ⟨-, rfl, rfl⟩ := Act.runs_pure_iff.mp runToo
  obtain ⟨fs, gs, found, foundToo, same, regular, regularToo⟩ :=
    alike.query (FilterTable.blind_filter (p := fun r => r.name = name) fun _ => rfl)
  refine ⟨alike, ?_⟩
  rw [filterNamed, filterNamed, unlessOut_eq alike.outages.1, unlessOut_eq alike.outages.2]
  cases encodable : Text.encodable name with
  | false =>
    obtain ⟨t, u, here, there, -⟩ := alike.filters
    rw [here, there, Store.filterNamed_of_unencodable encodable,
      Store.filterNamed_of_unencodable encodable]
    exact .refused
  | true =>
    rw [Store.filterNamed_of_encodable encodable, Store.filterNamed_of_encodable encodable, found,
      foundToo]
    cases fs with
    | nil =>
      obtain rfl := List.map_eq_nil_iff.mp same.symm
      exact .none
    | cons f fs =>
      obtain ⟨g, gs, rfl, undated, -⟩ := List.map_eq_cons_iff.mp same.symm
      exact .some (regular f List.mem_cons_self) (regularToo g List.mem_cons_self) undated.symm

/-- The clock tells times that can be written. -/
lemma answered_now : Answered ch .now .now fun x y => DateTime.Legible x ∧ DateTime.Legible y := by
  intro o p w w' x y o' p' alike run runToo tells tellsToo
  obtain ⟨-, rfl⟩ := Act.runs_ask_iff.mp run
  obtain ⟨-, rfl⟩ := Act.runs_ask_iff.mp runToo
  exact ⟨alike, tells, tellsToo⟩

/-- Snapshots are kept alike. -/
lemma answered_keepSnapshot {fs gs : List Filter} :
    Answered ch (.keepSnapshot fs) (.keepSnapshot gs) fun _ _ => True := by
  intro o p w w' x y o' p' alike run runToo tells tellsToo
  obtain ⟨-, same⟩ := Dialogue.runs_done_iff.mp run
  obtain ⟨-, sameToo⟩ := Dialogue.runs_done_iff.mp runToo
  cases same
  cases sameToo
  exact ⟨⟨alike.outages, alike.messages, alike.filters⟩, trivial⟩

/-- A route tells alike whether it is open. -/
lemma answered_available {route : Nat} :
    Answered ch (.available route) (.available route) fun x y => ∃ usable, x = Except.ok usable ∧
      y = Except.ok usable := by
  intro o p w w' x y o' p' alike run runToo tells tellsToo
  have ours := same_of_available run
  have theirs := same_of_available runToo
  exact ⟨alike.of_lines ⟨o.lines, ours⟩ ⟨p.lines, theirs⟩, ch.isOpen route, tells, tellsToo⟩

/-- What is known of two results is known of their values, or both failed with the same fault. -/
lemma paired_of_map {k : α → γ} {l : β → γ} {x : Except Fault α} {y : Except Fault β}
    (same : x.map k = y.map l) : Paired (fun a b => k a = l b) x y := by
  cases x with
  | ok a =>
    cases y with
    | ok b => exact .ok (Except.ok.inj same)
    | error e => cases same
  | error e =>
    cases y with
    | ok b => cases same
    | error e' =>
      cases same
      exact .error

/-- A route sends alike. -/
lemma answered_send {route : Nat} {destination text : String} :
    Answered ch (.send route destination text) (.send route destination text)
      (Paired fun _ _ => () = ()) := by
  intro o p w w' x y o' p' alike run runToo tells tellsToo
  exact ⟨alike.of_lines (lines_of_send run) (lines_of_send runToo),
    paired_of_map (tells.trans tellsToo.symm)⟩

/-- A route forwards alike. -/
lemma answered_forward {route : Nat} {destination : String} {label : Option String} :
    Answered ch (.forward route m destination label) (.forward route m destination label)
      (Paired fun _ _ => () = ()) := by
  intro o p w w' x y o' p' alike run runToo tells tellsToo
  exact ⟨alike.of_lines (lines_of_forward run) (lines_of_forward runToo),
    paired_of_map (tells.trans tellsToo.symm)⟩

/-- Creating a message hangs on the table of messages and the outages alone. -/
lemma createMessage_of_same (messages : o.messages = p.messages) (outages : o.outages = p.outages) :
    ∃ x table, o.createMessage m = (x, { o with messages := table }) ∧
      p.createMessage m = (x, { p with messages := table }) := by
  cases o
  cases p
  subst messages outages
  unfold createMessage unlessOut
  simp only
  split
  · exact ⟨_, _, rfl, rfl⟩
  · exact ⟨_, _, rfl, rfl⟩

/-- So does saving one. -/
lemma saveMessage_of_same (messages : o.messages = p.messages) (outages : o.outages = p.outages) :
    ∃ x table, o.saveMessage m = (x, { o with messages := table }) ∧
      p.saveMessage m = (x, { p with messages := table }) := by
  cases o
  cases p
  subst messages outages
  unfold saveMessage getMessage unlessOut
  simp only
  split
  · exact ⟨_, _, rfl, rfl⟩
  · exact ⟨_, _, rfl, rfl⟩
  · exact ⟨_, _, rfl, rfl⟩

/-- Messages are created alike. -/
lemma answered_createMessage : Answered ch (.createMessage m) (.createMessage m) (· = ·) := by
  intro o p w w' x y o' p' alike run runToo tells tellsToo
  obtain ⟨ours, theirs⟩ := alike.outages
  obtain ⟨z, table, here, there⟩ :=
    createMessage_of_same (m := m) alike.messages (ours.trans theirs.symm)
  cases here.symm.trans (answer_createMessage_iff.mp run).2
  cases there.symm.trans (answer_createMessage_iff.mp runToo).2
  exact ⟨⟨alike.outages, rfl, alike.filters⟩, rfl⟩

/-- Messages are saved alike. -/
lemma answered_saveMessage : Answered ch (.saveMessage m) (.saveMessage m) (· = ·) := by
  intro o p w w' x y o' p' alike run runToo tells tellsToo
  obtain ⟨ours, theirs⟩ := alike.outages
  obtain ⟨z, table, here, there⟩ :=
    saveMessage_of_same (m := m) alike.messages (ours.trans theirs.symm)
  cases here.symm.trans (answer_saveMessage_iff.mp run).2
  cases there.symm.trans (answer_saveMessage_iff.mp runToo).2
  exact ⟨⟨alike.outages, rfl, alike.filters⟩, rfl⟩

/-- Stats are stored in an office in order when they can be put into the statement. -/
lemma updateFilter_eq {t : FilterTable} {id : Json} {stats : FilterStats} (outages : o.outages = [])
    (table : o.filters = some t) : o.updateFilter id [.ofStats stats] =
      match (do
        let _ ← Store.Cell.bind Store.filterUpdateFault 1 (.int stats.matched)
        Store.Cell.bind Store.filterUpdateFault 3 id) with
      | .ok cell => (.ok (), { o with filters := some (t.count cell stats) })
      | .error e => (.error e, o) := by
  rw [updateFilter, unlessOut_eq outages, table, Store.updateFilter_ofStats]
  cases Store.Cell.bind Store.filterUpdateFault 1 (.int stats.matched) with
  | error e => rfl
  | ok _ => cases Store.Cell.bind Store.filterUpdateFault 3 id <;> rfl

/-- Stats are stored alike whatever their dates are. -/
lemma answered_storeStats {id : Json} {matched : Int} {date date' : DateTime}
    (legible : date.Legible)
    (legibleToo : date'.Legible) :
    Answered ch (.storeStats id ⟨matched, some date⟩) (.storeStats id ⟨matched, some date'⟩)
      (· = ·) := by
  intro o p w w' x y o' p' alike run runToo tells tellsToo
  have still := alike
  obtain ⟨⟨ours, theirs⟩, messages, t, u, here, there, loads, loadsToo, tables⟩ := alike
  have first := (Act.runs_change_iff.mp run).2.trans (updateFilter_eq ours here)
  have second := (Act.runs_change_iff.mp runToo).2.trans (updateFilter_eq theirs there)
  split at first
  · rename_i cell bound
    rw [bound] at second
    cases first
    cases second
    -- the clock may have told the two offices different times
    have counted : (t.count cell ⟨matched, some date⟩).undated =
        (u.count cell ⟨matched, some date'⟩).undated := by
      rw [FilterTable.count_undated, FilterTable.count_undated, tables]
    exact ⟨⟨⟨ours, theirs⟩, messages, _, _, rfl, rfl, loads.count legible,
      loadsToo.count legibleToo, counted⟩, rfl⟩
  · rename_i e bound
    rw [bound] at second
    cases first
    cases second
    exact ⟨still, rfl⟩

/-- Filters that differ in their dates are stored alike. -/
lemma answered_storeFilter {f g : Filter} (regular : f.Regular) (regularToo : g.Regular)
    (same : f.undated = g.undated) :
    Answered ch (.storeFilter f) (.storeFilter g)
      (Paired fun a b => Filter.undated a = Filter.undated b) := by
  intro o p w w' x y o' p' alike run runToo tells tellsToo
  obtain ⟨⟨ours, theirs⟩, messages, t, u, here, there, loads, loadsToo, tables⟩ := alike
  obtain ⟨t', result, saved, later, bare⟩ := loads.saveFilter regular
  obtain ⟨u', result', savedToo, laterToo, bareToo⟩ := loadsToo.saveFilter regularToo
  rw [tables, same, bareToo] at bare
  obtain ⟨tables', results⟩ := Prod.ext_iff.mp bare
  obtain ⟨-, first⟩ := Act.runs_change_iff.mp run
  obtain ⟨-, second⟩ := Act.runs_change_iff.mp runToo
  have ours' : o.saveFilter f = (result, { o with filters := some t' }) := by
    simp only [saveFilter, unlessOut_eq ours, here, saved]
  have theirs' : p.saveFilter g = (result', { p with filters := some u' }) := by
    simp only [saveFilter, unlessOut_eq theirs, there, savedToo]
  cases first.trans ours'
  cases second.trans theirs'
  exact ⟨⟨⟨ours, theirs⟩, messages, t', u', rfl, rfl, later, laterToo,
    (Option.some.inj tables').symm⟩, paired_of_map results.symm⟩

end Office

end ChatTriage
