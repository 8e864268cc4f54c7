import ChatTriage.Proofs.Desk.Ingest
import ChatTriage.Proofs.Office.Interleaved
import ChatTriage.Proofs.Office.Malformed
import ChatTriage.Proofs.Office.Outsiders

/-!
# Deliveries that come again

A provider delivers again what it does not know to have arrived. Every message of a delivery without
problems has a row once the delivery was ingested, whether it was taken in then or before, and
whatever copies of it were among the others; so when the delivery comes again its messages are
turned away before anything but their rows is asked for. Only a message with a text that cannot be
encoded gets no row: it ends the delivery, each time that this comes.
-/

namespace ChatTriage

namespace Store.FilterTable

variable {t : FilterTable} {id : Cell} {stats : FilterStats}

/-- Whatever stats are stored, the rows can be read afterwards. -/
lemma Loads.counted (loads : t.Loads) : (t.count id stats).Loads := by
  obtain ⟨date, dated⟩ := Cell.exists_ofJson_ofDate stats.lastMatch
  refine loads.updateRows fun r g loaded => ⟨{ g with stats := ⟨stats.matched, date⟩ }, ?_⟩
  exact r.load_restated loaded rfl dated

/-- Stats have no part in what is encoded of a filter. -/
lemma Encoded.counted (encoded : t.Encoded) (loads : t.Loads) : (t.count id stats).Encoded := by
  intro r member f loaded
  obtain ⟨s, old, rfl⟩ := List.mem_map.mp member
  split at loaded
  · obtain ⟨g, before⟩ := loads s old
    obtain ⟨date, dated⟩ := Cell.exists_ofJson_ofDate stats.lastMatch
    have restated : (s.counted stats).load = .ok { g with stats := ⟨stats.matched, date⟩ } :=
      s.load_restated before rfl dated
    cases restated.symm.trans loaded
    exact encoded s old g before
  · exact encoded s old f loaded

/-- The tags of enabled filters can be encoded. -/
lemma Encoded.tags {f : Filter} (encoded : t.Encoded) (member : f ∈ t.enabled) :
    f.actions.addTags.all Text.encodable = true := by
  obtain ⟨r, enabled, loaded⟩ := List.mem_filterMap.mp member
  cases load : r.load with
  | error e =>
    rw [load] at loaded
    cases loaded
  | ok g =>
    rw [load] at loaded
    cases loaded
    exact Filter.encodable_tags (encoded r (List.mem_filter.mp enabled).1 f load)

/-- Counting a match keeps the ids. -/
lemma Numbered.count (numbered : t.Numbered) : (t.count id stats).Numbered := by
  have same (r : FilterRow) : (if id.isId r.id then r.counted stats else r).id = r.id := by
    split <;> rfl
  refine ⟨List.pairwise_map.mpr ?_, List.forall_mem_map.mpr fun r member => ?_,
    List.forall_mem_map.mpr fun r member => ?_⟩
  · simpa only [same] using numbered.ascending
  · rw [same]
    exact numbered.positive r member
  · rw [same]
    exact numbered.fits r member

end Store.FilterTable

namespace Office

variable {c : Desk.Config} {o o' : Office} {m m' : Message} {log : Desk.Log} {world : World}

/-- The stores of an office work: nothing is out of order, there is a table of messages, and every
row of the table of filters can be read, as a filter that can be encoded. -/
structure Works (o : Office) : Prop where
  outages : o.outages = []
  messages : ∃ t, o.messages = some t
  filters : ∃ t, o.filters = some t ∧ t.Loads ∧ t.Numbered ∧ t.Encoded

namespace Works

/-- Stores that work still do after whatever is asked for a message. -/
lemma of_answer {q : Desk.Request} {x : q.Answer} (works : o.Works) (orderless : q.isOrder = false)
    (answered : Act.Runs (answer q) o world x o') : o'.Works := by
  obtain ⟨outages, ⟨t, messages⟩, ft, filters, loads, numbered, encoded⟩ := works
  have framed := framed_of_answer answered
  refine ⟨framed.outages.trans outages, ?_, ?_⟩
  · cases writes : q.writesMessages with
    | false => exact ⟨t, (framed.messages writes).trans messages⟩
    | true =>
      cases q with
      | createMessage m =>
        obtain ⟨-, created⟩ := answer_createMessage_iff.mp answered
        cases x with
        | error e => exact ⟨t, same_of_createMessage created ▸ messages⟩
        | ok u =>
          obtain ⟨-, _, _, -, -, -, rfl⟩ := createMessage_eq_ok_iff.mp created
          exact ⟨_, rfl⟩
      | saveMessage m =>
        obtain ⟨-, saved⟩ := answer_saveMessage_iff.mp answered
        cases x with
        | error e => exact ⟨t, same_of_saveMessage saved ▸ messages⟩
        | ok u =>
          obtain ⟨-, _, _, -, -, -, -, rfl⟩ := saveMessage_eq_ok_iff.mp saved
          exact ⟨_, rfl⟩
      | _ => cases writes
  · cases writes : q.writesFilters with
    | false => exact ⟨ft, (framed.filters writes).trans filters, loads, numbered, encoded⟩
    | true =>
      cases q with
      | storeFilter f => cases orderless
      | storeStats id stats =>
        obtain ⟨-, same⟩ := Act.runs_change_iff.mp answered
        obtain ⟨e, failed⟩ | ⟨u, cell, table, -, stored⟩ := o.updateFilter_ofStats id stats
        · cases same.trans failed
          exact ⟨ft, filters, loads, numbered, encoded⟩
        · cases same.trans stored
          cases filters.symm.trans table
          exact ⟨_, rfl, loads.counted, numbered.count, encoded.counted loads⟩
      | _ => cases writes

/-- An office that works still does when a log without orders was served. -/
lemma of_serves (works : o.Works) (orderless : ∀ x ∈ log, x.request.isOrder = false)
    (serves : Serves o log world o') : o'.Works := by
  induction serves with
  | nil => exact works
  | cons answered _ ih =>
    obtain ⟨first, rest⟩ := List.forall_mem_cons.mp orderless
    exact ih (works.of_answer first answered) rest

end Works

/-- The rules are refreshed from the table. -/
lemma Works.refreshed {t : Store.FilterTable} (loads : t.Loads) (filters : o.filters = some t) :
    o.refreshed.1 = .ok t.enabled := by
  have query : Store.enabledFilters o.filters = .ok t.enabled := by
    rw [filters, t.enabledFilters_eq fun r member => loads r (List.mem_filter.mp member).1]
  exact congrArg Prod.fst (refreshed_of_query query)

/-- A message that is not refused has a date. -/
lemma dated_of_unrefused (valid : m.draft.refusal? = none) :
    ∃ document, m.toJson = .ok document := by
  have problems : m.draft.problems = [] := by
    unfold Draft.refusal? at valid
    cases problems : m.draft.problems with
    | nil => rfl
    | cons problem problems =>
      rw [problems] at valid
      cases valid
  obtain ⟨date, dates⟩ := Message.dated_of_valid problems
  exact ⟨_, Message.toJson_eq_ok_iff.mpr ⟨date, dates, rfl⟩⟩

/-- A message is not refused, but no table has room for it, because of a text that cannot be
encoded. -/
structure Unplaced (m : Message) (e : Fault) : Prop where
  valid : m.draft.refusal? = none
  fault : ∃ text, e = .value (.unencodable text)
  refused : ∀ t, Store.createMessage (some t) m = .error e

/-- A message that is not refused can be stored, or has no place in any table. -/
lemma stored_or_unplaced (valid : m.draft.refusal? = none) :
    (∃ document, m.stored = .ok document) ∨ ∃ e, Unplaced m e := by
  obtain ⟨document, dated⟩ := dated_of_unrefused valid
  cases encodable : document.encodable with
  | true => exact .inl ⟨document, Message.stored_eq_ok_iff.mpr ⟨dated, encodable⟩⟩
  | false =>
    obtain ⟨text, refused⟩ := Store.createMessage_of_unencodable dated encodable
    exact .inr ⟨_, valid, ⟨text, rfl⟩, refused⟩

/-- A message without a place cannot be stored. -/
lemma Unplaced.unstored {e : Fault} (unplaced : Unplaced m e) :
    ¬ ∃ document, m.stored = .ok document := by
  rintro ⟨document, stored⟩
  have created := Store.createMessage_eq (t := {}) stored
  cases (unplaced.refused {}).symm.trans created

/-- It is thrown back. -/
lemma Unplaced.turnedAway {e : Fault} (unplaced : Unplaced m e) :
    Desk.turnedAway m e = .error e := by
  obtain ⟨text, rfl⟩ := unplaced.fault
  rfl

/-- While nothing is out of order, the only row of a message that can be stored which cannot be
created is one that is there. -/
lemma createMessage_eq {t : Store.MessageTable} {document : Json} (order : o.outages = [])
    (messages : o.messages = some t) (stored : m.stored = .ok document) :
    o.createMessage m =
      if (t.row? m.id).isSome then (.error (.duplicate (.messageId m.id)), o)
      else (.ok (), o.listing t m document) := by
  have inOrder : o.outages.lookup .createMessage = none := order ▸ rfl
  unfold createMessage unlessOut
  rw [inOrder, messages, Store.createMessage_eq stored]
  cases (t.row? m.id).isSome <;> rfl

/-- Creating it fails and changes nothing. -/
lemma Unplaced.createMessage {t : Store.MessageTable} {e : Fault} (unplaced : Unplaced m e)
    (order : o.outages = []) (messages : o.messages = some t) :
    o.createMessage m = (.error e, o) := by
  have inOrder : o.outages.lookup .createMessage = none := order ▸ rfl
  unfold Office.createMessage unlessOut
  rw [inOrder, messages]
  simp only [unplaced.refused t]

/-- The rows of messages hang on their table alone. -/
lemma Holds.of_messages {p : Office} {id : String} (holds : o.Holds id)
    (rows : p.messages = o.messages) :
    p.Holds id := by
  obtain ⟨t, messages, found⟩ := holds
  exact ⟨t, rows.trans messages, found⟩

/-- A message that is not refused has a place and a row. -/
def Placed (o : Office) (m : Message) : Prop :=
  m.draft.refusal? = none → (∃ document, m.stored = .ok document) ∧ o.Holds m.id

/-- A message that has a row is a duplicate. -/
lemma Placed.createMessage (placed : o.Placed m) (order : o.outages = [])
    (valid : m.draft.refusal? = none) :
    o.createMessage m = (.error (.duplicate (.messageId m.id)), o) := by
  obtain ⟨⟨document, stored⟩, t, messages, found⟩ := placed valid
  rw [createMessage_eq order messages stored, if_pos found]

/-- A message keeps its place. -/
lemma Placed.of_serves (placed : o.Placed m) (serves : Serves o log world o') : o'.Placed m :=
  fun valid => (placed valid).imp_right fun holds => holds.of_serves serves

/-- A message that is not refused and whose row cannot be created is a duplicate or has no place. -/
lemma Works.uncreated {e : Fault} (works : o.Works) (valid : m.draft.refusal? = none)
    (refused : o.createMessage m = (.error e, o')) :
    (o.Placed m ∧ e = .duplicate (.messageId m.id)) ∨ Unplaced m e := by
  obtain ⟨t, messages⟩ := works.messages
  obtain ⟨document, stored⟩ | ⟨e', unplaced⟩ := stored_or_unplaced valid
  · rw [createMessage_eq works.outages messages stored] at refused
    split at refused
    · rename_i found
      cases refused
      exact .inl ⟨fun _ => ⟨⟨document, stored⟩, t, messages, found⟩, rfl⟩
    · cases refused
  · cases (unplaced.createMessage works.outages messages).symm.trans refused
    exact .inr unplaced

/-- Taking a message in comes to an end without a fault, and a message without problems has a row
then; or the message has no place and is thrown back. -/
lemma Works.process {r : Except Fault Desk.Report} (works : o.Works)
    (received : m.status = .received)
    (run : Desk.Work.Runs (Desk.process c) m log r m') (serves : Serves o log world o')
    (told : log.Forthcoming) :
    o'.Works ∧ ((∃ report, r = .ok report) ∧ o'.Placed m ∨ ∃ e, r = .error e ∧ Unplaced m e) := by
  have orderless : ∀ x ∈ log, x.request.isOrder = false := fun x member =>
    Desk.Request.isOrder_of_takesIn
      ((Dialogue.Within.runs (Desk.process_within m rfl) run).1 x member)
  refine ⟨works.of_serves orderless serves, ?_⟩
  obtain ⟨report, refused, rfl, rfl, -⟩ | ⟨e, valid, rfl, rfl, -⟩ | ⟨rest, valid, rfl, sorted⟩ :=
    Desk.runs_process_iff.mp run
  · exact .inl ⟨⟨report, rfl⟩, fun valid => by cases refused.symm.trans valid⟩
  · obtain ⟨-, created⟩ := answer_createMessage_iff.mp (serves_one_iff.mp serves)
    obtain ⟨placed, rfl⟩ | unplaced := works.uncreated valid created
    · exact .inl ⟨⟨_, rfl⟩, same_of_createMessage created ▸ placed⟩
    · exact .inr ⟨e, unplaced.turnedAway, unplaced⟩
  · obtain ⟨o₁, w₁, w₂, rfl, first, later⟩ := serves_cons_iff.mp serves
    obtain ⟨-, created⟩ := answer_createMessage_iff.mp first
    have row := (holds_of_createMessage created).2
    obtain ⟨-, t, document, -, stored, free, rfl⟩ := createMessage_eq_ok_iff.mp created
    obtain ⟨ft, filters, loads, numbered, encoded⟩ := works.filters
    have held : Held { o with messages := some (t.add (.fresh m document)) } t m.id 0 :=
      ⟨free, works.outages, _, rfl, rfl, rfl⟩
    obtain ⟨_, report, rfl, -⟩ :=
      held.sort_found (m := { m with version := .count 0 }) rfl received stored
        (refreshed loads filters) numbered.length_enabled
        (fun f member => encoded.tags (List.mem_filter.mp member).1) sorted later
        (List.forall_mem_cons.mp told).2
    exact .inl ⟨⟨report, rfl⟩, fun _ => ⟨⟨document, stored⟩, row.of_serves later⟩⟩

/-- A message that has a row is turned away, and so is one that has problems; nothing is left
behind. -/
lemma process_again {r : Except Fault Desk.Report} (order : o.outages = []) (placed : o.Placed m)
    (run : Desk.Work.Runs (Desk.process c) m log r m') (serves : Serves o log world o') :
    (∃ report, r = .ok report) ∧ o' = o ∧ world = [] := by
  obtain ⟨report, -, rfl, rfl, -⟩ | ⟨e, valid, rfl, rfl, -⟩ | ⟨rest, valid, rfl, -⟩ :=
    Desk.runs_process_iff.mp run
  · cases serves
    exact ⟨⟨report, rfl⟩, rfl, rfl⟩
  · obtain ⟨rfl, created⟩ := answer_createMessage_iff.mp (serves_one_iff.mp serves)
    cases (placed.createMessage order valid).symm.trans created
    exact ⟨⟨_, rfl⟩, rfl, rfl⟩
  · obtain ⟨o₁, w₁, w₂, rfl, first, -⟩ := serves_cons_iff.mp serves
    obtain ⟨-, created⟩ := answer_createMessage_iff.mp first
    exact absurd (placed valid).2 (holds_of_createMessage created).1

/-- A message in its place can be processed again. -/
lemma exists_process_again (order : o.outages = []) (placed : o.Placed m) :
    ∃ log report, Desk.Work.Runs (Desk.process c) m log (.ok report) m ∧ Serves o log [] o := by
  cases refusal : m.draft.refusal? with
  | some report =>
      exact ⟨[], report, Desk.runs_process_iff.mpr (.inl ⟨report, refusal, rfl, rfl, rfl⟩), .nil⟩
  | none =>
    have refused := placed.createMessage order refusal
    refine ⟨[⟨.createMessage m, .error (.duplicate (.messageId m.id))⟩],
      .refused m.draft.reportedId .duplicate,
      Desk.runs_process_iff.mpr (.inr (.inl ⟨_, refusal, rfl, rfl, rfl⟩)), ?_⟩
    exact serves_one_iff.mpr (answer_createMessage_iff.mpr ⟨rfl, refused⟩)

/-- A message that has no place is thrown back, and nothing is left behind. -/
lemma Unplaced.runs_process_iff {t : Store.MessageTable} {e : Fault}
    {r : Except Fault Desk.Report} (unplaced : Unplaced m e) (order : o.outages = [])
    (messages : o.messages = some t) :
    Desk.Work.Runs (Desk.process c) m log r m' ∧ Serves o log world o' ↔
      log = [⟨.createMessage m, .error e⟩] ∧ r = .error e ∧ m' = m ∧ world = [] ∧ o' = o := by
  have refused := unplaced.createMessage order messages
  rw [Desk.runs_process_iff, unplaced.valid]
  constructor
  · rintro ⟨⟨_, impossible, -⟩ | ⟨e', -, rfl, rfl, rfl⟩ | ⟨rest, -, rfl, -⟩, serves⟩
    · cases impossible
    · obtain ⟨rfl, created⟩ := answer_createMessage_iff.mp (serves_one_iff.mp serves)
      cases refused.symm.trans created
      exact ⟨rfl, unplaced.turnedAway, rfl, rfl, rfl⟩
    · obtain ⟨o₁, w₁, w₂, rfl, first, -⟩ := serves_cons_iff.mp serves
      obtain ⟨-, created⟩ := answer_createMessage_iff.mp first
      cases refused.symm.trans created
  · rintro ⟨rfl, rfl, rfl, rfl, rfl⟩
    exact ⟨.inr (.inl ⟨e, rfl, rfl, unplaced.turnedAway.symm, rfl⟩),
      serves_one_iff.mpr (answer_createMessage_iff.mpr ⟨rfl, refused⟩)⟩

/-- How the messages of a delivery stand in an office, and how it ends there: all of them are
placed, or those before one that has no place. -/
inductive Delivered (o : Office) : List Message → Except Fault Unit → Prop where
  | done :
    Delivered o [] (.ok ())
  | placed {m messages ending} :
    o.Placed m →
    Delivered o messages ending →
    Delivered o (m :: messages) ending
  | unplaced {m messages e} :
    Unplaced m e →
    Delivered o (m :: messages) (.error e)

namespace Delivered

variable {messages : List Message} {ending : Except Fault Unit}

/-- What was delivered hangs on the table of messages alone. -/
lemma of_messages {p : Office} (delivered : o.Delivered messages ending)
    (rows : p.messages = o.messages) : p.Delivered messages ending := by
  induction delivered with
  | done => exact .done
  | placed placed _ ih =>
    exact .placed (fun valid => (placed valid).imp_right fun holds => holds.of_messages rows) ih
  | unplaced unplaced => exact .unplaced unplaced

/-- A delivery is ingested to its end when its messages without problems can be stored. -/
lemma ending_iff (delivered : o.Delivered messages ending) :
    ending = .ok () ↔
      ∀ m ∈ messages, m.draft.refusal? = none → ∃ document, m.stored = .ok document := by
  induction delivered with
  | done => simp
  | placed placed _ ih =>
    rw [ih, List.forall_mem_cons]
    exact ⟨fun rest => ⟨fun valid => (placed valid).1, rest⟩, And.right⟩
  | unplaced unplaced =>
    refine ⟨nofun, fun all => ?_⟩
    exact absurd (all _ List.mem_cons_self unplaced.valid) unplaced.unstored

/-- It is a text that cannot be encoded that ends a delivery before. -/
lemma fault {e : Fault} (delivered : o.Delivered messages (.error e)) :
    ∃ text, e = .value (.unencodable text) := by
  generalize ended : Except.error e = ending at delivered
  induction delivered with
  | done => cases ended
  | placed _ _ ih => exact ih ended
  | unplaced unplaced =>
    cases ended
    exact unplaced.fault

end Delivered

/-- Ordinary messages are routed until one has no place, and those before it without problems have
rows afterwards. -/
lemma Works.routes {messages : List Message} {calls : List Desk.Call} {ending : Except Fault Unit}
    (works : o.Works) (ordinary : ∀ m ∈ messages, Desk.Ordinary c m)
    (received : ∀ m ∈ messages, m.status = .received)
    (routes : Desk.Routes c (messages.map .ok) calls ending)
    (serves : Serves o (Desk.asked calls) world o')
    (told : (Desk.asked calls).Forthcoming) :
    o'.Works ∧ o'.Delivered messages ending := by
  induction messages generalizing o world calls with
  | nil =>
    cases routes
    cases serves
    exact ⟨works, .done⟩
  | cons m messages ih =>
    obtain ⟨plain, others⟩ := List.forall_mem_cons.mp ordinary
    obtain ⟨new, later⟩ := List.forall_mem_cons.mp received
    cases routes with
    | @failed _ log e _ failed =>
      rw [Desk.asked, List.flatMap_singleton] at serves told
      obtain ⟨r, m', run, same⟩ := plain.runs_routeMessage_iff.mp failed
      obtain ⟨works, ⟨⟨report, rfl⟩, -⟩ | ⟨e', rfl, unplaced⟩⟩ := works.process new run serves told
      · cases same
      · cases same
        exact ⟨works, .unplaced unplaced⟩
    | @routed _ log _ calls _ routed routes =>
      obtain ⟨r, m', run, same⟩ := plain.runs_routeMessage_iff.mp routed
      obtain ⟨o₁, w₁, w₂, rfl, serves₁, serves₂⟩ := serves_append_iff.mp serves
      obtain ⟨told₁, told₂⟩ := List.forall_mem_append.mp told
      obtain ⟨works, ⟨-, placed⟩ | ⟨e, rfl, -⟩⟩ := works.process new run serves₁ told₁
      · obtain ⟨works, delivered⟩ := ih works others later routes serves₂ told₂
        exact ⟨works, .placed (placed.of_serves serves₂) delivered⟩
      · cases same

/-- Ordinary messages that were delivered are routed to the same end without leaving anything
behind. -/
lemma Delivered.routes_again {t : Store.MessageTable} {messages : List Message}
    {calls : List Desk.Call} {ending ending' : Except Fault Unit} (order : o.outages = [])
    (table : o.messages = some t) (ordinary : ∀ m ∈ messages, Desk.Ordinary c m)
    (delivered : o.Delivered messages ending)
    (routes : Desk.Routes c (messages.map .ok) calls ending')
    (serves : Serves o (Desk.asked calls) world o') :
    ending' = ending ∧ o' = o ∧ world = [] := by
  induction delivered generalizing world calls with
  | done =>
    cases routes
    cases serves
    exact ⟨rfl, rfl, rfl⟩
  | @placed m messages ending placed _ ih =>
    obtain ⟨plain, others⟩ := List.forall_mem_cons.mp ordinary
    cases routes with
    | @failed _ log e _ failed =>
      rw [Desk.asked, List.flatMap_singleton] at serves
      obtain ⟨r, m', run, same⟩ := plain.runs_routeMessage_iff.mp failed
      obtain ⟨⟨report, rfl⟩, -, -⟩ := process_again order placed run serves
      cases same
    | @routed _ log _ calls _ routed routes =>
      obtain ⟨r, m', run, -⟩ := plain.runs_routeMessage_iff.mp routed
      obtain ⟨o₁, w₁, w₂, rfl, serves₁, serves₂⟩ := serves_append_iff.mp serves
      obtain ⟨-, rfl, rfl⟩ := process_again order placed run serves₁
      exact ih others routes serves₂
  | @unplaced m messages e unplaced =>
    obtain ⟨plain, -⟩ := List.forall_mem_cons.mp ordinary
    cases routes with
    | @failed _ log e' _ failed =>
      rw [Desk.asked, List.flatMap_singleton] at serves
      obtain ⟨r, m', run, same⟩ := plain.runs_routeMessage_iff.mp failed
      obtain ⟨-, rfl, -, rfl, rfl⟩ := (unplaced.runs_process_iff order table).mp ⟨run, serves⟩
      cases same
      exact ⟨rfl, rfl, rfl⟩
    | @routed _ log _ calls _ routed routes =>
      obtain ⟨r, m', run, same⟩ := plain.runs_routeMessage_iff.mp routed
      obtain ⟨o₁, w₁, w₂, rfl, serves₁, -⟩ := serves_append_iff.mp serves
      obtain ⟨-, rfl, -⟩ := (unplaced.runs_process_iff order table).mp ⟨run, serves₁⟩
      cases same

/-- What was delivered can be routed again. -/
lemma Delivered.exists_routes_again {t : Store.MessageTable} {messages : List Message}
    {ending : Except Fault Unit} (order : o.outages = []) (table : o.messages = some t)
    (ordinary : ∀ m ∈ messages, Desk.Ordinary c m) (delivered : o.Delivered messages ending) :
    ∃ calls, Desk.Routes c (messages.map .ok) calls ending ∧ Serves o (Desk.asked calls) [] o := by
  induction delivered with
  | done => exact ⟨[], .done, .nil⟩
  | @placed m messages ending placed _ ih =>
    obtain ⟨plain, others⟩ := List.forall_mem_cons.mp ordinary
    obtain ⟨log, report, run, serves⟩ := exists_process_again (c := c) order placed
    obtain ⟨calls, routes, rest⟩ := ih others
    refine ⟨⟨m, log, .ok ()⟩ :: calls, .routed ?_ routes,
      serves_append_iff.mpr ⟨o, [], [], rfl, serves, rest⟩⟩
    exact plain.runs_routeMessage_iff.mpr ⟨.ok report, m, run, rfl⟩
  | @unplaced m messages e unplaced =>
    obtain ⟨plain, -⟩ := List.forall_mem_cons.mp ordinary
    obtain ⟨run, serves⟩ : Desk.Work.Runs (Desk.process c) m _ (.error e) m ∧ Serves o _ [] o :=
      (unplaced.runs_process_iff order table).mpr ⟨rfl, rfl, rfl, rfl, rfl⟩
    refine ⟨[⟨m, _, .error e⟩], .failed (plain.runs_routeMessage_iff.mpr ⟨_, m, run, rfl⟩), ?_⟩
    rwa [Desk.asked, List.flatMap_singleton]

/-- A delivery that comes again is harmless, and ends as it did before. Let every item of a delivery
be mapped, to messages that have a text or none and give no command, and let the stores work and
every route tell whether it is open. The delivery is ingested to its end exactly when every message
of it without problems can be stored; otherwise a text that cannot be encoded breaks it off. In both
cases, whenever it is ingested again, by the same desk or by another one with the rows that the
first has left, it comes to the same result, nothing is changed and nothing is asked of the world.
It may hold messages with problems, and copies of a message. -/
theorem redelivery_changes_nothing {body : Json} (works : o.Works)
    (mapped : (Inbound.Cloud.messages body).stop = none)
    (ordinary : ∀ m ∈ (Inbound.Cloud.messages body).messages, Desk.Ordinary c m) :
    let ingest :=
      Desk.ingest c (Inbound.Cloud.messages body).messages (Inbound.Cloud.messages body).stop
    let count := (Inbound.Cloud.messages body).messages.length
    (∀ tell, ∃ world r o', Dialogue.Told tell [] world ∧ Act.Runs (carryOut ingest) o world r o') ∧
    ∀ log world r o', Desk.Task.Runs ingest log r → Serves o log world o' → log.Forthcoming →
      (r = .ok count ↔ ∀ m ∈ (Inbound.Cloud.messages body).messages, m.draft.refusal? = none →
        ∃ document, m.stored = .ok document) ∧
      (r = .ok count ∨ ∃ text, r = .error (.value (.unencodable text))) ∧ o'.Works ∧
      ∀ p, p.outages = [] → p.messages = o'.messages → ∀ world r' p',
        Act.Runs (carryOut ingest) p world r' p' ↔ world = [] ∧ r' = r ∧ p' = p := by
  intro ingest count
  refine ⟨fun tell => ?_, fun log world r o' run serves told => ?_⟩
  · obtain ⟨world, ⟨r, o'⟩, told, run⟩ :=
      Dialogue.exists_run (StateT.run (carryOut ingest) o) tell []
    exact ⟨world, r, o', told, run⟩
  have received : ∀ m ∈ (Inbound.Cloud.messages body).messages, m.status = .received :=
    fun m member => Inbound.Cloud.received_of_mem member mapped
  obtain ⟨calls, ending, routes, rfl, rfl⟩ := (Desk.runs_ingest_of_mapped mapped).mp run
  obtain ⟨later, delivered⟩ := works.routes ordinary received routes serves told
  have counted : (ending.map fun _ => count) = .ok count ↔ ending = .ok () := by
    cases ending with
    | ok u => exact ⟨fun _ => rfl, fun _ => rfl⟩
    | error e => exact ⟨nofun, nofun⟩
  refine ⟨counted.trans delivered.ending_iff, ?_, later, fun p order rows => ?_⟩
  · cases ending with
    | ok u => exact .inl rfl
    | error e =>
      obtain ⟨text, rfl⟩ := delivered.fault
      exact .inr ⟨text, rfl⟩
  obtain ⟨t, table⟩ := later.messages
  have there : p.messages = some t := rows.trans table
  have known := delivered.of_messages rows
  intro world r' p'
  constructor
  · intro run
    obtain ⟨log, run, serves⟩ := runs_run_iff.mp run
    obtain ⟨calls, ending', routes, rfl, rfl⟩ := (Desk.runs_ingest_of_mapped mapped).mp run
    obtain ⟨rfl, rfl, rfl⟩ := known.routes_again order there ordinary routes serves
    exact ⟨rfl, rfl, rfl⟩
  · rintro ⟨rfl, rfl, rfl⟩
    obtain ⟨calls, routes, serves⟩ := known.exists_routes_again order there ordinary
    exact runs_run_iff.mpr
      ⟨_, (Desk.runs_ingest_of_mapped mapped).mpr ⟨calls, _, routes, rfl, rfl⟩, serves⟩

namespace Sample

open Desk.Sample

/-- A delivery of a message, a copy of it and a message without an id. -/
def mixed : Json :=
  delivery [item "wamid.1" "1704103200", item "wamid.1" "1704103200", item "" "1704103200"]

/-- A delivery of a text that is a surrogate by itself. -/
def unspoken : Json :=
  delivery [.obj [("id", .str "wamid.1"), ("from", .str "+393470000001"),
    ("timestamp", .str "1704103200"), ("type", .str "text"),
    ("text", .obj [("body", .str (String.ofList (Text.spell 0xd83d)))])]]

/-- The message with that text. -/
def mute : Message :=
  { order with content := { type := .text, text := .str (String.ofList (Text.spell 0xd83d)) } }

/-- The delivery holds one message. -/
lemma messages_unspoken : Inbound.Cloud.messages unspoken = ⟨[mute], none⟩ := by
  decide +kernel

/-- It cannot be stored. -/
lemma unstored_mute : ¬ ∃ document, mute.stored = .ok document := by
  rintro ⟨document, stored⟩
  obtain ⟨dated, encodable⟩ := Message.stored_eq_ok_iff.mp stored
  cases dated
  exact absurd encodable (by decide +kernel)

/-- The message without an id. -/
def nameless : Message :=
  { order with id := "" }

/-- The delivery holds a message twice and one without a name. -/
lemma messages_mixed : Inbound.Cloud.messages mixed = ⟨[order, order, nameless], none⟩ := by
  decide +kernel

/-- A desk without operators has no commands. -/
lemma ordinary_of_quiet {m : Message} (textual : m.Textual) : Desk.Ordinary quiet m := by
  refine ⟨textual, fun intent commands => ?_⟩
  have stranger : quiet.isAdmin m = false := by
    simp [Desk.Config.isAdmin, Phone.AllowList.allows, quiet, desk]
  cases stranger.symm.trans commands.operator

/-- The stores of the office work. -/
lemma works_ruled : ruled.Works := by
  have enabled : rules.enabledRows = rules.rows := by decide +kernel
  have loads : rules.Loads := fun r member => loads_rules r (enabled ▸ member)
  exact ⟨rfl, ⟨_, rfl⟩, rules, rfl, loads, numbered_rules, by decide +kernel⟩

/-- What is asked for the copy of the message. -/
def copied : Desk.Log :=
  [⟨.createMessage order, .error (.duplicate (.messageId "wamid.1"))⟩]

/-- What is asked when the delivery is ingested. -/
def ingested : Desk.Log :=
  asked ++ copied

/-- The message is taken in, its copy is a duplicate, and the message without an id is refused. -/
lemma routes_ingested :
    ∃ calls, Desk.Routes quiet ([order, order, nameless].map .ok) calls (.ok ()) ∧
    Desk.asked calls = ingested := by
  have textual : order.Textual := .inr ⟨_, rfl⟩
  have plain := ordinary_of_quiet textual
  have taken : ∃ report m', Desk.Work.Runs (Desk.process quiet) order asked (.ok report) m' :=
    ⟨_, _, .ask (.ask (.ask (.ask (.ask (.ask (.ask (.ask (.ask .done))))))))⟩
  obtain ⟨report, m', taken⟩ := taken
  have again : Desk.Work.Runs (Desk.process quiet) order copied
      (.ok (.refused "wamid.1" .duplicate)) order :=
    Desk.runs_process_iff.mpr (.inr (.inl ⟨_, by decide +kernel, rfl, rfl, rfl⟩))
  have refused : Desk.Work.Runs (Desk.process quiet) nameless []
    (.ok (.refused "<missing>" (.invalid [.noId])))
      nameless :=
    Desk.runs_process_iff.mpr (.inl ⟨_, by decide +kernel, rfl, rfl, rfl⟩)
  have first : Desk.Call.Runs quiet ⟨order, asked, .ok ()⟩ :=
    plain.runs_routeMessage_iff.mpr ⟨_, _, taken, rfl⟩
  have second : Desk.Call.Runs quiet ⟨order, copied, .ok ()⟩ :=
    plain.runs_routeMessage_iff.mpr ⟨_, _, again, rfl⟩
  have third : Desk.Call.Runs quiet ⟨nameless, [], .ok ()⟩ :=
    (ordinary_of_quiet (.inr ⟨_, rfl⟩)).runs_routeMessage_iff.mpr ⟨_, _, refused, rfl⟩
  exact ⟨_, .routed first (.routed second (.routed third .done)), rfl⟩

/-- No channel is asked. -/
lemma told_ingested : ingested.Forthcoming := by
  intro x member route e same
  simp only [ingested, asked, copied, List.cons_append, List.nil_append, List.mem_cons,
    List.not_mem_nil, or_false] at member
  rcases member with rfl | rfl | rfl | rfl | rfl | rfl | rfl | rfl | rfl | rfl <;> cases same

/-- The office serves what the ingestion asks. -/
lemma serves_ingested : ∃ world o', Serves ruled ingested world o' := by
  obtain ⟨r, m', run⟩ := runs_asked
  obtain ⟨world, o', serves⟩ := serves_asked
  have told := (List.forall_mem_append.mp told_ingested).1
  have valid : order.draft.refusal? = none := by decide +kernel
  obtain ⟨works, ⟨-, placed⟩ | ⟨e, -, unplaced⟩⟩ := works_ruled.process rfl run serves told
  swap
  · exact absurd ⟨_, stored_order⟩ unplaced.unstored
  have again := placed.createMessage works.outages valid
  exact ⟨world ++ [], o', serves_append_iff.mpr ⟨o', world, [], rfl, serves,
    serves_one_iff.mpr (answer_createMessage_iff.mpr ⟨rfl, again⟩)⟩⟩

end Sample

open Desk.Sample Sample in
/-- A delivery with a copy and with a message without an id is ingested, and changes nothing when it
comes again; one with a surrogate for a text is never ingested to its end. -/
theorem redelivery_changes_nothing_mixed :
    ruled.Works ∧ (Inbound.Cloud.messages mixed).stop = none ∧
    (∀ m ∈ (Inbound.Cloud.messages mixed).messages, Desk.Ordinary quiet m) ∧
    (∃ world o', Desk.Task.Runs (Desk.ingest quiet (Inbound.Cloud.messages mixed).messages
        (Inbound.Cloud.messages mixed).stop) ingested (.ok 3) ∧
      Serves ruled ingested world o' ∧ ingested.Forthcoming ∧
      ∀ world r p, Act.Runs (carryOut (Desk.ingest quiet (Inbound.Cloud.messages mixed).messages
        (Inbound.Cloud.messages mixed).stop)) o' world r p ↔ world = [] ∧ r = .ok 3 ∧ p = o') ∧
    ∀ log world r o', Desk.Task.Runs (Desk.ingest quiet (Inbound.Cloud.messages unspoken).messages
        (Inbound.Cloud.messages unspoken).stop) log r → Serves ruled log world o' →
      log.Forthcoming → ∃ text, r = .error (.value (.unencodable text)) := by
  have mapped : (Inbound.Cloud.messages mixed).stop = none :=
    congrArg Inbound.Batch.stop messages_mixed
  have messages : (Inbound.Cloud.messages mixed).messages = [order, order, nameless] :=
    congrArg Inbound.Batch.messages messages_mixed
  have ordinary : ∀ m ∈ (Inbound.Cloud.messages mixed).messages, Desk.Ordinary quiet m := by
    rw [messages]
    have textual (m : Message) (same : m.content = order.content) : Desk.Ordinary quiet m :=
      ordinary_of_quiet (.inr ⟨"hello world", by rw [same]; rfl⟩)
    exact List.forall_mem_cons.mpr ⟨textual _ rfl, List.forall_mem_cons.mpr ⟨textual _ rfl,
      List.forall_mem_singleton.mpr (textual _ rfl)⟩⟩
  obtain ⟨calls, routes, log⟩ := routes_ingested
  obtain ⟨world, o', serves⟩ := serves_ingested
  have run : Desk.Task.Runs (Desk.ingest quiet (Inbound.Cloud.messages mixed).messages
      (Inbound.Cloud.messages mixed).stop) ingested (.ok 3) := by
    rw [Desk.runs_ingest_of_mapped mapped, messages]
    exact ⟨calls, _, routes, log.symm, rfl⟩
  obtain ⟨-, ingests⟩ := redelivery_changes_nothing works_ruled mapped ordinary
  obtain ⟨-, -, later, again⟩ := ingests _ _ _ _ run serves told_ingested
  have one : (Inbound.Cloud.messages unspoken).messages = [mute] :=
    congrArg Inbound.Batch.messages messages_unspoken
  have single : ∀ m ∈ (Inbound.Cloud.messages unspoken).messages, Desk.Ordinary quiet m := by
    rw [one]
    exact List.forall_mem_singleton.mpr (ordinary_of_quiet (.inr ⟨_, rfl⟩))
  refine ⟨works_ruled, mapped, ordinary,
    ⟨world, o', run, serves, told_ingested, again o' later.outages rfl⟩,
    fun log world r o' run serves told => ?_⟩
  obtain ⟨-, broken⟩ := redelivery_changes_nothing works_ruled
    (congrArg Inbound.Batch.stop messages_unspoken) single
  obtain ⟨counts, ended, -⟩ := broken _ _ _ _ run serves told
  refine ended.resolve_left fun counted => ?_
  have stored := counts.mp counted
  rw [one] at stored
  exact unstored_mute (stored mute List.mem_cons_self (by decide +kernel))

end Office

end ChatTriage
