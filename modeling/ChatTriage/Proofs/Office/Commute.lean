import ChatTriage.Proofs.Desk.Scope
import ChatTriage.Proofs.Office.Tables

/-!
# Requests that can be put off

At an office whose lines are stages, what is asked of a channel changes nothing of the office, and
the save of a message touches no row but its own. So both can be put before anything else that is
asked, as long as the row that is saved is there and nobody else saves it; `Office.serves_swap` does
so for whole logs.
-/

namespace ChatTriage.Office

variable {α : Type} {o o' o₁ o₂ p : Office} {q r : Desk.Request} {m n : Message} {w w₁ w₂ : World}
  {t u : Store.MessageTable}

/-- Deliveries on the lines of the office are decided outside. -/
def Staged (o : Office) : Prop :=
  ∀ l ∈ o.lines, ∃ name, l = .stage name

/-- What is done on a line, by what is behind it. -/
def onLine (stage : Act (Except Fault α)) (channel : Channel → Act (Except Fault α)) :
    Option Line → Act (Except Fault α)
  | none => return .error .noChannel
  | some (.stage _) => stage
  | some (.channel c) => channel c

/-- Something that neither looks at the office nor changes it. -/
def Act.Still (act : Act α) : Prop :=
  ∀ o w x o', Act.Runs act o w x o' → o' = o ∧ ∀ p, Act.Runs act p w x p

/-- Doing nothing is still. -/
lemma Act.still_pure (a : α) : Act.Still (pure a) := by
  intro o w x o' run
  obtain ⟨rfl, rfl, rfl⟩ := Act.runs_pure_iff.mp run
  exact ⟨rfl, fun p => Act.runs_pure_iff.mpr ⟨rfl, rfl, rfl⟩⟩

/-- Asking the world is still. -/
lemma Act.still_ask (s : Request) : Act.Still (ask s) := by
  intro o w x o' run
  obtain ⟨rfl, rfl⟩ := Act.runs_ask_iff.mp run
  exact ⟨rfl, fun p => Act.runs_ask_iff.mpr ⟨rfl, rfl⟩⟩

/-- What is done on a stage is done in the same way at every office with the same lines. -/
lemma Staged.onLine {act stage : Act (Except Fault α)} {channel : Channel → Act (Except Fault α)}
    {line : Nat} {x : Except Fault α} (staged : o.Staged) (still : stage.Still)
    (same : act = get >>= fun o => Office.onLine stage channel o.lines[line]?)
    (run : Act.Runs act o w x o') :
    o' = o ∧ ∀ p : Office, p.lines = o.lines → Act.Runs act p w x p := by
  have quiet : (Office.onLine stage channel o.lines[line]?).Still := by
    cases found : o.lines[line]? with
    | none => exact Act.still_pure _
    | some l =>
      obtain ⟨name, rfl⟩ := staged l (List.mem_of_getElem? found)
      exact still
  subst same
  obtain ⟨unchanged, anywhere⟩ := quiet _ _ _ _ (Act.runs_get_bind_iff.mp run)
  refine ⟨unchanged, fun p alike => Act.runs_get_bind_iff.mpr ?_⟩
  rw [alike]
  exact anywhere p

/-- Whether a line is open is told by what is behind it. -/
lemma available_eq (line : Nat) : ∃ channel, available line =
    get >>= fun o => onLine (ask (.stageAvailable line)) channel o.lines[line]? :=
  ⟨_, rfl⟩

/-- A text is sent by what is behind the line. -/
lemma send_eq (line : Nat) (destination text : Json) : ∃ channel, send line destination text =
    get >>= fun o => onLine (ask (.stageSend line destination text)) channel o.lines[line]? :=
  ⟨_, rfl⟩

/-- A message is forwarded by what is behind the line. -/
lemma forward_eq (line : Nat) (m : Message) (destination label : Json) :
    ∃ channel, forward line m destination label =
      get >>= fun o =>
        onLine (ask (.stageForward line m destination label)) channel o.lines[line]? :=
  ⟨_, rfl⟩

/-- What is asked of a channel is answered in the same way at every office with the same lines,
which it leaves as they are. -/
lemma Staged.answer_outward {x : q.Answer} (staged : o.Staged) (outward : q.isOutward = true)
    (run : Act.Runs (answer q) o w x o') :
    o' = o ∧ ∀ p : Office, p.lines = o.lines → Act.Runs (answer q) p w x p := by
  cases q with
  | available line =>
    obtain ⟨channel, same⟩ := available_eq line
    exact staged.onLine (Act.still_ask _) same run
  | send line destination text =>
    obtain ⟨channel, same⟩ := send_eq line (.str destination) (.str text)
    exact staged.onLine (Act.still_ask _) same run
  | forward line m destination label =>
    obtain ⟨channel, same⟩ := forward_eq line m (.str destination) (.ofText? label)
    exact staged.onLine (Act.still_ask _) same run
  | _ => cases outward

/-- Something that touches neither lines nor messages and goes on in the same way whatever the
messages. -/
def Act.Indoors (act : Act α) : Prop :=
  ∀ o w x o', Act.Runs act o w x o' → o'.lines = o.lines ∧ o'.messages = o.messages ∧
    ∀ messages, Act.Runs act { o with messages } w x { o' with messages }

/-- What is still stays indoors. -/
lemma Act.Still.indoors {act : Act α} (still : act.Still) : act.Indoors := by
  intro o w x o' run
  obtain ⟨rfl, anywhere⟩ := still _ _ _ _ run
  exact ⟨rfl, rfl, fun messages => anywhere _⟩

/-- Looking at anything but the messages stays indoors. -/
lemma Act.indoors_read {f : Office → α} (blind : ∀ o messages, f { o with messages } = f o) :
    Act.Indoors (do return f (← get)) := by
  intro o w x o' run
  obtain ⟨rfl, rfl, rfl⟩ := Act.runs_pure_iff.mp run
  exact ⟨rfl, rfl, fun messages => Act.runs_pure_iff.mpr ⟨rfl, (blind _ messages).symm, rfl⟩⟩

/-- So does a change apart from the lines and the messages. -/
lemma Act.indoors_change {f : Office → α × Office}
    (apart : ∀ o, (f o).2.lines = o.lines ∧ (f o).2.messages = o.messages ∧
      ∀ messages, f { o with messages } = ((f o).1, { (f o).2 with messages })) :
    Act.Indoors (change f) := by
  intro o w x o' run
  obtain ⟨rfl, same⟩ := Act.runs_change_iff.mp run
  obtain ⟨rfl, rfl⟩ := Prod.ext_iff.mp same
  obtain ⟨lines, messages, blind⟩ := apart o
  exact ⟨lines, messages, fun messages => Act.runs_change_iff.mpr ⟨rfl, (blind messages).symm⟩⟩

/-- Saving a filter has nothing to do with lines and messages. -/
lemma saveFilter_indoors (o : Office) (f : Filter) :
    (o.saveFilter f).2.lines = o.lines ∧ (o.saveFilter f).2.messages = o.messages ∧
      ∀ messages, { o with messages }.saveFilter f =
        ((o.saveFilter f).1, { (o.saveFilter f).2 with messages }) := by
  cases out : o.outages.lookup .saveFilter <;> simp [saveFilter, unlessOut, out]

/-- Neither has updating its columns. -/
lemma updateFilter_indoors (o : Office) (id : Json) (changes : List Store.Change) :
    (o.updateFilter id changes).2.lines = o.lines ∧ (o.updateFilter id changes).2.messages =
    o.messages ∧
      ∀ messages, { o with messages }.updateFilter id changes =
        ((o.updateFilter id changes).1, { (o.updateFilter id changes).2 with messages }) := by
  cases out : o.outages.lookup .updateFilter with
  | some f => simp [updateFilter, unlessOut, out]
  | none =>
    cases updated : Store.updateFilter o.filters id changes <;>
      simp [updateFilter, unlessOut, out, updated]

/-- A request that is neither for a channel nor for the table of messages has nothing to do with
them. -/
lemma answer_indoors (inward : q.isOutward = false) (unwritten : q.writesMessages = false) :
    Act.Indoors (answer q) := by
  cases q with
  | enabledFilters => exact Act.indoors_read fun _ _ => rfl
  | allFilters => exact Act.indoors_read fun _ _ => rfl
  | filterNamed name => exact Act.indoors_read fun _ _ => rfl
  | snapshot => exact Act.indoors_read fun _ _ => rfl
  | storeFilter f => exact Act.indoors_change fun o => o.saveFilter_indoors f
  | storeStats id stats => exact Act.indoors_change fun o => o.updateFilter_indoors id _
  | keepSnapshot filters =>
    intro o w x o' run
    obtain ⟨rfl, same⟩ := Dialogue.runs_done_iff.mp run
    cases same
    exact ⟨rfl, rfl, fun messages => .done⟩
  | now => exact (Act.still_ask _).indoors
  | reply text => exact (Act.still_ask _).indoors
  | createMessage m => cases unwritten
  | saveMessage m => cases unwritten
  | available line => cases inward
  | send line destination text => cases inward
  | forward line m destination label => cases inward

/-- Two offices agree about a save of a message: about the row of its id, and about which row has
its version as well. -/
def Agree (n : Message) (o p : Office) : Prop :=
  ∃ t u, o.messages = some t ∧ p.messages = some u ∧ p.outages = o.outages ∧
    u.rows.any (·.isCopied n) = t.rows.any (·.isCopied n) ∧ u.row? n.id = t.row? n.id

/-- The office with a message written over its row. -/
def overwritten (o : Office) (n : Message) (document : Json) : Office :=
  { o with messages := o.messages.map (·.save n document) }

/-- Offices with the same messages agree about every save. -/
lemma Agree.of_eq (table : o.messages = some t) (messages : p.messages = o.messages)
    (outages : p.outages = o.outages) : Agree n o p :=
  ⟨t, t, table, messages.trans table, outages, rfl, rfl⟩

/-- Saving another message leaves offices in agreement. -/
lemma agree_overwritten (table : o.messages = some t) (apart : m.id ≠ n.id) (document : Json) :
    Agree n o (o.overwritten m document) :=
  ⟨t, t.save m document, table, by simp [overwritten, table], rfl,
    Store.MessageTable.any_isCopied_save apart, Store.MessageTable.row?_save_other apart.symm⟩

/-- Offices that agree about a save refuse it for the same reason or both make it. -/
lemma Agree.saveMessage (agree : Agree n o p) :
    (∃ e, o.saveMessage n = (.error e, o) ∧ p.saveMessage n = (.error e, p)) ∨
    ∃ document, o.saveMessage n = (.ok (), o.overwritten n document) ∧
      p.saveMessage n = (.ok (), p.overwritten n document) := by
  obtain ⟨t, u, ours, theirs, outages, copied, row⟩ := agree
  have found : p.getMessage n.id = o.getMessage n.id := by
    simp only [getMessage, unlessOut, Store.getMessage, ours, theirs, outages, row]
  unfold Office.saveMessage unlessOut overwritten
  rw [ours, theirs, outages, found]
  cases o.outages.lookup .saveMessage with
  | some f => exact .inl ⟨f, rfl, rfl⟩
  | none =>
    obtain ⟨e, refused⟩ | ⟨document, written⟩ := Store.writeMessage_or n
    · rw [refused, refused]
      exact .inl ⟨e, rfl, rfl⟩
    · rw [written, written, copied]
      cases t.rows.any (·.isCopied n) with
      | false => exact .inl ⟨_, rfl, rfl⟩
      | true => exact .inr ⟨document, rfl, rfl⟩

/-- Something that was done leaves the row of a message to be saved, and could as well have been
done after the save. -/
def Spared (n : Message) (act : Act α) (o : Office) (w : World) (x : α) (o₁ : Office) : Prop :=
  Agree n o o₁ ∧ ∀ document, Act.Runs act (o.overwritten n document) w x (o₁.overwritten n document)

/-- A save can be made before something that spares its row. -/
lemma Spared.swap {act : Act α} {x : α} {y : Except Fault Unit} (spared : Spared n act o w x o₁)
    (first : Act.Runs act o w x o₁) (second : o₁.saveMessage n = (y, o₂)) :
    ∃ p, o.saveMessage n = (y, p) ∧ Act.Runs act p w x o₂ := by
  obtain ⟨agree, later⟩ := spared
  obtain ⟨e, before, after⟩ | ⟨document, before, after⟩ := agree.saveMessage
  · cases after.symm.trans second
    exact ⟨o, before, first⟩
  · cases after.symm.trans second
    exact ⟨_, before, later document⟩

/-- What stays indoors spares the row of every message. -/
lemma Act.Indoors.spared {act : Act α} {x : α} (indoors : act.Indoors) (held : o.Holds n.id)
    (outages : o₁.outages = o.outages) (run : Act.Runs act o w x o₁) : Spared n act o w x o₁ := by
  obtain ⟨t, table, -⟩ := held
  obtain ⟨-, messages, blind⟩ := indoors _ _ _ _ run
  refine ⟨.of_eq table messages outages, fun document => ?_⟩
  unfold overwritten
  rw [messages]
  exact blind _

/-- Creating a message spares the rows that are there. -/
lemma createMessage_spared {x : Except Fault Unit} (held : o.Holds n.id)
    (created : o.createMessage m = (x, o₁)) : Spared n (answer (.createMessage m)) o [] x o₁ := by
  obtain ⟨t, messages, found⟩ := held
  constructor
  · cases x with
    | error e =>
      obtain rfl := same_of_createMessage created
      exact .of_eq messages rfl rfl
    | ok u =>
      obtain ⟨-, t', document, messages', -, free, rfl⟩ := createMessage_eq_ok_iff.mp created
      cases messages.symm.trans messages'
      -- the id was free, so that the new row is not the one to be saved
      have apart : (Store.MessageRow.fresh m document).id ≠ some n.id := by
        intro same
        rw [← Option.some.inj same, free] at found
        cases found
      refine ⟨t, _, messages, rfl, rfl, ?_, ?_⟩
      · simp [Store.MessageTable.add, Store.MessageRow.isCopied_of_ne apart]
      · rw [Store.MessageTable.row?_add, if_neg apart, Option.or_none]
  · intro document
    have later : (o.overwritten n document).createMessage m =
        ((o.createMessage m).1, (o.createMessage m).2.overwritten n document) := by
      simp only [createMessage, unlessOut, overwritten, messages, Option.map_some,
        Store.createMessage_save found]
      cases o.outages.lookup .createMessage with
      | some f => simp [messages]
      | none => cases Store.createMessage (some t) m <;> simp [Except.map, messages]
    rw [created] at later
    exact answer_createMessage_iff.mpr ⟨rfl, later⟩

/-- Saving a message spares the rows of the others. -/
lemma saveMessage_spared {x : Except Fault Unit} (held : o.Holds n.id) (apart : m.id ≠ n.id)
    (saved : o.saveMessage m = (x, o₁)) : Spared n (answer (.saveMessage m)) o [] x o₁ := by
  obtain ⟨t, table, -⟩ := held
  constructor
  · obtain ⟨e, same, -⟩ | ⟨document, same, -⟩ := (Agree.of_eq (n := m) table rfl rfl).saveMessage
    · cases same.symm.trans saved
      exact .of_eq table rfl rfl
    · cases same.symm.trans saved
      exact agree_overwritten table apart document
  · intro document
    obtain ⟨e, here, there⟩ | ⟨document', here, there⟩ :=
      (agree_overwritten table apart.symm document).saveMessage
    · cases here.symm.trans saved
      exact answer_saveMessage_iff.mpr ⟨rfl, there⟩
    · cases here.symm.trans saved
      refine answer_saveMessage_iff.mpr ⟨rfl, there.trans ?_⟩
      simp only [overwritten, table, Option.map_some, Store.MessageTable.save_comm apart]

/-- Answering leaves lines on stages as they are. -/
lemma Staged.lines {x : q.Answer} (staged : o.Staged) (run : Act.Runs (answer q) o w x o₁) :
    o₁.lines = o.lines := by
  cases outward : q.isOutward with
  | true => rw [(staged.answer_outward outward run).1]
  | false =>
    cases writes : q.writesMessages with
    | false => exact (answer_indoors outward writes _ _ _ _ run).1
    | true =>
      cases q with
      | createMessage m =>
        obtain ⟨-, created⟩ := answer_createMessage_iff.mp run
        cases x with
        | error e => rw [same_of_createMessage created]
        | ok u =>
          obtain ⟨-, t, document, -, -, -, rfl⟩ := createMessage_eq_ok_iff.mp created
          rfl
      | saveMessage m =>
        obtain ⟨-, saved⟩ := answer_saveMessage_iff.mp run
        cases x with
        | error e => rw [same_of_saveMessage saved]
        | ok u =>
          obtain ⟨-, t, document, -, -, -, -, rfl⟩ := saveMessage_eq_ok_iff.mp saved
          rfl
      | _ => cases writes

/-- Whatever is asked spares the row of a message, unless it is another save of that row. -/
lemma Staged.spared {x : q.Answer} (staged : o.Staged) (held : o.Holds n.id)
    (apart : ∀ m, q = .saveMessage m → m.id ≠ n.id) (run : Act.Runs (answer q) o w x o₁) :
    Spared n (answer q) o w x o₁ := by
  cases outward : q.isOutward with
  | true =>
    obtain ⟨t, table, -⟩ := held
    obtain ⟨rfl, anywhere⟩ := staged.answer_outward outward run
    exact ⟨.of_eq table rfl rfl, fun document => anywhere _ rfl⟩
  | false =>
    cases writes : q.writesMessages with
    | false => exact (answer_indoors outward writes).spared held (framed_of_answer run).outages run
    | true =>
      cases q with
      | createMessage m =>
        obtain ⟨rfl, created⟩ := answer_createMessage_iff.mp run
        exact createMessage_spared held created
      | saveMessage m =>
        obtain ⟨rfl, saved⟩ := answer_saveMessage_iff.mp run
        exact saveMessage_spared held (apart m rfl) saved
      | _ => cases writes

/-- A request can be put before another: it is for a channel, or saves a message whose row is there
and which the other one does not save. -/
def Precedes (o : Office) (r q : Desk.Request) : Prop :=
  r.isOutward = true ∨ ∃ n, r = .saveMessage n ∧ o.Holds n.id ∧
    ∀ m, q = .saveMessage m → m.id ≠ n.id

/-- Two answers change places. -/
lemma Staged.swap {x : q.Answer} {y : r.Answer} (staged : o.Staged) (precedes : o.Precedes r q)
    (first : Act.Runs (answer q) o w₁ x o₁) (second : Act.Runs (answer r) o₁ w₂ y o₂) :
    ∃ p, Act.Runs (answer r) o w₂ y p ∧ Act.Runs (answer q) p w₁ x o₂ := by
  have lines := staged.lines first
  obtain outward | ⟨n, rfl, held, apart⟩ := precedes
  · have later : o₁.Staged := fun l member => staged l (lines ▸ member)
    obtain ⟨rfl, anywhere⟩ := later.answer_outward outward second
    exact ⟨o, anywhere o lines.symm, first⟩
  · obtain ⟨rfl, saved⟩ := answer_saveMessage_iff.mp second
    obtain ⟨p, before, after⟩ := (staged.spared held apart first).swap first saved
    exact ⟨p, answer_saveMessage_iff.mpr ⟨rfl, before⟩, after⟩

/-- What can be put before a request still can after an answer. -/
lemma Precedes.of_answer {s : Desk.Request} {x : s.Answer} (precedes : o.Precedes r q)
    (run : Act.Runs (answer s) o w x o₁) : o₁.Precedes r q :=
  precedes.imp_right fun ⟨n, same, held, apart⟩ => ⟨n, same, held.of_answer run, apart⟩

/-- Lines stay on stages while a request is answered. -/
lemma Staged.of_answer {x : q.Answer} (staged : o.Staged) (run : Act.Runs (answer q) o w x o₁) :
    o₁.Staged :=
  fun l member => staged l (staged.lines run ▸ member)

/-- So they do while a log is served. -/
lemma Staged.of_serves {log : Desk.Log} (staged : o.Staged) (serves : Serves o log w o₁) :
    o₁.Staged := by
  induction serves with
  | nil => exact staged
  | cons answered _ ih => exact ih (staged.of_answer answered)

/-- Rows of messages stay there. -/
lemma Holds.of_serves {id : String} {log : Desk.Log} (held : o.Holds id)
    (serves : Serves o log w o₁) :
    o₁.Holds id := by
  induction serves with
  | nil => exact held
  | cons answered _ ih => exact ih (held.of_answer answered)

/-- A log is put before an answer. -/
lemma Staged.serves_cons_swap {x : q.Answer} {log : Desk.Log} (staged : o.Staged)
    (precedes : ∀ y ∈ log, o.Precedes y.request q) (first : Act.Runs (answer q) o w₁ x o₁)
    (second : Serves o₁ log w₂ o₂) : ∃ p, Serves o log w₂ p ∧ Act.Runs (answer q) p w₁ x o₂ := by
  induction log generalizing o o₁ w₂ with
  | nil =>
    cases second
    exact ⟨o, .nil, first⟩
  | cons y log ih =>
    obtain ⟨o₃, w₃, w₄, rfl, answered, rest⟩ := serves_cons_iff.mp second
    obtain ⟨now, later⟩ := List.forall_mem_cons.mp precedes
    obtain ⟨p₁, before, after⟩ := staged.swap now first answered
    obtain ⟨p, serves, last⟩ :=
      ih (staged.of_answer before) (fun z member => (later z member).of_answer before)
      after rest
    exact ⟨p, .cons before serves, last⟩

/-- Two logs change places. -/
lemma Staged.serves_swap {log₁ log₂ : Desk.Log} (staged : o.Staged)
    (precedes : ∀ x ∈ log₁, ∀ y ∈ log₂, o.Precedes y.request x.request)
    (first : Serves o log₁ w₁ o₁)
    (second : Serves o₁ log₂ w₂ o₂) : ∃ p, Serves o log₂ w₂ p ∧ Serves p log₁ w₁ o₂ := by
  induction log₁ generalizing o w₁ with
  | nil =>
    cases first
    exact ⟨o₂, second, .nil⟩
  | cons x log₁ ih =>
    obtain ⟨o₃, w₃, w₄, rfl, answered, rest⟩ := serves_cons_iff.mp first
    obtain ⟨now, later⟩ := List.forall_mem_cons.mp precedes
    -- the requests after the first go behind the second log, and then the first one does
    obtain ⟨p₁, serves, others⟩ := ih (staged.of_answer answered)
      (fun z member y among => (later z member y among).of_answer answered) rest
    obtain ⟨p, before, after⟩ := staged.serves_cons_swap now answered serves
    exact ⟨p, before, .cons after others⟩

end ChatTriage.Office
