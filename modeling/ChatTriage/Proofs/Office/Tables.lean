import ChatTriage.Proofs.Office.Run
import ChatTriage.Proofs.Store.Messages

/-!
# The tables of an office

What the requests of the desk do to the tables behind it. Two requests write the table of messages,
two the table of filters; every other one leaves both alone, and none puts an operation out of
order. A row, once it is there, stays.
-/

namespace ChatTriage

namespace Office

variable {o o' : Office} {m : Message} {world : World}

/-- The table of messages has a row with an id. -/
def Holds (o : Office) (id : String) : Prop :=
  ∃ t, o.messages = some t ∧ (t.row? id).isSome

/-- While nothing is out of order an operation has its result. -/
lemma unlessOut_eq {α : Type} {operation : Operation} {result : Except Fault α}
    (outages : o.outages = []) :
    o.unlessOut operation result = result := by
  rw [unlessOut, outages]
  rfl

/-- A row is created when the operation is in order and no row has the id. -/
lemma createMessage_eq_ok_iff :
    o.createMessage m = (.ok (), o') ↔
      o.outages.lookup .createMessage = none ∧
      ∃ t document, o.messages = some t ∧ m.stored = .ok document ∧ t.row? m.id = none ∧
        o' = { o with messages := some (t.add (.fresh m document)) } := by
  unfold createMessage unlessOut
  cases out : o.outages.lookup .createMessage with
  | some f => simp
  | none =>
    cases result : Store.createMessage o.messages m with
    | error e =>
      constructor
      · intro impossible
        cases impossible
      · rintro ⟨-, t, document, messages, stored, free, -⟩
        rw [messages, Store.createMessage_eq stored, free] at result
        cases result
    | ok t' =>
      obtain ⟨t, document, messages, stored, free, rfl⟩ := Store.createMessage_eq_ok_iff.mp result
      constructor
      · intro same
        cases same
        exact ⟨rfl, t, document, messages, stored, free, rfl⟩
      · rintro ⟨-, t₁, document₁, messages₁, stored₁, -, rfl⟩
        cases messages.symm.trans messages₁
        cases stored.symm.trans stored₁
        rfl

/-- A row that cannot be created leaves the office as it is. -/
lemma same_of_createMessage {e : Fault} (refused : o.createMessage m = (.error e, o')) :
    o' = o := by
  unfold createMessage at refused
  split at refused
  · cases refused
  · cases refused
    rfl

/-- A message is saved when the operation is in order and a row has its id and version. -/
lemma saveMessage_eq_ok_iff :
    o.saveMessage m = (.ok (), o') ↔
      o.outages.lookup .saveMessage = none ∧
      ∃ t document, o.messages = some t ∧ m.stored = .ok document ∧ m.version.fits = true ∧
        t.rows.any (·.isCopied m) = true ∧
          o' = { o with messages := some (t.save m document) } := by
  unfold saveMessage unlessOut
  cases out : o.outages.lookup .saveMessage with
  | some f => simp
  | none =>
    cases result : Store.writeMessage o.messages m with
    | error e =>
      constructor
      · intro impossible
        cases impossible
      · rintro ⟨-, t, document, messages, stored, fits, -, -⟩
        rw [messages, Store.writeMessage_eq stored fits] at result
        cases result
    | ok written =>
      obtain ⟨t, document, messages, stored, fits, rfl⟩ := Store.writeMessage_eq_ok_iff.mp result
      cases copied : t.rows.any (·.isCopied m) with
      | false =>
        constructor
        · intro impossible
          simp at impossible
        · rintro ⟨-, t₁, document₁, messages₁, stored₁, -, copied₁, -⟩
          cases messages.symm.trans messages₁
          rw [copied] at copied₁
          cases copied₁
      | true =>
        constructor
        · intro same
          cases same
          exact ⟨rfl, t, document, messages, stored, fits, copied, rfl⟩
        · rintro ⟨-, t₁, document₁, messages₁, stored₁, -, -, rfl⟩
          cases messages.symm.trans messages₁
          cases stored.symm.trans stored₁
          rfl

/-- A message that cannot be saved leaves the office as it is. -/
lemma same_of_saveMessage {e : Fault} (refused : o.saveMessage m = (.error e, o')) : o' = o := by
  unfold saveMessage at refused
  split at refused
  · cases refused
  · cases refused
    rfl
  · cases refused
    rfl

/-- A message is created at the office. -/
lemma answer_createMessage_iff {x : Except Fault Unit} :
    Act.Runs (answer (.createMessage m)) o world x o' ↔ world = [] ∧ o.createMessage m = (x, o') :=
  Act.runs_change_iff.trans (and_congr_right fun _ => eq_comm)

/-- A message is saved at the office. -/
lemma answer_saveMessage_iff {x : Except Fault Unit} :
    Act.Runs (answer (.saveMessage m)) o world x o' ↔ world = [] ∧ o.saveMessage m = (x, o') :=
  Act.runs_change_iff.trans (and_congr_right fun _ => eq_comm)

/-- What a request leaves alone in the office that answers it. -/
structure Framed (q : Desk.Request) (o o' : Office) : Prop where
  messages : q.writesMessages = false → o'.messages = o.messages
  filters : q.writesFilters = false → o'.filters = o.filters
  outages : o'.outages = o.outages

/-- A change of the lines is framed. -/
lemma Framed.of_lines {q : Desk.Request} (changed : ∃ lines, o' = { o with lines }) :
    Framed q o o' := by
  obtain ⟨lines, rfl⟩ := changed
  exact ⟨fun _ => rfl, fun _ => rfl, rfl⟩

/-- So is no change. -/
lemma Framed.of_eq {q : Desk.Request} (same : o' = o) : Framed q o o' :=
  .of_lines ⟨o.lines, same⟩

/-- Creating a message is framed. -/
lemma createMessage_framed : Framed (.createMessage m) o (o.createMessage m).2 := by
  unfold createMessage
  split <;> exact ⟨nofun, fun _ => rfl, rfl⟩

/-- Saving a message is framed. -/
lemma saveMessage_framed : Framed (.saveMessage m) o (o.saveMessage m).2 := by
  unfold saveMessage
  split <;> exact ⟨nofun, fun _ => rfl, rfl⟩

/-- Saving a filter is framed. -/
lemma saveFilter_framed {f : Filter} : Framed (.storeFilter f) o (o.saveFilter f).2 := by
  unfold saveFilter
  split <;> exact ⟨fun _ => rfl, nofun, rfl⟩

/-- Storing stats is framed. -/
lemma updateFilter_framed {id : Json} {stats : FilterStats} {changes : List Store.Change} :
    Framed (.storeStats id stats) o (o.updateFilter id changes).2 := by
  unfold updateFilter
  split <;> exact ⟨fun _ => rfl, nofun, rfl⟩

/-- No request touches more of the tables than it has to. -/
lemma framed_of_answer {q : Desk.Request} {x : q.Answer} (run : Act.Runs (answer q) o world x o') :
    Framed q o o' := by
  have changed {α : Type} {f : Office → α × Office} {y : α}
    (run : Act.Runs (change f) o world y o') :
      o' = (f o).2 := congrArg Prod.snd (Act.runs_change_iff.mp run).2
  have read {α : Type} {f : Office → α} {y : α}
    (run : Act.Runs (do return f (← get)) o world y o') :
      o' = o := (Act.runs_pure_iff.mp run).2.2
  cases q with
  | enabledFilters => exact .of_eq (read run)
  | allFilters => exact .of_eq (read run)
  | filterNamed name => exact .of_eq (read run)
  | storeFilter f => exact changed run ▸ saveFilter_framed
  | storeStats id stats => exact changed run ▸ updateFilter_framed
  | createMessage m => exact changed run ▸ createMessage_framed
  | saveMessage m => exact changed run ▸ saveMessage_framed
  | snapshot => exact .of_eq (read run)
  | keepSnapshot filters =>
    obtain ⟨-, same⟩ := Dialogue.runs_done_iff.mp run
    cases same
    exact ⟨fun _ => rfl, fun _ => rfl, rfl⟩
  | now => exact .of_eq (Act.runs_ask_iff.mp run).2
  | available line => exact .of_eq (same_of_available run)
  | send line destination text => exact .of_lines (lines_of_send run)
  | forward line m destination label => exact .of_lines (lines_of_forward run)
  | reply text => exact .of_eq (Act.runs_ask_iff.mp run).2

/-- The row of a message is there once it was created. -/
lemma holds_of_createMessage (created : o.createMessage m = (.ok (), o')) :
    ¬ o.Holds m.id ∧ o'.Holds m.id := by
  obtain ⟨-, t, document, messages, -, free, rfl⟩ := createMessage_eq_ok_iff.mp created
  constructor
  · rintro ⟨t₁, messages₁, found⟩
    cases messages.symm.trans messages₁
    rw [free] at found
    cases found
  · refine ⟨_, rfl, ?_⟩
    rw [Store.MessageTable.row?_add, free]
    simp [Store.MessageRow.fresh]

/-- A row stays where it is, whatever the office answers next. -/
lemma Holds.of_answer {id : String} {q : Desk.Request} {x : q.Answer} (holds : o.Holds id)
    (run : Act.Runs (answer q) o world x o') : o'.Holds id := by
  obtain ⟨t, messages, found⟩ := holds
  cases writes : q.writesMessages with
  | false => exact ⟨t, (framed_of_answer run).messages writes ▸ messages, found⟩
  | true =>
    cases q with
    | createMessage m =>
      obtain ⟨-, created⟩ := answer_createMessage_iff.mp run
      cases x with
      | error e => exact same_of_createMessage created ▸ ⟨t, messages, found⟩
      | ok u =>
        obtain ⟨-, t₁, document, messages₁, -, -, rfl⟩ := createMessage_eq_ok_iff.mp created
        cases messages.symm.trans messages₁
        refine ⟨_, rfl, ?_⟩
        rw [Store.MessageTable.row?_add, Option.isSome_or, found, Bool.true_or]
    | saveMessage m =>
      obtain ⟨-, saved⟩ := answer_saveMessage_iff.mp run
      cases x with
      | error e => exact same_of_saveMessage saved ▸ ⟨t, messages, found⟩
      | ok u =>
        obtain ⟨-, t₁, document, messages₁, -, -, -, rfl⟩ := saveMessage_eq_ok_iff.mp saved
        cases messages.symm.trans messages₁
        refine ⟨_, rfl, ?_⟩
        rw [Store.MessageTable.row?_save, Option.isSome_map]
        exact found
    | _ => cases writes

end Office

end ChatTriage
