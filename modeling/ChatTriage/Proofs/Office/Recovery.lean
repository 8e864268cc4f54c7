import ChatTriage.Proofs.Desk.Notes
import ChatTriage.Proofs.Office.Settled

/-!
# Saves that fail now and then

The store may fail any of the saves of a dispatch. A save that fails leaves the row and the message
where they were, with the same version, so that the next one can go through, and a save that goes
through writes all that was noted on the message until then. What is lost in the end is what was
noted after the last save that went through. A tag that cannot be encoded is another matter: it is
no store that fails then, and it breaks the dispatch off.
-/

namespace ChatTriage

namespace Desk

variable {c : Config} {m m' : Message} {filters : List Filter} {log : Log}

/-- A message that was processed does not enter any filters. -/
lemma runs_dispatch_processed (processed : m.status = .processed) (some : filters ≠ [])
    {r : Except Fault (List FilterOutcome)} (run : Work.Runs (dispatch c filters) m log r m') :
    ∃ fault, r = .error fault := by
  cases filters with
  | nil => exact absurd rfl some
  | cons f filters =>
    have steps : dispatch c (f :: filters) =
        advance .filtered >>= fun _ => (f :: filters).mapM (runFilter c) := rfl
    obtain ⟨fault, refused⟩ : ∃ fault, m.advance .filtered = .error fault := by
      unfold Message.advance
      rw [processed]
      exact ⟨_, rfl⟩
    rw [steps, advance, bind_assoc, Work.runs_get_bind_iff, refused] at run
    obtain ⟨-, same⟩ := Dialogue.runs_done_iff.mp run
    cases same
    exact ⟨fault, rfl⟩

end Desk

namespace Office

variable {c : Desk.Config} {f : Filter} {filters : List Filter} {o o' : Office} {m m' : Message}
    {log : Desk.Log}
  {world : World} {n : Nat} {id : String}

/-- The row of a message holds what the message is, after a number of saves. -/
def Stores (o : Office) (m : Message) (n : Nat) : Prop :=
  ∃ document, m.stored = .ok document ∧
    o.row? m.id = some ⟨some m.id, m.status, .count n, .written document⟩

/-- Whatever else becomes of an office, the row of an id stays as it is. -/
def SparesRow (id : String) (o o' : Office) : Prop :=
  o'.row? id = o.row? id

/-- The store fails, and does not say that somebody else saved. -/
def StoreFails (e : Fault) : Prop :=
  e.isStore = true ∧ ∀ cause, e ≠ .conflict cause

/-- Whatever else becomes of an office, the row of an id stays as it is, and when saves are put out
of order, it is the store that fails. -/
structure Disturbs (id : String) (o o' : Office) : Prop where
  row : SparesRow id o o'
  outage : ∀ e, o'.outages.lookup .saveMessage = some e → StoreFails e

/-- A message that filters are put on has the version of its row, and a date. -/
structure InStep (o : Office) (m : Message) (n : Nat) : Prop where
  row : ∃ r, o.row? m.id = some r ∧ r.version = .count n
  version : m.version = .count n
  matched : m.IsMatched
  dated : ∃ date, m.timestamp = some date

/-- What can be stored has a date. -/
lemma Stores.dated (stores : o.Stores m n) : ∃ date, m.timestamp = some date := by
  obtain ⟨document, stored, -⟩ := stores
  obtain ⟨date, dated, -⟩ := Message.toJson_eq_ok_iff.mp (Message.stored_eq_ok_iff.mp stored).1
  exact ⟨date, dated⟩

/-- A message that is stored is in step with its row. -/
lemma Stores.inStep (stores : o.Stores m n) (version : m.version = .count n)
    (matched : m.IsMatched) :
    o.InStep m n := by
  have dated := stores.dated
  obtain ⟨document, -, found⟩ := stores
  exact ⟨⟨_, found, rfl⟩, version, matched, dated⟩

/-- What spares its row leaves it in step. -/
lemma InStep.of_sparesRow (inStep : o.InStep m n) (spared : SparesRow m.id o o') : o'.InStep m n :=
  ⟨spared ▸ inStep.row, inStep.version, inStep.matched, inStep.dated⟩

/-- So does carrying it to a filter. -/
lemma InStep.carry (inStep : o.InStep m n) (a : FilterActions) : o.InStep (m.carry a) n :=
  ⟨inStep.row, inStep.version, Message.carry_isMatched inStep.matched a, inStep.dated⟩

/-- What is asked without writing the table of messages leaves a row that nobody else writes as it
is. -/
lemma ServesAmid.sparesRow (serves : ServesAmid (Disturbs id) o log o') (quiet : log.Unwritten) :
    SparesRow id o o' := by
  induction serves with
  | nil => rfl
  | cons disturbs answered _ ih =>
    obtain ⟨first, rest⟩ := List.forall_mem_cons.mp quiet
    have same := (framed_of_answer answered).messages first
    have spared := disturbs.row
    unfold SparesRow row? at *
    rw [ih rest, same, spared]

/-- What the store fails with is noted in its own words. -/
lemma noted_of_storeFails {e : Fault} (fails : StoreFails e) :
    Desk.noted (.error e) = .ok (some e.text) := by
  obtain ⟨store, unrivalled⟩ := fails
  cases e with
  | conflict cause => exact absurd rfl (unrivalled cause)
  | _ => first | rfl | cases store

/-- The message has a text that cannot be encoded, and so is the fault. -/
def Unencoded (m : Message) (e : Fault) : Prop :=
  (∀ document, m.stored ≠ .ok document) ∧ ∃ text, e = .value (.unencodable text)

/-- What is not stored is no fault of the store and goes unnoted. -/
lemma Unencoded.noted {e : Fault} (unencoded : Unencoded m e) :
    Desk.noted (.error e) = .error e := by
  obtain ⟨-, text, rfl⟩ := unencoded
  rfl

/-- A message with a date that cannot be encoded is not saved. -/
lemma saveMessage_unencoded {t : Store.MessageTable} {date : DateTime}
    (out : o.outages.lookup .saveMessage = none) (messages : o.messages = some t)
    (dated : m.timestamp = some date) (unencodable : (m.document date.iso).encodable = false) :
    ∃ e, o.saveMessage m = (.error e, o) ∧ Unencoded m e := by
  have written := Message.toJson_eq_ok_iff.mpr ⟨date, dated, rfl⟩
  refine ⟨.value (.unencodable ((m.document date.iso).write .unicode)), ?_,
    fun document stored => ?_, _, rfl⟩
  · unfold saveMessage unlessOut
    rw [out, messages]
    simp only [Store.writeMessage_of_unencodable written unencodable]
  · obtain ⟨same, whole⟩ := Message.stored_eq_ok_iff.mp stored
    cases written.symm.trans same
    cases unencodable.symm.trans whole

/-- A save at the version of the row goes through, unless the store fails or the message cannot be
encoded. -/
lemma InStep.save {answer : Except Fault Unit} (inStep : o.InStep m n) (few : n + 1 < 2 ^ 63)
    (outage : ∀ e, o.outages.lookup .saveMessage = some e → StoreFails e)
    (run : Act.Runs (Office.answer (.saveMessage m)) o world answer o') :
    (answer = .ok () ∧ o'.Stores m (n + 1)) ∨
    ∃ e, answer = .error e ∧ (StoreFails e ∨ Unencoded m e) ∧ o' = o := by
  obtain ⟨-, saved⟩ := answer_saveMessage_iff.mp run
  cases out : o.outages.lookup .saveMessage with
  | some e =>
    have failed : o.saveMessage m = (.error e, o) := by
      unfold saveMessage unlessOut
      rw [out]
    cases failed.symm.trans saved
    exact .inr ⟨e, rfl, .inl (outage e out), rfl⟩
  | none =>
    obtain ⟨r, found, counts⟩ := inStep.row
    obtain ⟨t, messages, found⟩ := Option.bind_eq_some_iff.mp found
    obtain ⟨date, dated⟩ := inStep.dated
    cases encodable : (m.document date.iso).encodable with
    | false =>
      obtain ⟨e, refused, unencoded⟩ := saveMessage_unencoded out messages dated encodable
      cases refused.symm.trans saved
      exact .inr ⟨e, rfl, .inr unencoded, rfl⟩
    | true =>
      have stored := Message.stored_eq_ok_iff.mpr
        ⟨Message.toJson_eq_ok_iff.mpr ⟨date, dated, rfl⟩, encodable⟩
      have fits : m.version.fits = true := inStep.version ▸ Store.fits_count (n := n) (by omega)
      have same : r.version.same m.version = true := by
        rw [counts, inStep.version]
        simp
      have copied : t.rows.any (·.isCopied m) = true := by
        refine List.any_eq_true.mpr ⟨r, List.mem_of_find?_eq_some found, ?_⟩
        simp [Store.MessageRow.isCopied, Store.MessageTable.row?_id found, same]
      have through := saveMessage_eq_ok_iff.mpr ⟨out, t, _, messages, stored, fits, copied, rfl⟩
      cases through.symm.trans saved
      refine .inl ⟨rfl, _, stored, ?_⟩
      rw [row?_of_messages rfl, Store.MessageTable.row?_save_own found same]
      unfold Store.MessageRow.written
      rw [Store.MessageTable.row?_id found, counts, Store.raised_saves few]

/-- A filter that is carried out has saved the message with its notes and counts as saved, or has
left the row as it was and does not. -/
lemma InStep.carried {outcome : Desk.FilterOutcome} (inStep : o.InStep m n) (few : n + 1 < 2 ^ 63)
    (carried : Desk.Carried c f m log outcome m') (serves : ServesAmid (Disturbs m.id) o log o') :
    (outcome.persisted = true ∧ m' = { m.carry f.actions with version := .count (n + 1 : Nat) } ∧
      o'.Stores (m.carry f.actions) (n + 1)) ∨
    (outcome.persisted = false ∧ m' = m.carry f.actions ∧ SparesRow m.id o o') := by
  cases carried with
  | @mk answer note replied forwarded replies forwards noted answered routed =>
    cases serves with
    | @cons _ o₁ o₂ _ _ _ _ world disturbs saving rest =>
      have carrying := (inStep.carry f.actions).of_sparesRow disturbs.row
      -- after the save the channels alone are asked
      have after :=
        rest.sparesRow
          (answered.unwritten.append (routed.unwritten fun _ _ _ => Desk.Routed.unwritten))
      obtain ⟨rfl, stores⟩ | ⟨e, rfl, fails, rfl⟩ := carrying.save few disturbs.outage saving
      · have next : (m.carry f.actions).version.next = .ok (.count (n + 1 : Nat)) :=
          carrying.version ▸ rfl
        rw [Message.kept_ok next] at noted ⊢
        cases noted
        obtain ⟨document, dated, found⟩ := stores
        exact .inl ⟨rfl, rfl, document, dated, after.trans found⟩
      · rw [Message.kept_error] at noted ⊢
        obtain fails | unencoded := fails
        · cases (noted_of_storeFails fails).symm.trans noted
          exact .inr ⟨rfl, rfl, after.trans disturbs.row⟩
        · cases unencoded.noted.symm.trans noted

/-- A filter is broken off by the route on which the sender was to be answered, or by a tag that
cannot be encoded, and by nothing else. -/
lemma InStep.runFilter {r : Except Fault Desk.FilterOutcome} (inStep : o.InStep m n)
    (few : n + 1 < 2 ^ 63)
    (run : Desk.Work.Runs (Desk.runFilter c f) m log r m')
    (serves : ServesAmid (Disturbs m.id) o log o') :
    (∃ fault, r = .error fault ∧
      (Desk.Unanswered c f m log fault m' ∨ Unencoded (m.carry f.actions) fault)) ∨
    ∃ outcome, r = .ok outcome ∧ Desk.Carried c f m log outcome m' := by
  obtain carried | ⟨fault, rfl, unanswered⟩ | ⟨answer, fault, rfl, unsaved, rfl, rfl⟩ :=
    (Desk.runs_runFilter_iff inStep.matched).mp run
  · exact .inr carried
  · exact .inl ⟨fault, rfl, .inl unanswered⟩
  · cases serves with
    | cons disturbs saving _ =>
      have carrying := (inStep.carry f.actions).of_sparesRow disturbs.row
      obtain ⟨rfl, -⟩ | ⟨e, rfl, fails, -⟩ := carrying.save few disturbs.outage saving
      · have next : (m.carry f.actions).version.next = .ok (.count (n + 1 : Nat)) :=
          carrying.version ▸ rfl
        rw [Message.kept_ok next] at unsaved
        cases unsaved
      · rw [Message.kept_error] at unsaved
        obtain fails | unencoded := fails
        · cases (noted_of_storeFails fails).symm.trans unsaved
        · cases unencoded.noted.symm.trans unsaved
          exact .inl ⟨fault, rfl, .inr unencoded⟩

/-- The filters up to the last one whose outcome counts as saved. -/
inductive SavedUpTo : List Filter → List Desk.FilterOutcome → List Filter → Prop where
  | here {f filters outcome outcomes} :
    outcome.persisted = true →
    (∀ later ∈ outcomes, later.persisted = false) →
    SavedUpTo (f :: filters) (outcome :: outcomes) [f]
  | later {f filters outcome outcomes saved} :
    SavedUpTo filters outcomes saved →
    SavedUpTo (f :: filters) (outcome :: outcomes) (f :: saved)

/-- In the end the row is what it was, if nothing counts as saved, or what the message was when the
last save went through. -/
def RowAfter (m : Message) (filters : List Filter) (outcomes : List Desk.FilterOutcome) (n : Nat)
    (o o' : Office) : Prop :=
  (∀ outcome ∈ outcomes, outcome.persisted = false) ∧ SparesRow m.id o o' ∨
    ∃ saved, SavedUpTo filters outcomes saved ∧ o'.Stores (m.noted saved) n

/-- A filter that did not save leaves it to the later ones what is in the row. -/
lemma RowAfter.of_unsaved {o₁ : Office} {outcome : Desk.FilterOutcome}
    {outcomes : List Desk.FilterOutcome}
    (unsaved : outcome.persisted = false) (spared : SparesRow m.id o o₁)
    (later : RowAfter (m.carry f.actions) filters outcomes n o₁ o') :
    RowAfter m (f :: filters) (outcome :: outcomes) n o o' := by
  obtain ⟨none, sparedStill⟩ | ⟨saved, upTo, stored⟩ := later
  · exact .inl ⟨List.forall_mem_cons.mpr ⟨unsaved, none⟩, Eq.trans sparedStill spared⟩
  · refine .inr ⟨f :: saved, .later upTo, ?_⟩
    rw [← Message.noted_cons]
    exact stored

/-- What a filter saved is in the row unless a later one saves more, and the version goes on from
there. -/
lemma RowAfter.of_saved {o₁ : Office} {outcome : Desk.FilterOutcome}
    {outcomes : List Desk.FilterOutcome}
    (matched : (m.carry f.actions).IsMatched) (persisted : outcome.persisted = true)
    (stores : o₁.Stores (m.carry f.actions) n)
    (later : RowAfter (m.carry f.actions) filters outcomes
      (n + outcomes.countP (·.persisted)) o₁ o') :
    RowAfter m (f :: filters) (outcome :: outcomes) (n + outcomes.countP (·.persisted)) o o' := by
  obtain ⟨none, spared⟩ | ⟨saved, upTo, stored⟩ := later
  · have zero : outcomes.countP (·.persisted) = 0 :=
      List.countP_eq_zero.mpr fun o member => by rw [none o member]; exact Bool.false_ne_true
    refine .inr ⟨[f], .here persisted none, ?_⟩
    rw [zero, Nat.add_zero, ← Message.noted_cons, Message.noted_nil matched]
    obtain ⟨document, dated, found⟩ := stores
    exact ⟨document, dated, Eq.trans spared found⟩
  · refine .inr ⟨f :: saved, .later upTo, ?_⟩
    rw [← Message.noted_cons]
    exact stored

/-- The fault of a text that cannot be encoded, which a filter has put on the message if it could be
stored before. -/
def Mistagged (m : Message) (filters : List Filter) (fault : Fault) : Prop :=
  (∃ text, fault = .value (.unencodable text)) ∧
    ((∃ document, m.stored = .ok document) →
      ∃ f ∈ filters, f.actions.addTags.all Text.encodable = false)

/-- Tags that cannot be encoded are those of one of the filters. -/
lemma Unencoded.mistagged {fault : Fault} (unencoded : Unencoded (m.carry f.actions) fault) :
    Mistagged m (f :: filters) fault := by
  obtain ⟨unstored, text, rfl⟩ := unencoded
  refine ⟨⟨text, rfl⟩, fun stored => ⟨f, List.mem_cons_self, ?_⟩⟩
  by_contra tags
  obtain ⟨document, carried⟩ := Message.exists_stored_carry stored (Bool.not_eq_false _ ▸ tags)
  exact unstored document carried

/-- They may be those of a later one. -/
lemma Mistagged.later {fault : Fault} (mistagged : Mistagged (m.carry f.actions) filters fault) :
    Mistagged m (f :: filters) fault := by
  refine ⟨mistagged.1, fun stored => ?_⟩
  cases tags : f.actions.addTags.all Text.encodable with
  | false => exact ⟨f, List.mem_cons_self, tags⟩
  | true =>
    obtain ⟨g, member, odd⟩ := mistagged.2 (Message.exists_stored_carry stored tags)
    exact ⟨g, List.mem_cons_of_mem f member, odd⟩

/-- Filters are broken off by the route for an answer or by a tag that cannot be encoded, or leave
both versions at the number of saves. -/
lemma InStep.runFilters {r : Except Fault (List Desk.FilterOutcome)} (inStep : o.InStep m n)
    (few : n + filters.length < 2 ^ 63)
    (run : Desk.Work.Runs (filters.mapM (Desk.runFilter c)) m log r m')
    (serves : ServesAmid (Disturbs m.id) o log o') :
    (∃ fault, r = .error fault ∧
      (Desk.Abandoned c filters m log fault m' ∨ Mistagged m filters fault)) ∨
    ∃ outcomes, r = .ok outcomes ∧ m'.version = .count (n + outcomes.countP (·.persisted) : Nat) ∧
      RowAfter m filters outcomes (n + outcomes.countP (·.persisted)) o o' := by
  -- the message stays in step with its row, after a save that goes through and after one that fails
  induction filters generalizing o m n log r with
  | nil =>
    obtain ⟨rfl, rfl, rfl⟩ := Desk.Work.runs_pure_iff.mp run
    cases serves
    exact .inr
      ⟨[], rfl, inStep.version, .inl ⟨fun outcome member => absurd member List.not_mem_nil, rfl⟩⟩
  | cons f filters ih =>
    rw [List.mapM_cons] at run
    rw [List.length_cons] at few
    obtain ⟨fault, first, rfl⟩ | ⟨outcome, m₁, log₁, log₂, rfl, first, later⟩ :=
      Desk.Work.runs_bind_iff.mp run
    · obtain ⟨_, same, unanswered | unencoded⟩ | ⟨_, impossible, -⟩ :=
        inStep.runFilter (by omega) first serves
      · cases same
        exact .inl ⟨fault, rfl, .inl (.here unanswered)⟩
      · cases same
        exact .inl ⟨fault, rfl, .inr unencoded.mistagged⟩
      · cases impossible
    · obtain ⟨o₁, serves₁, serves₂⟩ := servesAmid_append_iff.mp serves
      obtain ⟨_, impossible, -⟩ | ⟨_, same, carried⟩ := inStep.runFilter (by omega) first serves₁
      · cases impossible
      cases same
      obtain ⟨others, rest, rfl⟩ := Desk.Work.runs_bind_pure_iff.mp later
      have carrying := inStep.carry f.actions
      obtain ⟨persisted, rfl, stores⟩ | ⟨persisted, rfl, spared⟩ :=
        inStep.carried (by omega) carried serves₁
      · have still : o₁.InStep { m.carry f.actions with version := .count (n + 1 : Nat) } (n + 1) :=
          Stores.inStep stores rfl carrying.matched
        obtain ⟨fault, rfl, abandoned | mistagged⟩ | ⟨outcomes, rfl, version, ends⟩ :=
          ih still (by omega) rest serves₂
        · exact .inl ⟨fault, rfl, .inl (.later carried abandoned)⟩
        · exact .inl ⟨fault, rfl, .inr (Mistagged.later mistagged)⟩
        have more : (outcome :: outcomes).countP (·.persisted) =
            outcomes.countP (·.persisted) + 1 :=
          List.countP_cons_of_pos persisted
        have count : n + (outcome :: outcomes).countP (·.persisted) =
            n + 1 + outcomes.countP (·.persisted) := by
          omega
        refine .inr ⟨outcome :: outcomes, rfl, ?_⟩
        rw [count]
        exact ⟨version, RowAfter.of_saved carrying.matched persisted stores ends⟩
      · obtain ⟨fault, rfl, abandoned | mistagged⟩ | ⟨outcomes, rfl, version, ends⟩ :=
          ih (carrying.of_sparesRow spared) (by omega) rest serves₂
        · exact .inl ⟨fault, rfl, .inl (.later carried abandoned)⟩
        · exact .inl ⟨fault, rfl, .inr mistagged.later⟩
        refine .inr ⟨outcome :: outcomes, rfl, ?_⟩
        rw [List.countP_cons_of_neg (by rw [persisted]; exact Bool.false_ne_true)]
        exact ⟨version, RowAfter.of_unsaved persisted spared ends⟩

/-- A dispatch in which saves fail now and then loses nothing that a later save writes. When nobody
else writes the row of a message that was just created, and the store may fail any save without
telling of somebody else's, the dispatch ends with its outcomes unless it is broken off by the route
on which the sender was to be answered, or by a tag that cannot be encoded, or the message was
processed before. In the end the row is
as it was created, if no outcome counts as saved; otherwise it holds the message as it was when the
notes of all filters up to the last saved one were put on it, those whose own saves failed included.
The versions of the row and of the message are the number of outcomes that count as saved; the table
counts them up to a number that is more than any list holds. -/
theorem dispatch_recovers {r : Except Fault (List Desk.FilterOutcome)}
    (few : filters.length < 2 ^ 63)
    (created : o.Stores m 0) (fresh : m.version = .count 0)
    (run : Desk.Work.Runs (Desk.dispatch c filters) m log r m')
    (serves : ServesAmid (Disturbs m.id) o log o') :
    (∀ fault, r = .error fault → m.status = .processed ∧ filters ≠ [] ∨
      Desk.Abandoned c filters (m.entering filters) log fault m' ∨
      (∃ text, fault = .value (.unencodable text)) ∧
        ∃ f ∈ filters, f.actions.addTags.all Text.encodable = false) ∧
    ∀ outcomes, r = .ok outcomes →
      m'.version = .count (outcomes.countP (·.persisted) : Nat) ∧
      ((∀ outcome ∈ outcomes, outcome.persisted = false) ∧ o'.row? m.id = o.row? m.id ∨
        ∃ saved, SavedUpTo filters outcomes saved ∧
          o'.Stores (m.noted saved) (outcomes.countP (·.persisted))) := by
  by_cases none : filters = []
  · subst none
    obtain ⟨rfl, rfl, rfl⟩ := Desk.Work.runs_pure_iff.mp run
    cases serves
    refine ⟨nofun, fun outcomes same => ?_⟩
    cases same
    exact ⟨fresh, .inl ⟨fun outcome member => absurd member List.not_mem_nil, rfl⟩⟩
  by_cases processed : m.status = .processed
  · obtain ⟨fault, rfl⟩ := Desk.runs_dispatch_processed processed none run
    exact ⟨fun _ _ => .inl ⟨processed, none⟩, nofun⟩
  have matched := Message.entering_isMatched processed none
  have version : (m.entering filters).version = .count 0 := (m.entering_version filters).trans fresh
  rw [Desk.runs_dispatch_iff processed] at run
  have own : (m.entering filters).id = m.id ∧ (m.entering filters).timestamp = m.timestamp := by
    unfold Message.entering
    split <;> exact ⟨rfl, rfl⟩
  have dated := created.dated
  obtain ⟨document, stored, found⟩ := created
  have storable : ∃ document, (m.entering filters).stored = .ok document := by
    unfold Message.entering
    split
    · exact Message.exists_stored_status ⟨document, stored⟩ _
    · exact ⟨document, stored⟩
  have inStep : o.InStep (m.entering filters) 0 :=
    ⟨⟨_, own.1 ▸ found, rfl⟩, version, matched, own.2 ▸ dated⟩
  obtain ⟨fault, rfl, broken⟩ | ⟨outcomes, rfl, versions, ends⟩ :=
    inStep.runFilters (by omega) run (own.1 ▸ serves)
  · refine ⟨fun _ same => ?_, nofun⟩
    cases same
    exact .inr (broken.imp_right fun mistagged => ⟨mistagged.1, mistagged.2 storable⟩)
  · refine ⟨nofun, fun _ same => ?_⟩
    cases same
    rw [Nat.zero_add] at versions ends
    refine ⟨versions, ?_⟩
    obtain ⟨none, spared⟩ | ⟨saved, upTo, stores⟩ := ends
    · exact .inl ⟨none, own.1 ▸ spared⟩
    · rw [Message.noted_entering] at stores
      exact .inr ⟨saved, upTo, stores⟩

namespace Sample

open Desk.Sample (order urgent booked filing)

/-- A desk that answers nobody and forwards nothing. -/
def alone : Desk.Config :=
  { Desk.Sample.desk with routes := [] }

/-- The office right after the row of the message was created. -/
def received : Office :=
  (({} : Office).createMessage order).2

/-- What the store says when it cannot be reached. -/
def locked : Fault :=
  .store (.reported "database is locked")

/-- The message after the first, the second and the third filter. -/
def first : Message :=
  (order.entering [urgent, booked, filing]).carry urgent.actions

def second : Message :=
  first.carry booked.actions

def third : Message :=
  { second.carry filing.actions with version := .count 1 }

/-- The store fails the first save and the last one. -/
def interrupted : Desk.Log := [
  ⟨.saveMessage first, .error locked⟩, ⟨.saveMessage second, .ok ()⟩,
    ⟨.saveMessage third, .error locked⟩]

/-- An office in which messages cannot be saved. -/
def jammed (o : Office) : Office :=
  { o with outages := [(.saveMessage, locked)] }

/-- What is reported about the three filters. -/
def outcomes : List Desk.FilterOutcome := [
  ⟨"urgent", some "database is locked", []⟩, ⟨"booked", none, []⟩,
    ⟨"filing", some "database is locked", []⟩]

/-- The office serves what was interrupted. -/
lemma serves_interrupted :
    ServesAmid (Disturbs order.id) received interrupted
      (jammed (received.saveMessage second).2) := by
  have unrivalled : StoreFails locked := ⟨rfl, nofun⟩
  have jams (o : Office) : Disturbs order.id o (jammed o) :=
    ⟨rfl, fun e out => Option.some.inj out ▸ unrivalled⟩
  have fails (o : Office) (m : Message) : (jammed o).saveMessage m =
    (.error locked, jammed o) := rfl
  have mended : Disturbs order.id (jammed received) received := ⟨rfl, nofun⟩
  have goes : (received.saveMessage second).1 = .ok () := by decide +kernel
  have last := ServesAmid.cons (jams (received.saveMessage second).2)
    (answer_saveMessage_iff.mpr ⟨rfl, fails _ third⟩) .nil
  have later := ServesAmid.cons mended (answer_saveMessage_iff.mpr ⟨rfl, Prod.ext goes rfl⟩) last
  exact .cons (jams _) (answer_saveMessage_iff.mpr ⟨rfl, fails _ _⟩) later

end Sample

open Desk.Sample (order urgent booked filing) in
/-- Of three saves the second alone goes through, and saves the notes of the first filter as
well. -/
theorem dispatch_recovers_second :
    ∃ m' o',
      Desk.Work.Runs (Desk.dispatch Sample.alone [urgent, booked, filing]) order Sample.interrupted
        (.ok Sample.outcomes) m' ∧
      ServesAmid (Disturbs order.id) Sample.received Sample.interrupted o' ∧
      m'.version = .count 1 ∧ o'.Stores (order.noted [urgent, booked]) 1 := by
  obtain ⟨m', run⟩ : ∃ m',
    Desk.Work.Runs (Desk.dispatch Sample.alone [urgent, booked, filing]) order
      Sample.interrupted (.ok Sample.outcomes) m' := ⟨_, .ask (.ask (.ask .done))⟩
  have created : Sample.received.Stores order 0 :=
    ⟨_, Sample.stored_order, by decide +kernel⟩
  obtain ⟨-, recovers⟩ := dispatch_recovers (by decide) created rfl run Sample.serves_interrupted
  obtain ⟨version, ⟨none, -⟩ | ⟨saved, upTo, stores⟩⟩ := recovers _ rfl
  · exact absurd (none _ (.tail _ (.head _))) (by decide)
  · have two : saved = [urgent, booked] := by
      rcases upTo with ⟨impossible, -⟩ | (⟨-, -⟩ | (⟨impossible, -⟩ | ⟨⟨⟩⟩))
      · cases impossible
      · rfl
      · cases impossible
    subst two
    exact ⟨m', _, run, Sample.serves_interrupted, version, stores⟩

end Office

end ChatTriage
