import ChatTriage.Proofs.Office.Edits

/-!
# Update commands in either order

An edit changes neither the names nor the ids of the rows, and it leaves a filter that can be
encoded one that can; so it changes no verdict, at most the text in which a fault shows what could
not be encoded. Two commands for different filters, or for different fields of one filter, therefore
come to the same verdicts and the same table in either order; and of two commands for one field of
one filter the last one counts.
-/

namespace ChatTriage.Office

open Store (FilterTable FilterRow)
open Command (Update UpdateCommand Field)
open Desk (CommandResult)

variable {c : Desk.Config} {o o' p p' : Office} {m n : Message} {a b text : String}
    {log log' : Desk.Log}
  {world : World} {t s : FilterTable} {command command' : UpdateCommand}
    {r r' : Except Fault CommandResult}

/-- Two commands are for different filters or for different fields. -/
def Independent (command command' : UpdateCommand) : Prop :=
  command.filterName ≠ command'.filterName ∨
  ∀ field, Field.ofWord? command.field = some field → Field.ofWord? command'.field ≠ some field

/-- The table after an update command. -/
def after (t : FilterTable) (text : String) : FilterTable :=
  match verdict t text with
  | .error _ => t
  | .ok (command, u) => t.edited command.filterName u

/-- A selection that does not look at what is changed selects what came of the same member. -/
lemma find?_map_of_same {α : Type} {f : α → α} {select : α → Bool} {xs : List α}
    (same : ∀ x ∈ xs, select (f x) = select x) :
    (xs.map f).find? select = (xs.find? select).map f := by
  induction xs with
  | nil => rfl
  | cons x xs ih =>
    obtain ⟨first, rest⟩ := List.forall_mem_cons.mp same
    rw [List.map_cons, List.find?_cons, List.find?_cons, first, ih rest]
    cases select x <;> rfl

/-- The same result, or in both cases the fault of a text that cannot be encoded. -/
def SameResult (r r' : Except Fault CommandResult) : Prop :=
  r = r' ∨ (∃ text, r = .error (.value (.unencodable text))) ∧
    ∃ text, r' = .error (.value (.unencodable text))

/-- Results are the same in either order. -/
lemma SameResult.symm (same : SameResult r r') : SameResult r' r :=
  same.imp Eq.symm And.symm

/-- Two verdicts are to carry out the same update, or to refuse one with the same result. -/
inductive SameVerdict : Except (Except Fault CommandResult) (UpdateCommand × Update) →
    Except (Except Fault CommandResult) (UpdateCommand × Update) → Prop where
  | done {wish} :
    SameVerdict (.ok wish) (.ok wish)
  | refused {answer answer'} :
    SameResult answer answer' →
    SameVerdict (.error answer) (.error answer')

/-- A verdict is the same as itself. -/
lemma SameVerdict.rfl {x : Except (Except Fault CommandResult) (UpdateCommand × Update)} :
    SameVerdict x x := by
  cases x with
  | ok wish => exact .done
  | error answer => exact .refused (.inl (Eq.refl answer))

/-- An edit to a value that can be encoded keeps no other edit of the row from being made, and makes
none possible. -/
lemma refusal?_edited {row : FilterRow} {f : Filter} {u : Update} (name : String) (v : Update)
    (loaded : row.load = .ok f) (encodable : f.encodable = true) (plain : u.encodable = true) :
    (row.edited name u).refusal? v = row.refusal? v ∨
      (∃ text, (row.edited name u).refusal? v = some (.value (.unencodable text))) ∧
        ∃ text, row.refusal? v = some (.value (.unencodable text)) := by
  by_cases own : row.name = name
  · have edited := FilterRow.load_redefined_apply loaded u
    have still : (u.apply f).encodable = true := (u.encodable_apply encodable).trans plain
    rw [FilterRow.edited_of_load own loaded, FilterRow.refusal?_of_load loaded,
      FilterRow.refusal?_of_load edited, v.encodable_apply still, v.encodable_apply encodable]
    cases v.encodable with
    | true => exact .inl rfl
    | false => exact .inr ⟨⟨_, rfl⟩, _, rfl⟩
  · rw [FilterRow.edited_of_ne own]
    exact .inl rfl

/-- An edit to a value that can be encoded changes no verdict. -/
lemma verdict_edited {name : String} {u : Update} (loads : t.Loads) (encoded : t.Encoded)
    (trimmed : Text.trim name = name) (plain : u.encodable = true) :
    SameVerdict (verdict (t.edited name u) text) (verdict t text) := by
  have keeps (row : FilterRow) (member : row ∈ t.rows) :=
    FilterRow.edited_keeps (loads row member) trimmed u
  have found (sought : String) : (t.edited name u).rows.find? (·.name = sought) =
      (t.rows.find? (·.name = sought)).map (·.edited name u) :=
    find?_map_of_same fun row member => by rw [(keeps row member).2.1]
  unfold verdict
  cases Desk.wish text with
  | error why => exact .rfl
  | ok wished =>
    obtain ⟨command, v⟩ := wished
    simp only [found]
    cases Text.encodable command.filterName with
    | false => exact .rfl
    | true =>
      simp only [if_true]
      cases search : t.rows.find? (·.name = command.filterName) with
      | none => exact .rfl
      | some row =>
        have member := List.mem_of_find?_eq_some search
        obtain ⟨f, loaded⟩ := loads row member
        simp only [Option.map_some]
        obtain same | ⟨⟨text, odd⟩, text', odd'⟩ :=
          refusal?_edited name v loaded (encoded row member f loaded) plain
        · rw [same]
          exact .rfl
        · rw [odd, odd']
          exact .refused (.inr ⟨⟨text, rfl⟩, text', rfl⟩)

/-- The value of an update that is carried out can be encoded. -/
lemma encodable_of_verdict {u : Update} (loads : t.Loads) (encoded : t.Encoded)
    (done : verdict t text = .ok (command, u)) : u.encodable = true := by
  unfold verdict at done
  split at done
  · cases done
  split at done
  · split at done
    · cases done
    · rename_i row search
      have member := List.mem_of_find?_eq_some search
      obtain ⟨f, loaded⟩ := loads row member
      split at done
      · rename_i free
        cases done
        rw [FilterRow.refusal?_of_load loaded,
          u.encodable_apply (encoded row member f loaded)] at free
        split at free
        · assumption
        · cases free
      · cases done
  · cases done

/-- A whole table is whole after a command. -/
lemma whole_after (whole : t.Whole) : (after t text).Whole := by
  unfold after
  split
  · exact whole
  · rename_i done
    exact whole.edited (trim_of_wish (wish_of_verdict done)) _

/-- No command changes the verdict on another. -/
lemma verdict_after (whole : t.Whole) (encoded : t.Encoded) :
    SameVerdict (verdict (after t a) b) (verdict t b) := by
  unfold after
  split
  · exact .rfl
  · rename_i done
    exact verdict_edited whole.loads encoded (trim_of_wish (wish_of_verdict done))
      (encodable_of_verdict whole.loads encoded done)

/-- A command that is refused is refused after another, and one that is carried out is carried out
as well. -/
lemma verdict_after_cases (whole : t.Whole) (encoded : t.Encoded) :
    (∃ answer answer', verdict t b = .error answer ∧ verdict (after t a) b = .error answer') ∨
      ∃ wish, verdict t b = .ok wish ∧ verdict (after t a) b = .ok wish := by
  have same : SameVerdict (verdict (after t a) b) (verdict t b) := verdict_after whole encoded
  generalize verdict (after t a) b = later at same
  generalize verdict t b = sooner at same
  cases same with
  | done => exact .inr ⟨_, rfl, rfl⟩
  | refused => exact .inl ⟨_, _, rfl, rfl⟩

/-- A refused command leaves the table. -/
lemma after_of_refused {answer : Except Fault CommandResult}
    (refused : verdict t text = .error answer) :
    after t text = t := by
  simp only [after, refused]

/-- One that is carried out edits it. -/
lemma after_of_done {u : Update} (done : verdict t text = .ok (command, u)) :
    after t text = t.edited command.filterName u := by
  simp only [after, done]

/-- Independent commands come to one table in either order. -/
lemma after_comm (whole : t.Whole) (encoded : t.Encoded)
    (parsed : UpdateCommand.ofText a = .ok command)
    (parsed' : UpdateCommand.ofText b = .ok command') (independent : Independent command command') :
    after (after t a) b = after (after t b) a := by
  obtain ⟨_, _, one, later⟩ | ⟨pair, one, later⟩ :=
    verdict_after_cases (a := b) (b := a) whole encoded
  · rw [after_of_refused one, after_of_refused later]
  obtain ⟨_, _, other, later'⟩ | ⟨pair', other, later'⟩ :=
    verdict_after_cases (a := a) (b := b) whole encoded
  · rw [after_of_refused other, after_of_refused later']
  have wished := wish_of_verdict one
  have wished' := wish_of_verdict other
  obtain ⟨own, field, known, read⟩ := Desk.wish_eq_ok_iff.mp wished
  obtain ⟨own', field', known', read'⟩ := Desk.wish_eq_ok_iff.mp wished'
  have apart : pair.1.filterName ≠ pair'.1.filterName ∨ pair.2.field ≠ pair'.2.field := by
    rw [Update.field_of_read read, Update.field_of_read read']
    cases own.symm.trans parsed
    cases own'.symm.trans parsed'
    exact independent.imp_right fun differ same => differ field known (same ▸ known')
  rw [after_of_done later', after_of_done one, after_of_done later, after_of_done other]
  exact FilterTable.edited_comm whole.loads (trim_of_wish wished) (trim_of_wish wished') apart

/-- Of two commands for one field of one filter the last one counts, if it is carried out. -/
lemma after_last {field : Field} {u : Update} (whole : t.Whole) (encoded : t.Encoded)
    (parsed : UpdateCommand.ofText a = .ok command)
    (same : command.filterName = command'.filterName)
    (known : Field.ofWord? command.field = some field)
    (known' : Field.ofWord? command'.field = some field) (done : verdict t b = .ok (command', u)) :
    after (after t a) b = after t b := by
  have second : verdict (after t a) b = .ok (command', u) := by
    obtain ⟨_, _, refused, -⟩ | ⟨wish, undisturbed, later⟩ :=
      verdict_after_cases (a := a) (b := b) whole encoded
    · cases done.symm.trans refused
    · cases done.symm.trans undisturbed
      exact later
  cases one : verdict t a with
  | error answer => rw [after_of_refused one]
  | ok pair =>
    have wished := wish_of_verdict one
    obtain ⟨own, field₁, known₁, read⟩ := Desk.wish_eq_ok_iff.mp wished
    obtain ⟨-, field₂, known₂, read'⟩ := Desk.wish_eq_ok_iff.mp (wish_of_verdict done)
    have fields : pair.2.field = u.field := by
      rw [Update.field_of_read read, Update.field_of_read read']
      cases own.symm.trans parsed
      cases known₁.symm.trans known
      cases known₂.symm.trans known'
      rfl
    rw [after_of_done second, after_of_done one, after_of_done done, ← same]
    cases own.symm.trans parsed
    exact FilterTable.edited_last whole.loads (trim_of_wish wished) fields

/-! ### Runs -/

/-- The routes that fail to tell whether they are open are the same in two logs, and fail alike. -/
def SameFailures (log log' : Desk.Log) : Prop :=
  ∀ route e, (⟨.available route, .error e⟩ : Exchange Desk.service) ∈ log ↔
    (⟨.available route, .error e⟩ : Exchange Desk.service) ∈ log'

/-- Two commands are carried out one after the other. -/
structure InTurn (c : Desk.Config) (m n : Message) (o : Office) (world : World)
    (log log' : Desk.Log)
    (r r' : Except Fault CommandResult) (o' : Office) : Prop where
  first : Desk.Task.Runs (Desk.handle c m) log r
  second : Desk.Task.Runs (Desk.handle c n) log' r'
  serves : Serves o (log ++ log') world o'

/-- After a command the table is the one that it comes to. -/
lemma Carried.ready (ready : o.Ready t) (carried : Carried c m o t text log r o') :
    o'.Ready (after t text) := by
  have whole : (after t text).Whole := whole_after ready.whole
  cases carried with
  | refused refused =>
    rw [after_of_refused refused]
    exact ready
  | done done =>
    rw [after_of_done done] at whole ⊢
    exact ⟨rfl, whole, ready.order⟩

/-- After a command the rules are those of its table, or those from before if it was refused. -/
lemma Carried.snapshot (carried : Carried c m o t text log r o') :
    o'.snapshot = match verdict t text with
      | .error _ => o.snapshot
      | .ok _ => (after t text).enabled := by
  cases carried with
  | refused refused => rw [refused]
  | done done =>
    rw [after_of_done done, done]
    rfl

/-- After two commands the rules are those of the table, or those from before if both were
refused. -/
lemma Carried.snapshot_next (first : Carried c m o t a log r p)
    (second : Carried c n p (after t a) b log' r' o') (whole : t.Whole) (encoded : t.Encoded) :
    o'.snapshot = match verdict t a, verdict t b with
      | .error _, .error _ => o.snapshot
      | _, _ => (after (after t a) b).enabled := by
  rw [second.snapshot, first.snapshot]
  obtain ⟨_, _, refused, later⟩ | ⟨_, done, later⟩ :=
    verdict_after_cases (a := a) (b := b) whole encoded
  · rw [refused, later, after_of_refused later]
    cases verdict t a <;> rfl
  · rw [done, later]
    cases verdict t a <;> rfl

/-- Commands that come to one verdict have one result, if their confirmations fail alike. -/
lemma Carried.result (carried : Carried c m o t text log r o')
    (carried' : Carried c m p s text log' r' p')
    (same : SameVerdict (verdict s text) (verdict t text)) (alike : SameFailures log log') :
    SameResult r r' := by
  cases carried with
  | refused refused =>
    cases carried' with
    | refused refused' =>
      rw [refused, refused'] at same
      cases same with
      | refused same => exact same.symm
    | done done =>
      rw [refused, done] at same
      cases same
  | @done command u lines told done fails =>
    cases carried' with
    | refused refused' =>
      rw [done, refused'] at same
      cases same
    | @done command' u' lines' told' done' fails' =>
      rw [done, done'] at same
      cases same
      refine .inl ?_
      have unconfirmed (e : Fault) : Desk.UnconfirmedBy c m log e ↔ Desk.UnconfirmedBy c m log' e :=
        or_congr_right (exists_congr fun route => and_congr_right fun _ => alike route e)
      have both (e : Fault) : told = .error e ↔ told' = .error e :=
        (fails e).trans ((unconfirmed e).trans (fails' e).symm)
      cases told with
      | error e => rw [(both e).mp rfl]
      | ok done =>
        cases told' with
        | error e => cases (both e).mpr rfl
        | ok done' => rfl

/-- A command that succeeds is carried out. -/
lemma Carried.verdict_ok (carried : Carried c m o t text log r o') (succeeds : Desk.Succeeds r)
    (parsed : UpdateCommand.ofText text = .ok command) :
    ∃ u, verdict t text = .ok (command, u) := by
  cases carried with
  | refused refused =>
    obtain ⟨why, refusal⟩ := refusal_of_verdict refused
    obtain ⟨result, same, success⟩ := succeeds
    cases (Desk.success_of_refusal (refusal.symm.trans same)).symm.trans success
  | @done command' u lines told done =>
    obtain ⟨own, -⟩ := Desk.wish_eq_ok_iff.mp (wish_of_verdict done)
    cases own.symm.trans parsed
    exact ⟨u, done⟩

/-- The commands one after the other, each carried out as its verdict says. -/
lemma InTurn.carried (inTurn : InTurn c m n o world log log' r r' o') (ready : o.Ready t)
    (asks : AsksUpdate c m a) (asks' : AsksUpdate c n b) :
    ∃ o₁, Carried c m o t a log r o₁ ∧ Carried c n o₁ (after t a) b log' r' o' := by
  obtain ⟨o₁, w₁, w₂, rfl, serves, serves'⟩ := serves_append_iff.mp inTurn.serves
  have carried := ready.handles asks inTurn.first serves
  exact ⟨o₁, carried, (carried.ready ready).handles asks' inTurn.second serves'⟩

/-- Whatever the world tells, two commands one after the other come to their ends. -/
lemma exists_inTurn (c : Desk.Config) (m n : Message) (o : Office)
    (tell : World → (q : Request) → q.Answer) :
    ∃ world log log' r r' o', Dialogue.Told tell [] world ∧
      InTurn c m n o world log log' r r' o' := by
  obtain ⟨world, ⟨⟨r, r'⟩, o'⟩, told, run⟩ :=
    Dialogue.exists_run (StateT.run (Dialogue.run answer (do
    let r ← (Desk.handle c m).run
    let r' ← (Desk.handle c n).run
    return (r, r'))) o) tell []
  obtain ⟨log, runs, serves⟩ := runs_run_iff.mp run
  obtain ⟨r, log₁, log₂, rfl, first, rest⟩ := Dialogue.runs_bind_iff.mp runs
  obtain ⟨r', log₃, log₄, rfl, second, last⟩ := Dialogue.runs_bind_iff.mp rest
  obtain ⟨rfl, same⟩ := Dialogue.runs_done_iff.mp last
  cases same
  rw [List.append_nil] at serves
  exact ⟨world, log₁, log₃, r, r', o', told, first, second, serves⟩

/-- Independent update commands commute. In an office whose table loads as filters that can be
encoded, which those that the program writes do (`FilterTable.Written.encoded`), let an operator
give two commands for updates that are for different filters, or for different fields of one filter.
In either order they come to the same table, the same rules are in force and each command has the
same result, provided that its confirmation fails alike, if it fails; what a fault shows of a text
that cannot be encoded apart. And of two commands for one field of one filter, when the second
succeeds, the table is the one that the second alone would have come to. -/
theorem independent_updates_commute (filters : o.filters = some t) (arises : t.Arises)
    (loads : t.Loads) (encoded : t.Encoded)
    (order : o.outages = []) (asks : AsksUpdate c m a) (asks' : AsksUpdate c n b)
    (parsed : UpdateCommand.ofText a = .ok command)
    (parsed' : UpdateCommand.ofText b = .ok command') :
    (∀ tell,
      (∃ world log log' r r' o', Dialogue.Told tell [] world ∧
        InTurn c m n o world log log' r r' o') ∧
      ∃ world log log' r r' o', Dialogue.Told tell [] world ∧
        InTurn c n m o world log log' r r' o') ∧
    (Independent command command' →
      ∀ world log₁ log₂ r₁ r₂ o' world' log₁' log₂' r₁' r₂' p',
        InTurn c m n o world log₁ log₂ r₁ r₂ o' →
        InTurn c n m o world' log₂' log₁' r₂' r₁' p' →
        o'.filters = p'.filters ∧ o'.snapshot = p'.snapshot ∧
        (SameFailures log₁ log₁' → SameResult r₁ r₁') ∧
        (SameFailures log₂ log₂' → SameResult r₂ r₂')) ∧
    ∀ field, command.filterName = command'.filterName → Field.ofWord? command.field = some field →
      Field.ofWord? command'.field = some field →
      ∀ world log₁ log₂ r₁ r₂ o' world' log r p', InTurn c m n o world log₁ log₂ r₁ r₂ o' →
        Desk.Task.Runs (Desk.handle c n) log r → Serves o log world' p' → Desk.Succeeds r₂ →
        o'.filters = p'.filters ∧ o'.snapshot = p'.snapshot := by
  have ready : o.Ready t := ⟨filters, arises.whole loads, order⟩
  have whole := ready.whole
  have unmoved : SameVerdict (verdict (after t b) a) (verdict t a) := verdict_after whole encoded
  have unmoved' : SameVerdict (verdict (after t a) b) (verdict t b) := verdict_after whole encoded
  refine ⟨fun tell => ⟨exists_inTurn c m n o tell, exists_inTurn c n m o tell⟩, ?_, ?_⟩
  · intro independent world log₁ log₂ r₁ r₂ o' world' log₁' log₂' r₁' r₂' p' inTurn inTurn'
    obtain ⟨o₁, first, second⟩ := inTurn.carried ready asks asks'
    obtain ⟨p₁, first', second'⟩ := inTurn'.carried ready asks' asks
    have here := second.ready (first.ready ready)
    have there := second'.ready (first'.ready ready)
    have comm := after_comm whole encoded parsed parsed' independent
    refine ⟨?_, ?_, first.result second' unmoved, fun alike => ?_⟩
    · rw [here.filters, there.filters, comm]
    · rw [first.snapshot_next second whole encoded,
        first'.snapshot_next second' whole encoded, comm]
      cases verdict t a <;> cases verdict t b <;> rfl
    · exact (first'.result second unmoved' fun route e => (alike route e).symm).symm
  · intro field same known known' world log₁ log₂ r₁ r₂ o' world' log r p' inTurn run
      serves succeeds
    obtain ⟨o₁, first, second⟩ := inTurn.carried ready asks asks'
    have alone := ready.handles asks' run serves
    obtain ⟨u, done⟩ := second.verdict_ok succeeds parsed'
    have undisturbed : verdict t b = .ok (command', u) := by
      rw [done] at unmoved'
      generalize verdict t b = sooner at unmoved'
      cases unmoved'
      rfl
    have last : after (after t a) b = after t b :=
      after_last whole encoded parsed same known known' undisturbed
    refine ⟨?_, ?_⟩
    · rw [(second.ready (first.ready ready)).filters, (alone.ready ready).filters, last]
    · rw [second.snapshot, alone.snapshot, done, undisturbed, last]

namespace Sample

open Desk.Sample

/-- Another command of the operator. -/
def raise : Message :=
  { order with content := { type := .text, text := .str "update filter Work priority high" } }

/-- The filter when its priority is raised. -/
def raised : Filter :=
  (Update.priority .high).apply stored

/-- The filter after both commands. -/
def both : Filter :=
  (Update.priority .high).apply off

/-- The filter of the table can be encoded. -/
lemma encoded_defined : defined.Encoded := by decide +kernel

/-- The text is an update command. -/
lemma asks_raise : AsksUpdate staffed raise "update filter Work priority high" :=
  ⟨by decide +kernel, rfl, by decide +kernel⟩

/-- The office serves one command after the other. -/
lemma serves_switch_raise :
    ∃ world o', Serves manned (changing stored off [] ++ changing off both []) world o' := by
  obtain ⟨w, last⟩ :=
    serves_changing (changed manned off []) off both [] (by decide +kernel) (by decide +kernel)
    (by decide +kernel) (by decide +kernel) .nil
  rw [List.append_nil] at last
  obtain ⟨world, serves⟩ :=
    serves_changing manned stored off [] (by decide +kernel) (by decide +kernel)
    (by decide +kernel) (by decide +kernel) last
  exact ⟨world, _, serves⟩

/-- It serves them the other way round. -/
lemma serves_raise_switch :
    ∃ world o',
      Serves manned (changing stored raised [raised] ++ changing raised both []) world o' := by
  obtain ⟨w, last⟩ :=
    serves_changing (changed manned raised [raised]) raised both [] (by decide +kernel)
    (by decide +kernel) (by decide +kernel) (by decide +kernel) .nil
  rw [List.append_nil] at last
  obtain ⟨world, serves⟩ := serves_changing manned stored raised [raised] (by decide +kernel)
    (by decide +kernel) (by decide +kernel) (by decide +kernel) last
  exact ⟨world, _, serves⟩

/-- The filter is switched off and then raised. -/
lemma switch_raise : ∃ world o', InTurn staffed switch raise manned world (changing stored off [])
    (changing off both []) (.ok (Desk.updated ⟨"Work", "active", "false"⟩ (.active false)))
    (.ok (Desk.updated ⟨"Work", "priority", "high"⟩ (.priority .high))) o' := by
  obtain ⟨world, o', serves⟩ := serves_switch_raise
  exact ⟨world, o', runs_switched, .ask (.ask (.ask (.ask (.ask .done)))), serves⟩

/-- The filter is raised and then switched off. -/
lemma raise_switch :
    ∃ world o', InTurn staffed raise switch manned world (changing stored raised [raised])
    (changing raised both []) (.ok (Desk.updated ⟨"Work", "priority", "high"⟩ (.priority .high)))
    (.ok (Desk.updated ⟨"Work", "active", "false"⟩ (.active false))) o' := by
  obtain ⟨world, o', serves⟩ := serves_raise_switch
  exact ⟨world, o', .ask (.ask (.ask (.ask (.ask .done)))),
    .ask (.ask (.ask (.ask (.ask .done)))), serves⟩

end Sample

open Sample in
/-- To switch a filter off and to raise its priority comes to the same in either order. -/
theorem switching_and_raising_commute :
    ∃ world world' o' p',
      InTurn staffed switch raise manned world (changing stored off []) (changing off both [])
        (.ok (Desk.updated ⟨"Work", "active", "false"⟩ (.active false)))
        (.ok (Desk.updated ⟨"Work", "priority", "high"⟩ (.priority .high))) o' ∧
      InTurn staffed raise switch manned world' (changing stored raised [raised])
        (changing raised both [])
        (.ok (Desk.updated ⟨"Work", "priority", "high"⟩ (.priority .high)))
        (.ok (Desk.updated ⟨"Work", "active", "false"⟩ (.active false))) p' ∧
      o'.filters = p'.filters ∧ o'.snapshot = p'.snapshot := by
  have active : Field.ofWord? "active" = some .active := by decide +kernel
  have priority : Field.ofWord? "priority" = some .priority := by decide +kernel
  have independent : Independent ⟨"Work", "active", "false"⟩ ⟨"Work", "priority", "high"⟩ := by
    refine .inr fun field known known' => ?_
    cases active.symm.trans known
    cases priority.symm.trans known'
  obtain ⟨world, o', first⟩ := switch_raise
  obtain ⟨world', p', second⟩ := raise_switch
  obtain ⟨filters, snapshot, -⟩ :=
    (independent_updates_commute rfl arises_defined loads_defined encoded_defined rfl asks_switch
      asks_raise
      (by decide +kernel) (by decide +kernel)).2.1 independent _ _ _ _ _ _ _ _ _ _ _ _ first second
  exact ⟨world, world', o', p', first, second, filters, snapshot⟩

end ChatTriage.Office
