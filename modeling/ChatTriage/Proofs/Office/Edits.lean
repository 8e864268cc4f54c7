import ChatTriage.Proofs.Command.Text
import ChatTriage.Proofs.Desk.Route
import ChatTriage.Proofs.Office.Orders
import ChatTriage.Proofs.Store.Edited

/-!
# What an update changes

In an office whose table is whole and whose stores work, an update command comes to a `verdict`,
which hangs on the table alone: it is refused, or it gives a field of the filter with its name a new
value. Then that value is all that changes in the table, and the rules are those of the new table.
What the store cannot encode is refused with a fault that no result tells of.
-/

namespace ChatTriage.Office

open Store (FilterTable FilterRow)
open Command (Update UpdateCommand)
open Desk (CommandResult)

variable {c : Desk.Config} {o o' p p' : Office} {m : Message} {text : String} {log log' : Desk.Log}
  {world : World} {t s : FilterTable} {command : UpdateCommand} {u : Update}
  {r r' : Except Fault CommandResult}

/-- The office has a table that is whole, and nothing is out of order. -/
structure Ready (o : Office) (t : FilterTable) : Prop where
  filters : o.filters = some t
  whole : t.Whole
  order : o.outages = []

/-- The command and the update that a text comes to with a table; or what the operator gets
instead. -/
def verdict (t : FilterTable) (text : String) :
    Except (Except Fault CommandResult) (UpdateCommand × Update) :=
  match Desk.wish text with
  | .error why => .error (Desk.refusal why)
  | .ok (command, u) =>
    if Text.encodable command.filterName then
      match t.rows.find? (·.name = command.filterName) with
      | none => .error (Desk.refusal (.ok (Desk.notFound command.filterName)))
      | some row =>
        match row.refusal? u with
        | none => .ok (command, u)
        | some e => .error (Desk.refusal (.error e))
    else .error (Desk.refusal (.error (.value (.unencodable command.filterName))))

/-- The office with a table, the rules of which are in force. -/
def ruledBy (o : Office) (t : FilterTable) : Office :=
  { o with filters := some t, snapshot := t.enabled, loaded := true }

/-- What is carried out was wished for. -/
lemma wish_of_verdict (verdict : verdict t text = .ok (command, u)) :
    Desk.wish text = .ok (command, u) := by
  unfold Office.verdict at verdict
  split at verdict
  · cases verdict
  rename_i wished
  split at verdict
  · split at verdict
    · cases verdict
    split at verdict
    · cases verdict
      exact wished
    · cases verdict
  · cases verdict

/-- The name that an update is for has no blanks around it. -/
lemma trim_of_wish (wished : Desk.wish text = .ok (command, u)) :
    Text.trim command.filterName = command.filterName :=
  Command.trim_filterName (Desk.wish_eq_ok_iff.mp wished).1

/-- Looking for a filter by its name in a whole table. -/
lemma Ready.named (ready : o.Ready t) {name : String} {found : Except Fault (Option Filter)}
    (answered : Act.Runs (answer (.filterNamed name)) o world found o') :
    o' = o ∧ ((Text.encodable name = false ∧ found = .error (.value (.unencodable name))) ∨
      Text.encodable name = true ∧
        ((t.rows.find? (·.name = name) = none ∧ found = .ok none) ∨
        ∃ row f, t.rows.find? (·.name = name) = some row ∧ row ∈ t.rows ∧ row.name = name ∧
          row.load = .ok f ∧ found = .ok (some f))) := by
  obtain ⟨-, rfl, rfl⟩ := Act.runs_pure_iff.mp answered
  refine ⟨rfl, ?_⟩
  rw [Office.filterNamed, unlessOut_eq ready.order, ready.filters]
  cases encodable : Text.encodable name with
  | false => exact .inl ⟨rfl, Store.filterNamed_of_unencodable encodable⟩
  | true =>
    refine .inr ⟨rfl, ?_⟩
    cases search : t.rows.find? (·.name = name) with
    | none =>
      refine .inl ⟨rfl, FilterTable.filterNamed_of_absent encodable fun row member same => ?_⟩
      exact absurd (decide_eq_true same) (List.find?_eq_none.mp search row member)
    | some row =>
      have member := List.mem_of_find?_eq_some search
      have own := List.find?_some search
      obtain rfl := of_decide_eq_true own
      obtain ⟨f, loaded⟩ := ready.whole.loads row member
      exact .inr ⟨row, f, rfl, member, rfl, loaded,
        ready.whole.filterNamed_of_mem member encodable loaded⟩

/-- Storing the edited filter of a row of a whole table. -/
lemma Ready.stores (ready : o.Ready t) {row : FilterRow} {f : Filter}
    {answered : Except Fault Filter}
    (member : row ∈ t.rows) (loaded : row.load = .ok f) (trimmed : Text.trim row.name = row.name)
    (run : Act.Runs (answer (.storeFilter (u.apply f))) o world answered o') :
    (row.refusal? u = none ∧ answered = .ok (u.apply f) ∧
      o' = { o with filters := some (t.edited row.name u) }) ∨
    ∃ e, row.refusal? u = some e ∧ answered = .error e ∧ o' = o := by
  obtain ⟨-, saved⟩ := Act.runs_change_iff.mp run
  simp only [unlessOut_eq ready.order, ready.filters,
    ready.whole.saveFilter_apply member loaded trimmed] at saved
  cases refused : row.refusal? u with
  | none =>
    rw [refused] at saved
    cases saved
    exact .inl ⟨rfl, rfl, rfl⟩
  | some e =>
    rw [refused] at saved
    cases saved
    exact .inr ⟨e, rfl, rfl, by rw [← ready.filters]⟩

/-- Reading the rules anew puts those of the table in force. -/
lemma Ready.refreshes (ready : o.Ready t) {read : Except Fault (List Filter)}
    (run : Desk.Task.Runs Desk.refresh log read) (serves : Serves o log world o') :
    read = .ok t.enabled ∧ o' = o.ruledBy t := by
  have loads : ∀ row ∈ t.enabledRows, ∃ f, row.load = .ok f := fun row member =>
    ready.whole.loads row (List.mem_filter.mp member).1
  have query : Store.enabledFilters o.filters = .ok t.enabled := by
    rw [ready.filters, t.enabledFilters_eq loads]
  obtain ⟨same, -⟩ := runs_refresh ready.order run serves
  rw [refreshed_of_query query] at same
  cases same
  exact ⟨rfl, by rw [Office.ruledBy, ← ready.filters]⟩

/-- What comes of an update, and the office after it, before the operator is told. -/
def edit (o : Office) (t : FilterTable) (text : String) : Except Fault CommandResult × Office :=
  match verdict t text with
  | .error answer => (answer, o)
  | .ok (command, u) => (.ok (Desk.updated command u), o.ruledBy (t.edited command.filterName u))

/-- An update comes to its verdict. -/
lemma Ready.edits (ready : o.Ready t) (updating : Desk.Updating text log r)
    (serves : Serves o log world o') : (r, o') = o.edit t text := by
  unfold edit verdict
  cases updating with
  | senseless senseless =>
    cases serves
    simp only [senseless]
  | @unread command u e wished =>
    obtain ⟨rfl, ⟨odd, same⟩ | ⟨-, ⟨-, impossible⟩ | ⟨_, _, -, -, -, -, impossible⟩⟩⟩ :=
      ready.named (serves_one_iff.mp serves)
    · cases same
      simp [wished, odd]
    · cases impossible
    · cases impossible
  | missing wished =>
    obtain ⟨rfl, ⟨-, impossible⟩ | ⟨plain, ⟨absent, -⟩ | ⟨_, _, -, -, -, -, impossible⟩⟩⟩ :=
      ready.named (serves_one_iff.mp serves)
    · cases impossible
    · simp [wished, plain, absent]
    · cases impossible
  | @unsaved command u f e wished =>
    obtain ⟨o₁, w₁, w₂, rfl, named, rest⟩ := serves_cons_iff.mp serves
    obtain ⟨rfl, ⟨-, impossible⟩ | ⟨plain, ⟨-, impossible⟩ |
      ⟨row, g, search, member, own, loaded, same⟩⟩⟩ := ready.named named
    · cases impossible
    · cases impossible
    cases same
    have trimmed := trim_of_wish wished
    rw [← own] at trimmed
    obtain ⟨-, impossible, -⟩ | ⟨e, refused, same, rfl⟩ :=
      ready.stores member loaded trimmed (serves_one_iff.mp rest)
    · cases impossible
    · cases same
      simp [wished, plain, search, refused]
  | @saved command u f g rest read wished reading =>
    obtain ⟨o₁, w₁, w₂, rfl, named, later⟩ := serves_cons_iff.mp serves
    obtain ⟨rfl, ⟨-, impossible⟩ | ⟨plain, ⟨-, impossible⟩ |
      ⟨row, g, search, member, own, loaded, same⟩⟩⟩ := ready.named named
    · cases impossible
    · cases impossible
    cases same
    have trimmed := trim_of_wish wished
    rw [← own] at trimmed
    obtain ⟨o₂, w₃, w₄, rfl, stored, last⟩ := serves_cons_iff.mp later
    obtain ⟨free, -, rfl⟩ | ⟨e, -, impossible, -⟩ := ready.stores member loaded trimmed stored
    · have edited : Ready { o₁ with filters := some (t.edited row.name u) } (t.edited row.name u) :=
        ⟨rfl, ready.whole.edited trimmed u, ready.order⟩
      obtain ⟨rfl, rfl⟩ := edited.refreshes reading last
      simp only [wished, plain, search, free, own, if_true]
      rfl
    · cases impossible

/-- What is answered at once is a refusal. -/
lemma refusal_of_verdict {answer : Except Fault CommandResult}
    (verdict : verdict t text = .error answer) :
    ∃ why, answer = Desk.refusal why := by
  unfold Office.verdict at verdict
  split at verdict
  · cases verdict
    exact ⟨_, rfl⟩
  split at verdict
  · split at verdict
    · cases verdict
      exact ⟨_, rfl⟩
    split at verdict
    · cases verdict
    · cases verdict
      exact ⟨_, rfl⟩
  · cases verdict
    exact ⟨_, rfl⟩

/-- A confirmation changes nothing but the lines. -/
lemma lines_of_confirm {told : Except Fault Unit}
    (run : Desk.Task.Runs (Desk.confirm c m text) log told)
    (serves : Serves o log world o') : ∃ lines, o' = { o with lines } := by
  cases Desk.runs_confirm run with
  | unnamed | nowhere =>
    cases serves
    exact ⟨o.lines, rfl⟩
  | untold | closed => exact ⟨o.lines, same_of_available (serves_one_iff.mp serves)⟩
  | sent =>
    obtain ⟨o₁, w₁, w₂, rfl, available, rest⟩ := serves_cons_iff.mp serves
    obtain rfl := same_of_available available
    exact lines_of_send (serves_one_iff.mp rest)

/-- A command for an update was carried out: as its verdict says, which leaves the office as it is
if it refuses the update; and the operator gets the result unless the confirmation fails. -/
inductive Carried (c : Desk.Config) (m : Message) (o : Office) (t : FilterTable) (text : String)
    (log : Desk.Log) :
    Except Fault CommandResult → Office → Prop
  | refused {answer} :
    verdict t text = .error answer →
    Carried c m o t text log answer o
  | done {command u lines} {told : Except Fault Unit} :
    verdict t text = .ok (command, u) →
    (∀ e, told = .error e ↔ Desk.UnconfirmedBy c m log e) →
    Carried c m o t text log (told.map fun _ => Desk.updated command u)
      { o.ruledBy (t.edited command.filterName u) with lines }

/-- An office that is ready carries an update out according to its verdict. -/
lemma Ready.carries (ready : o.Ready t)
    (run : Desk.Task.Runs (Desk.updateFilter text >>= Desk.telling c m) log r)
    (serves : Serves o log world o') : Carried c m o t text log r o' := by
  obtain ⟨e, update, rfl⟩ | ⟨result, log₁, log₂, rfl, update, telling⟩ :=
    Desk.Task.runs_bind_iff.mp run
  · have edits := ready.edits (Desk.runs_updateFilter update) serves
    unfold edit at edits
    cases verdict : verdict t text with
    | error answer =>
      rw [verdict] at edits
      cases edits
      exact .refused verdict
    | ok wish =>
      rw [verdict] at edits
      cases edits
  · have updating := Desk.runs_updateFilter update
    obtain ⟨o₁, w₁, w₂, rfl, serves₁, serves₂⟩ := serves_append_iff.mp serves
    have edits := ready.edits updating serves₁
    unfold edit at edits
    cases verdict : verdict t text with
    | error answer =>
      rw [verdict] at edits
      cases edits
      obtain ⟨why, refusal⟩ := refusal_of_verdict verdict
      have failed := Desk.success_of_refusal refusal.symm
      obtain ⟨-, rfl, rfl⟩ | ⟨succeeded, -⟩ := Desk.runs_telling_iff.mp telling
      · cases serves₂
        exact .refused verdict
      · cases failed.symm.trans succeeded
    | ok wish =>
      obtain ⟨command, u⟩ := wish
      rw [verdict] at edits
      cases edits
      obtain ⟨impossible, -⟩ | ⟨-, told, confirming, rfl⟩ := Desk.runs_telling_iff.mp telling
      · cases impossible
      · obtain ⟨lines, rfl⟩ := lines_of_confirm confirming serves₂
        refine .done verdict fun e => ?_
        rw [Desk.runs_confirm_error_iff confirming, Desk.unconfirmedBy_append updating.inward]

/-- What an update command asks for that is written with single spaces. -/
lemma wish_written {verb object name word value : String} {field : Command.Field}
    (which : Command.Verb verb object) (named : Text.Trimmed name.toList)
    (solid : Text.Solid word.toList)
    (trimmed : Text.Trimmed value.toList) (known : Command.Field.ofWord? word = some field)
    (last : ∀ w ∈ (Text.words value.toList).dropLast, ¬ Command.Names w)
    (read : Update.read field value = .ok u) :
    Desk.wish (verb ++ " " ++ object ++ " " ++ name ++ " " ++ word ++ " " ++ value) =
      .ok (⟨name, Text.lower word, value⟩, u) := by
  have names : Command.Names word.toList := by
    rw [Command.Names, String.ofList_toList, known]
    rfl
  have lowered := Command.ofWord?_lower solid
  rw [String.ofList_toList, known] at lowered
  exact Desk.wish_eq_ok_iff.mpr
    ⟨Command.ofText_written which.spaced named solid trimmed names last, field, lowered, read⟩

/-- A message of an operator is recognized as one that asks for an update. -/
structure AsksUpdate (c : Desk.Config) (m : Message) (text : String) : Prop where
  admin : c.isAdmin m = true
  written : m.text = .str text
  recognized : Command.Intent.of text = .update

/-- An update command is carried out as its verdict says. -/
lemma Ready.handles (ready : o.Ready t) (asks : AsksUpdate c m text)
    (run : Desk.Task.Runs (Desk.handle c m) log r) (serves : Serves o log world o') :
    Carried c m o t text log r o' := by
  have intent : Command.Intent.ofJson m.text = .ok .update := by
    rw [asks.written, Command.Intent.ofJson, Json.str_orElse_blank, ← asks.recognized]
    rfl
  have shown : m.text.shown = text := by rw [asks.written]; rfl
  obtain ⟨stranger, -⟩ | ⟨-, ⟨e, impossible, -⟩ | ⟨_, same, carrying⟩⟩ :=
    Desk.runs_handle_iff.mp run
  · cases stranger.symm.trans asks.admin
  · cases intent.symm.trans impossible
  · cases intent.symm.trans same
    rw [← shown]
    exact ready.carries carrying serves

/-- A table in which a field of the filter in a row has been given a new value: the row stands where
it stood, with its id, its name and its stats, its filter has the value and is otherwise as it was,
and so are all other rows. -/
structure Amended (t t' : FilterTable) (row : FilterRow) (f : Filter) (field : Command.Field)
    (u : Update) :
    Prop where
  row : ∃ row' g,
    t'.rows = t.rows.map (fun other => if other.name = row.name then row' else other) ∧
    row'.load = .ok g ∧ field.value? g = some u ∧ Command.Alike field f g ∧
    row'.id = row.id ∧ row'.name = row.name ∧ row'.matched = row.matched ∧
      row'.lastMatch = row.lastMatch
  lastId : t'.lastId = t.lastId

/-- Editing the table amends the row of the filter. -/
lemma Ready.amended (ready : o.Ready t) {row : FilterRow} {f : Filter} (member : row ∈ t.rows)
    (loaded : row.load = .ok f) (trimmed : Text.trim row.name = row.name) (u : Update) :
    Amended t (t.edited row.name u) row f u.field u := by
  refine ⟨⟨row.redefined (u.apply f), u.apply f, List.map_congr_left fun other among => ?_,
    row.load_redefined_apply loaded u, u.value?_apply f, u.alike_apply f, rfl,
    row.name_redefined_apply loaded trimmed u, rfl, rfl⟩, rfl⟩
  split
  · rename_i same
    obtain rfl := ready.whole.unique among member same
    exact FilterRow.edited_of_load rfl loaded
  · rename_i differs
    exact FilterRow.edited_of_ne differs

/-- The verdict on an update that is written well, of a filter of the table. -/
lemma Ready.verdict_eq (ready : o.Ready t) {row : FilterRow} (member : row ∈ t.rows)
    (wished : Desk.wish text = .ok (command, u)) (named : row.name = command.filterName)
    (plain : Text.encodable command.filterName = true) :
    verdict t text = match row.refusal? u with
      | none => .ok (command, u)
      | some e => .error (Desk.refusal (.error e)) := by
  have found : t.rows.find? (·.name = command.filterName) = some row := by
    cases search : t.rows.find? (·.name = command.filterName) with
    | none => exact absurd (decide_eq_true named) (List.find?_eq_none.mp search row member)
    | some other =>
      have own := List.find?_some search
      have same := of_decide_eq_true own
      rw [ready.whole.unique (List.mem_of_find?_eq_some search) member (same.trans named.symm)]
  unfold verdict
  simp only [wished, found, plain, if_true]

/-- An update is carried out when the edited filter can be encoded. -/
lemma Ready.verdict_of_encodable (ready : o.Ready t) {row : FilterRow} {f : Filter}
    (member : row ∈ t.rows) (small : Store.fits row.id = true) (loaded : row.load = .ok f)
    (wished : Desk.wish text = .ok (command, u)) (named : row.name = command.filterName)
    (own : f.name = row.name) (encodable : (u.apply f).encodable = true) :
    verdict t text = .ok (command, u) := by
  have plain : Text.encodable command.filterName = true := by
    rw [← named, ← own, ← (u.alike_apply f).name]
    exact Filter.encodable_name encodable
  rw [ready.verdict_eq member wished named plain, FilterRow.refusal?_of_load loaded,
    if_pos encodable, if_pos small]

/-- An update is refused when the edited filter cannot be encoded. -/
lemma Ready.verdict_of_unencodable (ready : o.Ready t) {row : FilterRow} {f : Filter}
    (member : row ∈ t.rows) (loaded : row.load = .ok f) (wished : Desk.wish text = .ok (command, u))
    (named : row.name = command.filterName) (unencodable : (u.apply f).encodable = false) :
    ∃ text', verdict t text = .error (.error (.value (.unencodable text'))) := by
  cases plain : Text.encodable command.filterName with
  | true =>
    rw [ready.verdict_eq member wished named plain, FilterRow.refusal?_of_load loaded,
      if_neg (Bool.eq_false_iff.mp unencodable)]
    exact ⟨_, rfl⟩
  | false =>
    unfold verdict
    simp only [wished, plain, Bool.false_eq_true, if_false]
    exact ⟨_, rfl⟩

/-- An update command that is written well changes its field and nothing else, if the store can
encode it. Let a filter stand in a row of a table that loads, under the name of the row and with an
id that a column can hold, and let an operator write an update phrase, that name, a word for a field
and a value that the field takes, of which no word but the last names a field. If the text is
recognized as an update and the edited filter can be encoded, then, unless the confirmation fails,
the command succeeds, the field has the value that was read and everything else in the table is as
it was, and the rules in force are what the new table has enabled. If the edited filter cannot be
encoded, the fault of that is thrown, and nothing changes at all. -/
theorem update_changes_one_field {row : FilterRow} {f : Filter} {field : Command.Field}
    {verb object word value : String} (filters : o.filters = some t) (arises : t.Arises)
    (loads : t.Loads)
    (order : o.outages = []) (member : row ∈ t.rows) (small : Store.fits row.id = true)
    (loaded : row.load = .ok f) (named : f.name = row.name) (which : Command.Verb verb object)
    (solid : Text.Solid word.toList) (known : Command.Field.ofWord? word = some field)
    (trimmed : Text.Trimmed value.toList)
    (last : ∀ w ∈ (Text.words value.toList).dropLast, ¬ Command.Names w)
    (read : Update.read field value = .ok u)
    (asks : AsksUpdate c m
      (verb ++ " " ++ object ++ " " ++ row.name ++ " " ++ word ++ " " ++ value)) :
    (∀ tell, ∃ world r o', Dialogue.Told tell [] world ∧
      Act.Runs (carryOut (Desk.handle c m)) o world r o') ∧
    ∀ log world r o', Desk.Task.Runs (Desk.handle c m) log r → Serves o log world o' →
      ((u.apply f).encodable = true → ¬ Desk.Unconfirmed c m log →
        r = .ok ⟨true,
          "Filter '" ++ row.name ++ "' updated: " ++ field.name ++ " = " ++ u.describe⟩ ∧
        (∃ t', o'.filters = some t' ∧ Amended t t' row f field u) ∧
        o'.loaded = true ∧ Store.enabledFilters o'.filters = .ok o'.snapshot) ∧
      ((u.apply f).encodable = false →
        (∃ text, r = .error (.value (.unencodable text))) ∧ o' = o) := by
  have ready : o.Ready t := ⟨filters, arises.whole loads, order⟩
  have own : Text.trim row.name = row.name := (FilterRow.trim_of_load loaded).trans named
  have wished :=
    wish_written which (Text.trimmed_of_trim (named ▸ (FilterRow.regular_of_load loaded).named) own)
    solid trimmed known last read
  obtain rfl := Update.field_of_read read
  refine ⟨fun tell => ?_, fun log world r o' run serves => ⟨fun encodable confirmed => ?_,
    fun unencodable => ?_⟩⟩
  · obtain ⟨world, ⟨r, o'⟩, told, run⟩ :=
      Dialogue.exists_run (StateT.run (carryOut (Desk.handle c m)) o) tell []
    exact ⟨world, r, o', told, run⟩
  · have verdict := ready.verdict_of_encodable member small loaded wished rfl named encodable
    have edited : (t.edited row.name u).Whole := ready.whole.edited own u
    have query : Store.enabledFilters (some (t.edited row.name u)) =
        .ok (t.edited row.name u).enabled :=
      (t.edited row.name u).enabledFilters_eq fun r member =>
        edited.loads r (List.mem_filter.mp member).1
    cases ready.handles asks run serves with
    | refused refused => cases verdict.symm.trans refused
    | @done command v lines told done fails =>
      cases verdict.symm.trans done
      cases told with
      | error e => exact absurd (Desk.unconfirmed_iff.mpr ⟨e, (fails e).mp rfl⟩) confirmed
      | ok done => exact ⟨rfl, ⟨_, rfl, ready.amended member loaded own u⟩, rfl, query⟩
  · obtain ⟨text, verdict⟩ := ready.verdict_of_unencodable member loaded wished rfl unencodable
    cases ready.handles asks run serves with
    | refused refused =>
      cases verdict.symm.trans refused
      exact ⟨⟨text, rfl⟩, rfl⟩
    | done done => cases verdict.symm.trans done

namespace Sample

open Desk.Sample

/-- The row of that table. -/
def workRow : FilterRow :=
  ⟨1, "Work", .int 1, .int 0, .null, .written (.obj work.definition)⟩

/-- The command to look for a keyword that is a surrogate by itself, escaped. -/
def escape : Message :=
  { order with
    content := { type := .text, text := .str "update filter Work keywords [\"\\ud800\"]" } }

/-- What is asked while the filter is edited and the channel is closed. -/
def changing (f g : Filter) (rules : List Filter) : Desk.Log := [
  ⟨.filterNamed "Work", .ok (some f)⟩,
  ⟨.storeFilter g, .ok g⟩,
  ⟨.enabledFilters, .ok rules⟩,
  ⟨.keepSnapshot rules, ()⟩,
  ⟨.available 0, .ok false⟩]

/-- The filter as it is stored. -/
def stored : Filter :=
  { work with id := .int 1 }

/-- The table arises. -/
lemma arises_defined : defined.Arises := by
  have saved : Store.saveFilter (some {}) work = (some defined, .ok stored) := by decide +kernel
  exact .saved .empty saved

/-- Its row is loaded as the filter. -/
lemma load_workRow : workRow.load = .ok stored := by decide +kernel

/-- The text is an update command. -/
lemma asks_switch : AsksUpdate staffed switch "update filter Work active false" :=
  ⟨by decide +kernel, rfl, by decide +kernel⟩

/-- So is the one with the escape. -/
lemma asks_escape : AsksUpdate staffed escape "update filter Work keywords [\"\\ud800\"]" :=
  ⟨by decide +kernel, rfl, by decide +kernel⟩

/-- The command is handled without being confirmed. -/
lemma runs_switched :
    Desk.Task.Runs (Desk.handle staffed switch) (changing stored off [])
      (.ok (Desk.updated ⟨"Work", "active", "false"⟩ (.active false))) :=
  .ask (.ask (.ask (.ask (.ask .done))))

/-- The office after the filter was edited. -/
def changed (o : Office) (g : Filter) (rules : List Filter) : Office :=
  { (o.saveFilter g).2 with snapshot := rules, loaded := true }

/-- An office serves what is asked for while a filter is changed. -/
lemma serves_changing (o : Office) (f g : Filter) (rules : List Filter) {o' : Office}
    {log : Desk.Log}
    {world : World}
    (found : o.filterNamed "Work" = .ok (some f)) (taken : (o.saveFilter g).1 = .ok g)
    (enabled : (o.saveFilter g).2.unlessOut .enabledFilters
      (Store.enabledFilters (o.saveFilter g).2.filters) =
      .ok rules)
    (line : (changed o g rules).lines[0]? = some (.stage "cloud"))
    (rest : Serves (changed o g rules) log world o') :
    ∃ world, Serves o (changing f g rules ++ log) world o' := by
  have closed : Act.Runs (answer (.available 0)) (changed o g rules)
    [⟨.stageAvailable 0, .ok false⟩]
      (.ok false) (changed o g rules) := by
    show Act.Runs (available 0) _ _ _ _
    unfold available
    rw [Act.runs_get_bind_iff]
    simp only [line]
    exact Act.runs_ask_iff.mpr ⟨rfl, rfl⟩
  exact ⟨_, serves_found found <| serves_stored taken <| serves_enabled enabled <|
    .cons (q := .keepSnapshot rules) .done <| .cons (q := .available 0) closed rest⟩

/-- The office serves the command. -/
lemma serves_switched : ∃ world o', Serves manned (changing stored off []) world o' := by
  obtain ⟨world, serves⟩ :=
    serves_changing manned stored off [] (by decide +kernel) (by decide +kernel)
    (by decide +kernel) (by decide +kernel) .nil
  rw [List.append_nil] at serves
  exact ⟨world, _, serves⟩

/-- The channel tells that it is closed. -/
lemma told_changing {f g : Filter} {rules : List Filter} {route : Nat} {e : Fault} :
    (⟨.available route, .error e⟩ : Exchange Desk.service) ∉ changing f g rules := by
  rintro (_ | ⟨_, _ | ⟨_, _ | ⟨_, _ | ⟨_, _ | ⟨_, ⟨⟩⟩⟩⟩⟩⟩)

/-- Its confirmation does not fail. -/
lemma confirmed_switched : ¬ Desk.Unconfirmed staffed switch (changing stored off []) := by
  rintro (⟨e, failed⟩ | ⟨route, e, -, member⟩)
  · have named : Desk.confirmationRoute staffed switch = .ok (some 0) := by decide +kernel
    cases named.symm.trans failed
  · exact told_changing member

end Sample

open Sample in
/-- A filter is switched off, which leaves no rule in force; but it is not given a surrogate for a
keyword. -/
theorem update_switches_off :
    (∃ log world o' t', Desk.Task.Runs (Desk.handle staffed switch) log
        (.ok (Desk.updated ⟨"Work", "active", "false"⟩ (.active false))) ∧
      Serves manned log world o' ∧ ¬ Desk.Unconfirmed staffed switch log ∧
      o'.filters = some t' ∧ Amended defined t' workRow stored .active (.active false)) ∧
    Update.read .keywords "[\"\\ud800\"]" = .ok (.keywords [Store.Sample.surrogate]) ∧
    ∀ log world r o', Desk.Task.Runs (Desk.handle staffed escape) log r →
      Serves manned log world o' → (∃ text, r = .error (.value (.unencodable text))) ∧
        o' = manned := by
  have member : workRow ∈ defined.rows := List.mem_cons_self
  have small : Store.fits workRow.id = true := by decide +kernel
  have known : Command.Field.ofWord? "active" = some .active := by decide +kernel
  have known' : Command.Field.ofWord? "keywords" = some .keywords := by decide +kernel
  have read : Update.read .active "false" = .ok (.active false) := by decide +kernel
  have read' : Update.read .keywords "[\"\\ud800\"]" =
      .ok (.keywords [Store.Sample.surrogate]) := by
    decide +kernel
  have solid : Text.Solid "active".toList ∧ Text.Solid "keywords".toList := by decide
  have trimmed : Text.Trimmed "false".toList := ⟨by decide, by decide⟩
  have trimmed' : Text.Trimmed "[\"\\ud800\"]".toList := ⟨by decide, by decide⟩
  have single {value : String} (one : (Text.words value.toList).length = 1) :
      ∀ w ∈ (Text.words value.toList).dropLast, ¬ Command.Names w := by
    have none : (Text.words value.toList).dropLast = [] := by
      rw [← List.length_eq_zero_iff, List.length_dropLast, one]
    rw [none]
    exact fun w none => absurd none List.not_mem_nil
  have asks : AsksUpdate staffed switch
      ("update" ++ " " ++ "filter" ++ " " ++ workRow.name ++ " " ++ "active" ++ " " ++ "false") :=
    asks_switch
  have asks' : AsksUpdate staffed escape ("update" ++ " " ++ "filter" ++ " " ++ workRow.name ++
      " " ++ "keywords" ++ " " ++ "[\"\\ud800\"]") :=
    asks_escape
  obtain ⟨world, o', serves⟩ := serves_switched
  obtain ⟨-, ⟨t', filters, amended⟩, -⟩ :=
    ((update_changes_one_field rfl arises_defined loads_defined rfl member small load_workRow rfl
      .english solid.1 known trimmed (single (by decide +kernel)) read asks).2 _ _ _ _ runs_switched
      serves).1 (by decide +kernel) confirmed_switched
  refine ⟨⟨_, world, o', t', runs_switched, serves, confirmed_switched, filters, amended⟩, read',
    fun log world r o' run serves => ?_⟩
  exact ((update_changes_one_field rfl arises_defined loads_defined rfl member small load_workRow
    rfl .english solid.2 known' trimmed' (single (by decide +kernel)) read' asks').2 _ _ _ _ run
    serves).2 (by decide +kernel)

end ChatTriage.Office
