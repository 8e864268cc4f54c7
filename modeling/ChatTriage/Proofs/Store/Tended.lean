import ChatTriage.Proofs.Store.Saved
import ChatTriage.Proofs.Store.Writes

/-!
# The table of filters after writes

Whatever the program writes to the table of filters, and whatever of it is refused, the table stays
`Tended`: its rows can all be read, ascend by their ids and have names of their own. Its queries
then agree with each other (`FilterTable.Queried`), no row loses its id, and a call that is refused
leaves the table as it was.
-/

namespace ChatTriage.Store

variable {r s : FilterRow} {t u : FilterTable} {f : Filter} {changes : List Change}

/-- A row that the program has written: its definition, its switch and its stats can all be read. -/
structure FilterRow.Readable (r : FilterRow) : Prop where
  sound : r.Sound
  enabled : ∃ b, r.enabled = .ofBool b
  dated : ∃ date, DateTime.ofJson r.lastMatch.toJson = .ok date

namespace FilterRow

/-- What a readable row is loaded as has the id, the name and the switch of the row. -/
lemma Readable.load (readable : r.Readable) :
    ∃ f, r.load = .ok f ∧ f.id = .int r.id ∧ f.name = r.name ∧
      f.enabled = decide (r.enabled = .int 1) := by
  obtain ⟨⟨⟨f, regular, -, name, written⟩, n, matched⟩, ⟨b, switch⟩, date, dated⟩ := readable
  have same : Text.trim r.name = f.name := by rw [← name, regular.trimmed]
  have on : (Cell.ofBool b).toJson.truthy = decide (Cell.ofBool b = .int 1) := by cases b <;> rfl
  rw [load_of_definition regular written, same, regular.name_isEmpty, matched, dated, switch]
  exact ⟨_, rfl, rfl, name, on⟩

/-- The name of a row that was written can be encoded. -/
lemma Readable.encodable (readable : r.Readable) : Text.encodable r.name = true := by
  obtain ⟨f, -, encodable, name, -⟩ := readable.sound.definition
  exact name ▸ Filter.encodable_name encodable

/-- The row of a new filter can be read. -/
lemma Readable.fresh (regular : f.Regular) (encodable : f.encodable = true) (id : Int) :
    (FilterRow.fresh f id).Readable :=
  ⟨⟨⟨f, regular, encodable, rfl, rfl⟩, 0, rfl⟩, ⟨f.enabled, rfl⟩, none, rfl⟩

/-- So can a row with another definition. -/
lemma Readable.redefined (readable : r.Readable) (regular : f.Regular)
    (encodable : f.encodable = true) : (r.redefined f).Readable :=
  ⟨readable.sound.redefined regular encodable, ⟨f.enabled, rfl⟩, readable.dated⟩

/-- So can a row with other stats. -/
lemma Readable.counted (readable : r.Readable) (stats : FilterStats) : (r.counted stats).Readable :=
  ⟨⟨readable.sound.definition, stats.matched, rfl⟩, readable.enabled, Cell.exists_ofJson_ofDate _⟩

/-- A change leaves the id and the name of a row. -/
lemma change_keeps (r : FilterRow) (c : Change) :
    (r.change c).id = r.id ∧ (r.change c).name = r.name := by
  unfold change
  split <;> exact ⟨rfl, rfl⟩

/-- So can a row with a column changed. -/
lemma Readable.change (readable : r.Readable) (c : Change) : (r.change c).Readable := by
  unfold FilterRow.change
  split
  · exact ⟨⟨readable.sound.definition, readable.sound.matched⟩, ⟨_, rfl⟩, readable.dated⟩
  · exact readable.counted _
  · exact readable

/-- Changes keep the id and the name of a row. -/
lemma changed_keeps (r : FilterRow) (changes : List Change) :
    (r.changed changes).id = r.id ∧ (r.changed changes).name = r.name := by
  induction changes generalizing r with
  | nil => exact ⟨rfl, rfl⟩
  | cons c changes ih =>
    obtain ⟨id, name⟩ := ih (r.change c)
    exact ⟨id.trans (r.change_keeps c).1, name.trans (r.change_keeps c).2⟩

/-- Changes keep a row readable. -/
lemma Readable.changed (readable : r.Readable) (changes : List Change) :
    (r.changed changes).Readable := by
  induction changes generalizing r with
  | nil => exact readable
  | cons c changes ih => exact ih (readable.change c)

end FilterRow

/-- The ids of a table, in the order in which they were given. -/
def FilterTable.ids (t : FilterTable) : List Int :=
  t.rows.map (·.id)

namespace FilterTable

/-- Changing rows in place keeps the ids. -/
lemma ids_updateRows {id : Cell} {change : FilterRow → FilterRow}
    (same : ∀ r, (change r).id = r.id) :
    (t.updateRows id change).ids = t.ids := by
  unfold FilterTable.ids FilterTable.updateRows
  rw [List.map_map]
  refine List.map_congr_left fun r _ => ?_
  rw [Function.comp_apply]
  split
  · exact same r
  · rfl

/-- A new row has the next id. -/
lemma ids_insert : (t.insert (.fresh f)).ids = t.ids ++ [t.lastId + 1] :=
  List.map_append

end FilterTable

/-- What holds of a table that the program has written. -/
structure FilterTable.Tended (t : FilterTable) : Prop where
  ordered : t.Ordered
  readable : ∀ r ∈ t.rows, r.Readable
  named : t.rows.Pairwise fun r s => r.name ≠ s.name

/-- A filter that is written over a row is read back with the id and the stats of the row. -/
lemma FilterTable.Ordered.readBack_redefined {id : Cell} {stats : FilterStats} (ordered : t.Ordered)
    (regular : f.Regular) (member : r ∈ t.rows) (is : id.isId = (Cell.int r.id).isId)
    (counted : r.stats = .ok stats) :
    readBack (t.updateRows id (·.redefined f)) id = .ok { f with id := .int r.id, stats } := by
  have same (s : FilterRow) : (s.redefined f).id = s.id := rfl
  have rows : t.updateRows id (·.redefined f) = t.updateRows (.int r.id) (·.redefined f) := by
    simp only [FilterTable.updateRows, is]
  have only : (t.updateRows id (·.redefined f)).rowsWithId id = [r.redefined f] := by
    rw [rows, rowsWithId, is]
    exact ordered.rowsWithId_updateRows member same
  refine readBack_of_load only ?_
  rw [FilterRow.load_redefined_eq regular, counted]
  rfl

/-- In a table that loads a filter is found under the name of each row. -/
lemma FilterTable.Loads.filterNamed_of_mem {name : String} (loads : t.Loads)
    (encodable : Text.encodable name = true) (there : name ∈ t.rows.map (·.name)) :
    ∃ g, filterNamed (some t) name = .ok (some g) := by
  have query : filterNamed (some t) name =
    (loadAll (t.rows.filter (·.name = name))).map List.head? := filterNamed_of_encodable encodable
  rw [query]
  cases among : t.rows.filter (·.name = name) with
  | nil =>
    obtain ⟨r, member, own⟩ := List.mem_map.mp there
    exact absurd (decide_eq_true own) (List.filter_eq_nil_iff.mp among r member)
  | cons r rows =>
    have kept (s : FilterRow) (member : s ∈ r :: rows) : ∃ f, s.load = .ok f :=
      loads s (List.mem_filter.mp (among ▸ member)).1
    obtain ⟨f, loaded⟩ := kept r List.mem_cons_self
    have others := loadAll_eq fun s later => kept s (List.mem_cons_of_mem r later)
    exact ⟨f, by rw [loadAll_cons_of_load loaded, others]; rfl⟩

/-- A filter that can be written to a table that loads is read back from the row that was
written. -/
lemma FilterTable.Loads.readBack {id : Cell} (loads : t.Loads) (ordered : t.Ordered)
    (regular : f.Regular)
    (written : Store.writeFilter (some t) f = .ok (u, id)) : ∃ g, Store.readBack u id = .ok g := by
  obtain ⟨-, ⟨-, -, rfl, rfl⟩ | ⟨-, -, there, -, rfl⟩⟩ := writeFilter_eq_ok_iff.mp written
  · have only := ordered.rowsWithId_insert fun n => (rfl : (FilterRow.fresh f n).id = n)
    exact ⟨_, readBack_of_load only (FilterRow.load_fresh regular _)⟩
  · obtain ⟨r, member, is, -⟩ := (ordered.rowsWithId_eq_nil_or id).resolve_left there
    obtain ⟨g, loaded⟩ := loads r member
    exact ⟨_, ordered.readBack_redefined regular member is (FilterRow.stats_of_load loaded)⟩

namespace FilterTable.Tended

/-- The empty table is tended. -/
lemma empty : FilterTable.Tended {} where
  ordered := ⟨.nil, fun _ member => absurd member List.not_mem_nil⟩
  readable := fun _ member => absurd member List.not_mem_nil
  named := .nil

/-- The rows of a tended table can all be read. -/
lemma loads (tended : t.Tended) : t.Loads :=
  fun r member => (tended.readable r member).load.imp fun _ load => load.1

/-- The names in a tended table can all be encoded. -/
lemma legible (tended : t.Tended) : t.Legible := fun r member => by
  obtain ⟨f, -, encodable, named, -⟩ := (tended.readable r member).sound.definition
  exact named ▸ Filter.encodable_name encodable

/-- A table stays tended with a new row under a free name. -/
lemma insert (tended : t.Tended) (regular : f.Regular) (encodable : f.encodable = true)
    (free : ∀ r ∈ t.rows, r.name ≠ f.name) : (t.insert (.fresh f)).Tended where
  ordered := tended.ordered.insert fun _ => rfl
  readable := List.forall_mem_append.mpr
    ⟨tended.readable, List.forall_mem_singleton.mpr (.fresh regular encodable _)⟩
  named := Named.insert tended.named free

/-- Rows that are changed in place are tended when they can be read and no two of them come to one
name. -/
lemma updateRows {id : Cell} {change : FilterRow → FilterRow} (tended : t.Tended)
    (same : ∀ r, (change r).id = r.id) (readable : ∀ r, r.Readable → (change r).Readable)
    (free : ∀ r ∈ t.rows, id.isId r.id = true → ∀ s ∈ t.rows, s.name = (change r).name →
      s.id = r.id) :
    (t.updateRows id change).Tended := by
  refine ⟨tended.ordered.updateRows same, fun r member => ?_,
    Named.updateRows tended.named tended.ordered free⟩
  obtain ⟨s, old, rfl⟩ := List.mem_map.mp member
  split
  · exact readable s (tended.readable s old)
  · exact tended.readable s old

/-- A table stays tended when columns are changed. -/
lemma changed (tended : t.Tended) (id : Cell) : (t.updateRows id (·.changed changes)).Tended := by
  refine tended.updateRows (fun r => (r.changed_keeps changes).1)
    (fun r readable => readable.changed changes)
    fun r member own s other named => ?_
  rw [(r.changed_keeps changes).2] at named
  by_contra differ
  have apart : Std.Symm fun r s : FilterRow => r.name ≠ s.name := ⟨fun r s no => no.symm⟩
  exact tended.named.forall other member (fun same => differ (congrArg _ same)) named

/-- A filter that can be written is read back from the row that was written. -/
lemma readBack {id : Cell} (tended : t.Tended) (regular : f.Regular)
    (written : writeFilter (some t) f = .ok (u, id)) :
    u.Tended ∧ (∃ g, Store.readBack u id = .ok g) ∧
      (f.id = .null ∧ u = t.insert (.fresh f) ∨
        ∃ r ∈ t.rows, denotes f.id r.id = true ∧ u = t.updateRows (.int r.id) (·.redefined f)) := by
  have read := tended.loads.readBack tended.ordered regular written
  obtain ⟨encodable, ⟨new, free, rfl, rfl⟩ | ⟨-, bound, there, free, rfl⟩⟩ :=
    writeFilter_eq_ok_iff.mp written
  · have free : ∀ r ∈ t.rows, r.name ≠ f.name := fun r member same =>
      Bool.noConfusion (nameTaken_eq_false_iff.mp free r member same)
    exact ⟨tended.insert regular encodable free, read, .inl ⟨new, rfl⟩⟩
  · obtain ⟨r, member, is, -⟩ := (tended.ordered.rowsWithId_eq_nil_or id).resolve_left there
    have rows : t.updateRows id (·.redefined f) = t.updateRows (.int r.id) (·.redefined f) := by
      simp only [FilterTable.updateRows, is]
    have own : denotes f.id r.id = true := by
      rw [denotes_of_ofJson (Cell.ofJson_of_bind bound), is]
      exact Cell.isId_int.mpr rfl
    refine ⟨?_, read, .inr ⟨r, member, own, rows⟩⟩
    have same (s : FilterRow) : (s.redefined f).id = s.id := rfl
    refine tended.updateRows same
      (fun s readable => readable.redefined regular encodable) fun s _ own' v
      other named => ?_
    have also := nameTaken_eq_false_iff.mp free v other named
    rw [is, Cell.isId_int] at also own'
    exact also.symm.trans own'

/-- Saving a filter is refused, or writes a row of its own for a filter without an id and redefines
the row with the id otherwise. -/
lemma saveFilter (tended : t.Tended) (regular : f.Regular) :
    (∃ e, FilterWrite.Refused t (.save f) e ∧ Store.saveFilter (some t) f = (some t, .error e)) ∨
    ∃ u g, Store.saveFilter (some t) f = (some u, .ok g) ∧ u.Tended ∧
      (∀ e, ¬ FilterWrite.Refused t (.save f) e) ∧
      (f.id = .null ∧ u = t.insert (.fresh f) ∨
        ∃ r ∈ t.rows, denotes f.id r.id = true ∧ u = t.updateRows (.int r.id) (·.redefined f)) := by
  cases written : Store.writeFilter (some t) f with
  | error e =>
      exact .inl ⟨e, writeFilter_eq_error_iff.mp written, by simp only [Store.saveFilter, written]⟩
  | ok x =>
    obtain ⟨u, id⟩ := x
    obtain ⟨later, ⟨g, read⟩, ways⟩ := tended.readBack regular written
    refine .inr
      ⟨u, g, by simp only [Store.saveFilter, written, read], later, fun e refused => ?_, ways⟩
    cases written.symm.trans (writeFilter_eq_error_iff.mpr refused)

/-- Updating columns is refused, or changes rows in place. -/
lemma updateFilter {id : Json} (tended : t.Tended) (whole : ∀ c ∈ changes, c.IsWhole) :
    (∃ e, FilterWrite.Refused t (.update id changes) e ∧
      Store.updateFilter (some t) id changes = .error e) ∨
    ∃ u, Store.updateFilter (some t) id changes = .ok (some u) ∧ u.Tended ∧ u.ids = t.ids := by
  cases supported : unsupported? changes with
  | some name =>
    refine .inl ⟨_, .unsupported supported, ?_⟩
    exact (updateFilter_eq_error_iff whole).mpr (.unsupported supported)
  | none =>
    by_cases some_change : changes = []
    · subst some_change
      exact .inr ⟨t, rfl, tended, rfl⟩
    · by_cases fit : ∀ c ∈ changes, c.fits = true
      · rw [updateFilter_eq supported some_change whole fit]
        cases bound : Cell.bind filterUpdateFault (Change.places changes + 1) id with
        | error e => exact .inl ⟨e, .misplaced supported some_change fit bound, rfl⟩
        | ok cell =>
          exact .inr
            ⟨_, rfl, tended.changed cell, ids_updateRows fun r => (r.changed_keeps changes).1⟩
      · obtain ⟨c, member, huge⟩ : ∃ c ∈ changes, c.fits = false := by simpa using fit
        have refused : FilterWrite.Refused t (.update id changes) _ :=
          .tooLarge supported member huge
        exact .inl ⟨_, refused, (updateFilter_eq_error_iff whole).mpr refused⟩

end FilterTable.Tended

/-- How a call that is made on a table ends: it fails exactly when it is refused, and then the table
is as it was; otherwise the table has its ids as before, and at most others after them. -/
structure FilterWrite.Ends (w : FilterWrite) (t u : FilterTable)
    (result : Except Fault Unit) : Prop where
  refused : ∀ e, result = .error e ↔ w.Refused t e
  unchanged : ∀ e, result = .error e → u = t
  ids : t.ids <+: u.ids

/-- A call is refused with one fault. -/
lemma FilterWrite.Refused.unique {w : FilterWrite} {e e' : Fault} (typed : w.Typed)
    (refused : w.Refused t e)
    (again : w.Refused t e') : e = e' := by
  cases typed with
  | save =>
    cases (writeFilter_eq_error_iff.mpr refused).symm.trans (writeFilter_eq_error_iff.mpr again)
    rfl
  | update whole =>
    have fails := (updateFilter_eq_error_iff whole).mpr refused
    cases fails.symm.trans ((updateFilter_eq_error_iff whole).mpr again)
    rfl

namespace FilterTable.Tended

/-- What a call does to a tended table. -/
lemma apply {w : FilterWrite} (tended : t.Tended) (typed : w.Typed) :
    ∃ u result, w.apply (some t) = (some u, result) ∧ u.Tended ∧ w.Ends t u result := by
  have fails {e : Fault} (refused : w.Refused t e) : w.Ends t t (.error e) := by
    refine ⟨fun e' => ⟨?_, fun again => congrArg _ (refused.unique typed again)⟩, fun _ _ => rfl,
      List.prefix_rfl⟩
    intro same
    cases same
    exact refused
  cases typed with
  | @save f made =>
    obtain ⟨e, refused, saved⟩ | ⟨u, g, saved, later, free, ways⟩ := tended.saveFilter made.regular
    · exact ⟨t, .error e, by simp [FilterWrite.apply, saved, Except.map], tended, fails refused⟩
    · refine ⟨u, .ok (), by simp [FilterWrite.apply, saved, Except.map], later,
        fun e => ⟨nofun, fun refused => absurd refused (free e)⟩, nofun, ?_⟩
      obtain ⟨-, rfl⟩ | ⟨r, -, -, rfl⟩ := ways
      · rw [ids_insert]
        exact List.prefix_append _ _
      · have same (s : FilterRow) : (s.redefined f).id = s.id := rfl
        exact (ids_updateRows same).symm ▸ List.prefix_rfl
  | update whole =>
    obtain ⟨e, refused, updated⟩ | ⟨u, updated, later, ids⟩ := tended.updateFilter whole
    · exact ⟨t, .error e, by simp [FilterWrite.apply, updated], tended, fails refused⟩
    · refine ⟨u, .ok (), by simp [FilterWrite.apply, updated], later,
        fun e => ⟨nofun, fun refused => ?_⟩, nofun, ids ▸ List.prefix_rfl⟩
      cases updated.symm.trans ((updateFilter_eq_error_iff whole).mpr refused)

/-- What calls that are made one after the other do to a tended table. -/
lemma writeAll {writes : List FilterWrite} (tended : t.Tended) (typed : ∀ w ∈ writes, w.Typed) :
    ∃ u, Store.writeAll (some t) writes = some u ∧ u.Tended ∧ t.ids <+: u.ids := by
  induction writes generalizing t with
  | nil => exact ⟨t, rfl, tended, List.prefix_rfl⟩
  | cons w writes ih =>
    obtain ⟨first, rest⟩ := List.forall_mem_cons.mp typed
    obtain ⟨u, result, applied, later, ends⟩ := tended.apply first
    obtain ⟨v, done, last, ids⟩ := ih later rest
    refine ⟨v, ?_, last, ends.ids.trans ids⟩
    rw [← done, Store.writeAll, List.foldl_cons, applied]
    rfl

end FilterTable.Tended

/-- The table is what calls make of an empty one. -/
def FilterTable.Written (t : FilterTable) : Prop :=
  ∃ writes : List FilterWrite, (∀ w ∈ writes, w.Typed) ∧ writeAll (some {}) writes = some t

/-- What the program has written is tended. -/
lemma FilterTable.Written.tended (written : t.Written) : t.Tended := by
  obtain ⟨writes, typed, done⟩ := written
  obtain ⟨u, done', tended, -⟩ := FilterTable.Tended.empty.writeAll typed
  cases done.symm.trans done'
  exact tended

/-- A table that arises still does after a write. -/
lemma FilterTable.Arises.apply (arises : t.Arises) (w : FilterWrite) :
    ∃ u, (w.apply (some t)).1 = some u ∧ u.Arises := by
  cases w with
  | save f =>
    obtain ⟨u, saved, -⟩ := arises.ordered.saveFilter (f := f) rfl
    exact ⟨u, saved, .saved arises (Prod.ext saved rfl)⟩
  | update id changes =>
    cases updated : updateFilter (some t) id changes with
    | error e => exact ⟨t, by simp only [FilterWrite.apply, updated], arises⟩
    | ok table =>
      obtain ⟨u, rfl, -⟩ := arises.ordered.updateFilter updated
      exact ⟨u, by simp only [FilterWrite.apply, updated], .updated arises updated⟩

/-- So it does after many writes. -/
lemma FilterTable.Arises.writeAll {u : FilterTable} {writes : List FilterWrite} (arises : t.Arises)
    (done : Store.writeAll (some t) writes = some u) : u.Arises := by
  induction writes generalizing t with
  | nil =>
    cases done
    exact arises
  | cons w writes ih =>
    obtain ⟨v, applied, later⟩ := arises.apply w
    refine ih later ?_
    rwa [Store.writeAll, List.foldl_cons, applied] at done

/-- What the program writes can be encoded. -/
lemma FilterTable.Written.encoded (written : t.Written) : t.Encoded := fun r member _ loaded =>
  ((written.tended.readable r member).sound.loaded loaded).2.2

/-- What the program writes arises. -/
lemma FilterTable.Written.arises (written : t.Written) : t.Arises := by
  obtain ⟨writes, -, done⟩ := written
  exact FilterTable.Arises.empty.writeAll done

namespace Sample

/-- A filter with nothing but a name. -/
def play : Filter where
  id := .null
  name := "Play"
  description := ""
  authors := []
  keywords := []
  keywordMode := .any
  messageTypes := []
  timeRange := none
  actions := ⟨false, none, [], ⟨false, ""⟩, [], false⟩
  enabled := true
  stats := {}

/-- Calls of which the last two are refused. -/
def calls : List FilterWrite := [
  .save (work .null),
  .save play,
  .update (.int 1) [.enabled false, .ofStats ⟨3, none⟩],
  .save (work (.int 2)),
  .update (.int 2) [.enabled false, .unsupported "name"]]

/-- The table after them. -/
def twoRows : FilterTable where
  rows := [⟨1, "Work", .int 0, .int 3, .null, .written (.obj (work .null).definition)⟩,
    ⟨2, "Play", .int 1, .int 0, .null, .written (.obj play.definition)⟩]
  lastId := 2

/-- These calls are typed. -/
lemma typed_calls : ∀ w ∈ calls, w.Typed := by
  have new : Filter.ofJson (defining .null) = .ok (work .null) := by decide +kernel
  have known : Filter.ofJson (defining (.int 2)) = .ok (work (.int 2)) := by decide +kernel
  have other : Filter.ofJson (.obj [("name", .str "Play")]) = .ok play := by decide +kernel
  simp only [calls, List.forall_mem_cons]
  refine ⟨.save (.read new), .save (.read other), .update ?_, .save (.read known), .update ?_,
    fun _ none => absurd none List.not_mem_nil⟩
  · simp [Change.IsWhole, Change.ofStats]
  · simp [Change.IsWhole]

/-- They write two rows. -/
lemma writeAll_calls : writeAll (some {}) calls = some twoRows := by
  decide +kernel

end Sample

end ChatTriage.Store
