import ChatTriage.Command.Field
import ChatTriage.Proofs.Store.Filters
import ChatTriage.Proofs.Store.Ordered

/-!
# Tables of filters that the desk has written

A table is `Reached` when it comes from saving filters that were defined by documents and edited by
operators, and from counting matches. Its rows are sound and its ids unique: every query of it has
an answer, and a filter that was loaded from it and edited reads back once it is saved.
-/

namespace ChatTriage

/-- Edits leave a filter regular. -/
lemma Filter.Regular.apply {f : Filter} (regular : f.Regular) (u : Command.Update) :
    (u.apply f).Regular := by
  obtain ⟨trimmed, named, range, tags⟩ := regular
  cases u <;> exact ⟨trimmed, named, range, tags⟩

/-- A filter that a document defines, with any number of edits. -/
inductive Filter.Made : Filter → Prop where
  | read {raw f} :
    Filter.ofJson raw = .ok f →
    Made f
  | edited {f} (u : Command.Update) :
    Made f →
    Made (u.apply f)

/-- A filter that was made is regular. -/
lemma Filter.Made.regular {f : Filter} (made : f.Made) : f.Regular := by
  induction made with
  | read read => exact Filter.regular_of_ofJson read
  | edited u _ ih => exact ih.apply u

namespace Store

variable {r : FilterRow} {t t' : FilterTable} {f g : Filter}

/-- A definition stands in the document of its row, with the columns of the row put in. -/
lemma FilterRow.definedIn (r : FilterRow) (f : Filter) :
    f.DefinedIn (r.filled f.definition) (.int r.id) r.name r.enabled.toJson.truthy r.matched.toJson
      r.lastMatch.toJson where
  id := find?_filled_id
  name := find?_filled_name
  enabled := find?_filled_enabled
  stats := find?_filled_stats
  definition := by
    unfold Filter.definition
    simp only [List.forall_mem_cons]
    refine ⟨?_, ?_, ?_, ?_, ?_, ?_, ?_, fun x none => absurd none List.not_mem_nil⟩
    all_goals
      rw [find?_filled (by decide) (by decide) (by decide) (by decide)]
      rfl

/-- What a row with a definition is loaded as. -/
lemma FilterRow.load_of_definition (regular : f.Regular)
    (written : r.document = .written (.obj f.definition)) :
    r.load = (do
      if (Text.trim r.name).isEmpty then throw (.value .emptyFilterName)
      let matched ← r.matched.toJson.toInt
      let lastMatch ← DateTime.ofJson r.lastMatch.toJson
      return { f with
        id := .int r.id, name := Text.trim r.name, enabled := r.enabled.toJson.truthy
        stats := ⟨matched, lastMatch⟩ }) := by
  rw [← (r.definedIn f).ofJson regular]
  exact load_of_read (written ▸ rfl)

/-- A row as the desk writes it: the definition of a regular filter that can be encoded, under its
name, and a whole number of matches. -/
structure FilterRow.Sound (r : FilterRow) : Prop where
  definition : ∃ f : Filter, f.Regular ∧ f.encodable = true ∧ f.name = r.name ∧
    r.document = .written (.obj f.definition)
  matched : ∃ n : Int, r.matched = .int n

/-- What a sound row is loaded as depends on its date alone. -/
lemma FilterRow.Sound.load (sound : r.Sound) :
    ∃ f : Filter, ∃ n, f.Regular ∧ f.encodable = true ∧ f.id = .int r.id ∧
      r.load = (DateTime.ofJson r.lastMatch.toJson).map fun lastMatch =>
        { f with stats := ⟨n, lastMatch⟩ } := by
  obtain ⟨⟨f, regular, encodable, name, written⟩, n, matched⟩ := sound
  have same : Text.trim r.name = f.name := by rw [← name, regular.trimmed]
  refine ⟨{ f with id := .int r.id, enabled := r.enabled.toJson.truthy }, n,
    ⟨regular.trimmed, regular.named, regular.range, regular.tags⟩, encodable, rfl, ?_⟩
  rw [FilterRow.load_of_definition regular written, same, regular.name_isEmpty, matched]
  show (Except.ok n >>= _) = _
  rw [ok_bind]
  cases DateTime.ofJson r.lastMatch.toJson <;> rfl

/-- A filter that a sound row is loaded as has the id of the row, and can be encoded. -/
lemma FilterRow.Sound.loaded (sound : r.Sound) (loaded : r.load = .ok f) :
    f.Regular ∧ f.id = .int r.id ∧ f.encodable = true := by
  obtain ⟨g, n, regular, encodable, id, loads⟩ := sound.load
  rw [loads] at loaded
  cases read : DateTime.ofJson r.lastMatch.toJson with
  | error e =>
    rw [read] at loaded
    cases loaded
  | ok date =>
    rw [read] at loaded
    cases loaded
    exact ⟨⟨regular.trimmed, regular.named, regular.range, regular.tags⟩, id, encodable⟩

/-- A sound row is loaded, or passed over because its date cannot be read. -/
lemma FilterRow.Sound.load_or (sound : r.Sound) :
    (∃ f, r.load = .ok f) ∨ ∃ e, r.load = .error e ∧ e.isMalformed = true := by
  obtain ⟨f, n, -, -, -, loads⟩ := sound.load
  rw [loads]
  cases read : DateTime.ofJson r.lastMatch.toJson with
  | ok date => exact .inl ⟨_, rfl⟩
  | error e =>
    refine .inr ⟨e, rfl, ?_⟩
    unfold DateTime.ofJson at read
    split at read
    · cases read
    · simp only at read
      split at read
      · cases read
      · cases read
        rfl

/-- Every query of sound rows has an answer. -/
lemma loadAll_of_sound {rows : List FilterRow} (sound : ∀ r ∈ rows, r.Sound) :
    ∃ filters, loadAll rows = .ok filters := by
  induction rows with
  | nil => exact ⟨[], rfl⟩
  | cons r rows ih =>
    obtain ⟨filters, rest⟩ := ih fun s later => sound s (List.mem_cons_of_mem r later)
    obtain ⟨f, loaded⟩ | ⟨e, refused, malformed⟩ := (sound r List.mem_cons_self).load_or
    · exact ⟨f :: filters, by rw [loadAll_cons_of_load loaded, rest]; rfl⟩
    · exact ⟨filters, by rw [loadAll_cons_of_malformed refused malformed, rest]⟩

/-- What is loaded comes from a row. -/
lemma mem_of_loadAll {rows : List FilterRow} {filters : List Filter}
    (loaded : loadAll rows = .ok filters)
    (member : f ∈ filters) : ∃ r ∈ rows, r.load = .ok f := by
  rw [eq_of_loadAll loaded] at member
  obtain ⟨r, among, found⟩ := List.mem_filterMap.mp member
  refine ⟨r, among, ?_⟩
  cases load : r.load with
  | error e =>
    rw [load] at found
    cases found
  | ok g =>
    rw [load] at found
    cases found
    rfl

/-- The filter with a name comes from a row. -/
lemma mem_of_filterNamed {name : String} (found : filterNamed (some t) name = .ok (some f)) :
    ∃ r ∈ t.rows, r.load = .ok f := by
  have query : filterNamed (some t) name =
    (loadAll (t.rows.filter (·.name = name))).map List.head? :=
    filterNamed_of_encodable (encodable_of_filterNamed found)
  rw [query] at found
  cases loaded : loadAll (t.rows.filter (·.name = name)) with
  | error e =>
    rw [loaded] at found
    cases found
  | ok filters =>
    rw [loaded] at found
    have first : filters.head? = some f := Except.ok.inj found
    obtain ⟨r, among, load⟩ := mem_of_loadAll loaded (List.mem_of_mem_head? first)
    exact ⟨r, (List.mem_filter.mp among).1, load⟩

/-- A sound row may be redefined. -/
lemma FilterRow.Sound.redefined (sound : r.Sound) (regular : f.Regular)
    (encodable : f.encodable = true) : (r.redefined f).Sound :=
  ⟨⟨f, regular, encodable, rfl, rfl⟩, sound.matched⟩

/-- Every filter that is loaded from a table can be encoded. -/
def FilterTable.Encoded (t : FilterTable) : Prop :=
  ∀ r ∈ t.rows, ∀ f, r.load = .ok f → f.encodable = true

/-- To tell whether all filters can be encoded is to load them. -/
lemma FilterTable.encoded_iff :
    t.Encoded ↔ ∀ r ∈ t.rows, (r.load.toOption.all Filter.encodable) = true := by
  refine forall₂_congr fun r _ => ?_
  cases r.load <;> simp [Except.toOption]

instance : Decidable t.Encoded :=
  decidable_of_iff' _ FilterTable.encoded_iff

/-- What holds of a table that the desk has written. -/
structure FilterTable.Kept (t : FilterTable) : Prop where
  sound : ∀ r ∈ t.rows, r.Sound
  ascending : t.rows.Pairwise fun r s => r.id < s.id
  given : ∀ r ∈ t.rows, r.id ≤ t.lastId

namespace FilterTable

/-- A kept table is in order. -/
lemma Kept.ordered (kept : t.Kept) : t.Ordered :=
  ⟨kept.ascending, kept.given⟩

/-- Changing rows in place keeps a table that the change keeps sound. -/
lemma Kept.updateRows {id : Cell} {change : FilterRow → FilterRow} (kept : t.Kept)
    (sound : ∀ r, r.Sound → (change r).Sound) (same : ∀ r, (change r).id = r.id) :
    (t.updateRows id change).Kept := by
  have ordered : (t.updateRows id change).Ordered := kept.ordered.updateRows same
  refine ⟨fun r member => ?_, ordered.ascending, ordered.given⟩
  obtain ⟨s, old, rfl⟩ := List.mem_map.mp member
  split
  · exact sound s (kept.sound s old)
  · exact kept.sound s old

/-- It may get a new row. -/
lemma Kept.insert (kept : t.Kept) (regular : f.Regular) (encodable : f.encodable = true) :
    (t.insert (.fresh f)).Kept := by
  have ordered : (t.insert (.fresh f)).Ordered := kept.ordered.insert fun n => rfl
  refine ⟨fun r member => ?_, ordered.ascending, ordered.given⟩
  obtain old | new := List.mem_append.mp member
  · exact kept.sound r old
  · obtain rfl := List.mem_singleton.mp new
    exact ⟨⟨f, regular, encodable, rfl, rfl⟩, 0, rfl⟩

/-- Its matches may be counted. -/
lemma Kept.count {id : Cell} {stats : FilterStats} (kept : t.Kept) : (t.count id stats).Kept := by
  exact kept.updateRows (fun r sound => ⟨sound.definition, stats.matched, rfl⟩) fun r => rfl

/-- It stays so when a filter is saved. -/
lemma Kept.saveFilter {result : Except Fault Filter} (kept : t.Kept) (regular : f.Regular)
    (saved : Store.saveFilter (some t) f = (some t', result)) : t'.Kept := by
  unfold Store.saveFilter at saved
  split at saved
  · cases saved
    exact kept
  · rename_i written
    cases saved
    obtain ⟨encodable, ⟨-, -, rfl, -⟩ | ⟨-, -, -, -, rfl⟩⟩ := writeFilter_eq_ok_iff.mp written
    · exact kept.insert regular encodable
    · exact kept.updateRows (fun r sound => sound.redefined regular encodable) fun r => rfl

/-- The tables that saving filters and counting matches lead to. -/
inductive Reached : FilterTable → Prop where
  | empty :
    Reached {}
  | saved {t t' f result} :
    Reached t →
    Filter.Made f →
    Store.saveFilter (some t) f = (some t', result) →
    Reached t'
  | counted {t t' id stats} :
    Reached t →
    storeStats (some t) id stats = .ok (some t') →
    Reached t'

/-- A table that is reached is in order. -/
lemma Reached.kept (reached : t.Reached) : t.Kept := by
  induction reached with
  | empty =>
    have none (r : FilterRow) : r ∉ ({} : FilterTable).rows := List.not_mem_nil
    exact ⟨fun r member => absurd member (none r), .nil, fun r member => absurd member (none r)⟩
  | saved _ made saved ih => exact ih.saveFilter made.regular saved
  | counted _ stored ih =>
    unfold storeStats at stored
    rw [updateFilter_ofStats] at stored
    obtain ⟨_, -, rest⟩ := bind_eq_ok_iff.mp stored
    obtain ⟨cell, -, last⟩ := bind_eq_ok_iff.mp rest
    cases last
    exact ih.count

end FilterTable

/-- A row that is given another definition is loaded as that with its own id and stats. -/
lemma FilterRow.load_redefined_eq (regular : f.Regular) :
    (r.redefined f).load = r.stats.map fun stats => { f with id := .int r.id, stats } := by
  have enabled : (Cell.ofBool f.enabled).toJson.truthy = f.enabled := by cases f.enabled <;> rfl
  rw [load_of_definition (r := r.redefined f) regular rfl]
  simp only [redefined, stats, enabled, regular.trimmed, regular.name_isEmpty]
  cases r.matched.toJson.toInt with
  | error e => rfl
  | ok matched => cases DateTime.ofJson r.lastMatch.toJson <;> rfl

/-- The row of a new filter is loaded with its id, and without matches. -/
lemma FilterRow.load_fresh (regular : f.Regular) (id : Int) :
    (fresh f id).load = .ok { f with id := .int id, stats := {} } :=
  -- giving the row its own definition again changes nothing
  load_redefined_eq (r := fresh f id) regular

/-- A row that is given another definition loads as well as before. -/
lemma FilterRow.load_redefined (loaded : r.load = .ok g) (regular : f.Regular) :
    ∃ h, (r.redefined f).load = .ok h := by
  rw [load_redefined_eq regular, stats_of_load loaded]
  exact ⟨_, rfl⟩

/-- A row that was written is read back. -/
lemma readBack_of_load {id : Cell} (only : t.rowsWithId id = [r]) (loaded : r.load = .ok f) :
    readBack t id = .ok f := by
  have query : queryFilters (some t) (·.rowsWithId id) = loadAll (t.rowsWithId id) := rfl
  unfold readBack
  rw [query, only, loadAll_singleton loaded]

/-- A filter that was loaded from a table in order and edited is saved, or the table stays as it
is. -/
lemma FilterTable.Kept.saveFilter_edited {result : Except Fault Filter} {table : Option FilterTable}
    (kept : t.Kept) (member : r ∈ t.rows) (loaded : r.load = .ok g) (regular : f.Regular)
    (own : f.id = .int r.id) (saved : Store.saveFilter (some t) f = (table, result)) :
    (∃ e, result = .error e ∧ table = some t) ∨ ∃ h, result = .ok h := by
  unfold Store.saveFilter at saved
  split at saved
  · rename_i e written
    cases saved
    exact .inl ⟨e, rfl, rfl⟩
  · rename_i t' id written
    cases saved
    refine .inr ?_
    obtain ⟨-, ⟨new, -⟩ | ⟨-, bound, -, -, rfl⟩⟩ := writeFilter_eq_ok_iff.mp written
    · rw [own] at new
      cases new
    rw [own, Cell.bind_int] at bound
    split at bound
    · cases bound
      obtain ⟨h, loads⟩ := FilterRow.load_redefined loaded regular
      have only := kept.ordered.rowsWithId_updateRows member fun s =>
        (rfl : (s.redefined f).id = s.id)
      exact ⟨h, readBack_of_load only loads⟩
    · cases bound

end Store

end ChatTriage
