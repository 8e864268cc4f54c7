import ChatTriage.Proofs.Filter.Document
import ChatTriage.Store.Filters

/-!
# Loading the table of filters

A row defines a filter (`FilterRow.Defines`) when its document holds an object that can be read with
the columns of the row put in; `FilterRow.ofJson_filled` says how that is read. Rows that can all be
read are all loaded, each filter being enabled when its row is. A `Numbered` table has ids as the
database gives them out: positive, ascending and within 64 bits, so that there are fewer rows than a
version can count.
-/

namespace ChatTriage

namespace Json

/-- A field that was put is found. -/
lemma find?_put_self (fields : List (String × Json)) (name : String) (x : Json) :
    find? (put fields name x) name = some x := by
  unfold put find?
  split
  · rename_i there
    induction fields with
    | nil => cases there
    | cons f fields ih =>
      by_cases own : f.1 = name
      · simp [own]
      · simp only [List.any_cons, beq_eq_false_iff_ne.mpr own, Bool.false_or] at there
        simpa [own] using ih there
  · rename_i gone
    rw [List.find?_append, List.find?_eq_none.mpr]
    · simp
    · intro f member same
      exact gone (List.any_eq_true.mpr ⟨f, member, same⟩)

/-- Other fields are found as before. -/
lemma find?_put_ne {fields : List (String × Json)} {name other : String} (x : Json)
    (differ : name ≠ other) : find? (put fields name x) other = find? fields other := by
  unfold put
  split
  · rename_i there
    clear there
    induction fields with
    | nil => rfl
    | cons f fields ih =>
      unfold find? at *
      by_cases own : f.1 = name
      · simpa [own, differ] using ih
      · by_cases sought : f.1 = other
        · simp [sought, differ.symm]
        · simpa [own, sought] using ih
  · unfold find?
    rw [List.find?_append]
    simp [differ]

end Json

namespace Store

variable {r : FilterRow} {f : Filter} {t : FilterTable} {fields : List (String × Json)}

/-- The ids of a table are positive and ascending, and fit a column. -/
structure FilterTable.Numbered (t : FilterTable) : Prop where
  ascending : t.rows.Pairwise fun r s => r.id < s.id
  positive : ∀ r ∈ t.rows, 0 < r.id
  fits : ∀ r ∈ t.rows, Store.fits r.id = true

/-- Between two numbers there is no room for more ascending ids than there are numbers. -/
lemma length_lt_of_ascending {rows : List FilterRow} {low high : Int}
    (ascending : rows.Pairwise fun r s => r.id < s.id)
    (between : ∀ r ∈ rows, low < r.id ∧ r.id < high) (room : low < high) :
    (rows.length : Int) < high - low := by
  induction rows generalizing low with
  | nil => simpa using room
  | cons r rows ih =>
    obtain ⟨first, ascending⟩ := List.pairwise_cons.mp ascending
    obtain ⟨above, below⟩ := between r List.mem_cons_self
    have rest := ih ascending
      (fun s later => ⟨first s later, (between s (List.mem_cons_of_mem r later)).2⟩) below
    rw [List.length_cons]
    omega

/-- There are fewer rows than ids. -/
lemma FilterTable.Numbered.length_lt (numbered : t.Numbered) : t.rows.length < 2 ^ 63 := by
  have below (r : FilterRow) (member : r ∈ t.rows) : r.id < 2 ^ 63 := by
    have fits := numbered.fits r member
    have bound : Number.twoPow 63 = 2 ^ 63 := by decide +kernel
    unfold Store.fits Number.inSignedWord at fits
    rw [bound] at fits
    simp at fits
    omega
  have length := length_lt_of_ascending numbered.ascending
    (fun r member => ⟨numbered.positive r member, below r member⟩) (by decide)
  omega

namespace FilterRow

/-- The object in a row with the columns of the row in it. -/
def filled (r : FilterRow) (fields : List (String × Json)) : List (String × Json) :=
  Json.put (Json.put (Json.put (Json.put fields "id" (.int r.id)) "name" (.str r.name)) "enabled"
    (.bool r.enabled.toJson.truthy)) "stats"
    (.obj [("matches", r.matched.toJson), ("lastMatch", r.lastMatch.toJson)])

/-- A filled document holds the stats of the row. -/
lemma find?_filled_stats : Json.find? (r.filled fields) "stats" =
    some (.obj [("matches", r.matched.toJson), ("lastMatch", r.lastMatch.toJson)]) :=
  Json.find?_put_self ..

/-- It holds whether the row is enabled. -/
lemma find?_filled_enabled :
    Json.find? (r.filled fields) "enabled" = some (.bool r.enabled.toJson.truthy) := by
  unfold filled
  rw [Json.find?_put_ne _ (by decide), Json.find?_put_self]

/-- It holds the name of the row. -/
lemma find?_filled_name : Json.find? (r.filled fields) "name" = some (.str r.name) := by
  unfold filled
  rw [Json.find?_put_ne _ (by decide), Json.find?_put_ne _ (by decide), Json.find?_put_self]

/-- It holds the id of the row. -/
lemma find?_filled_id : Json.find? (r.filled fields) "id" = some (.int r.id) := by
  unfold filled
  rw [Json.find?_put_ne _ (by decide), Json.find?_put_ne _ (by decide),
    Json.find?_put_ne _ (by decide), Json.find?_put_self]

/-- The other fields are those of the object. -/
lemma find?_filled {name : String} (id : "id" ≠ name) (called : "name" ≠ name)
    (enabled : "enabled" ≠ name) (stats : "stats" ≠ name) :
    Json.find? (r.filled fields) name = Json.find? fields name := by
  unfold filled
  rw [Json.find?_put_ne _ stats, Json.find?_put_ne _ enabled, Json.find?_put_ne _ called,
    Json.find?_put_ne _ id]

/-- An object is filled. -/
lemma fill_obj : r.fill (.obj fields) = .ok (.obj (r.filled fields)) := rfl

/-- Only an object takes the columns of its row. -/
lemma fill_or (r : FilterRow) (raw : Json) :
    (∃ fields, raw = .obj fields) ∨ ∃ cause, r.fill raw = .error (.wrongKind cause) := by
  cases raw with
  | obj fields => exact .inl ⟨fields, rfl⟩
  | _ => exact .inr ⟨_, rfl⟩

/-- A row is loaded from its filled document. -/
lemma load_of_read (read : r.document.read = .ok (.obj fields)) :
    r.load = Filter.ofJson (.obj (r.filled fields)) := by
  unfold load
  rw [read, ok_bind, fill_obj, ok_bind]

/-- How the object in a row is read. -/
lemma ofJson_filled : Filter.ofJson (.obj (r.filled fields)) = (do
    if (Text.trim r.name).isEmpty then throw (.value .emptyFilterName)
    let authors ← (Json.part fields "authors").elementsOrNone
    let keywords ← (Json.part fields "keywords").elementsOrNone
    let keywordMode ← KeywordMode.ofJson (Json.part fields "keywordMatchMode")
    let types ← (Json.part fields "messageTypes").elementsOrNone
    let messageTypes ← types.mapM ContentType.ofJson
    let timeRange ← TimeRange.ofJson (Json.part fields "timeRange")
    let actions ← FilterActions.ofJson (Json.part fields "actions")
    let matched ← r.matched.toJson.toInt
    let lastMatch ← DateTime.ofJson r.lastMatch.toJson
    return {
      id := .int r.id, name := Text.trim r.name
      description := shownOrBlank (Json.part fields "description"),
        authors := authors.map Author.ofJson
      keywords := keywords.map Json.shown, keywordMode, messageTypes, timeRange, actions
      enabled := r.enabled.toJson.truthy, stats := ⟨matched, lastMatch⟩ }) := by
  have counts : (Json.obj [("matches", r.matched.toJson), ("lastMatch", r.lastMatch.toJson)]).orElse
      (.obj []) = .obj [("matches", r.matched.toJson), ("lastMatch", r.lastMatch.toJson)] := rfl
  unfold Filter.ofJson Json.part
  simp only [Json.get, Json.field, Json.getOr, find?_filled_id, find?_filled_name,
    find?_filled_enabled, find?_filled_stats, Option.getD_some, counts, ok_bind, Json.shown_str,
    find?_filled (show "id" ≠ "description" by decide) (by decide) (by decide) (by decide),
    find?_filled (show "id" ≠ "authors" by decide) (by decide) (by decide) (by decide),
    find?_filled (show "id" ≠ "keywords" by decide) (by decide) (by decide) (by decide),
    find?_filled (show "id" ≠ "keywordMatchMode" by decide) (by decide) (by decide) (by decide),
    find?_filled (show "id" ≠ "messageTypes" by decide) (by decide) (by decide) (by decide),
    find?_filled (show "id" ≠ "timeRange" by decide) (by decide) (by decide) (by decide),
    find?_filled (show "id" ≠ "actions" by decide) (by decide) (by decide) (by decide)]
  rfl

/-- The row holds an object that defines a filter once the columns of the row are put in. -/
def Defines (r : FilterRow) (f : Filter) : Prop :=
  ∃ fields, r.document.read = .ok (.obj fields) ∧ Filter.ofJson (.obj (r.filled fields)) = .ok f

/-- A row is loaded as the filter that it defines. -/
lemma load_eq_ok_iff_defines : r.load = .ok f ↔ r.Defines f := by
  unfold load
  rw [bind_eq_ok_iff]
  constructor
  · rintro ⟨raw, read, filled⟩
    obtain ⟨fields, rfl⟩ | ⟨cause, refused⟩ := r.fill_or raw
    · exact ⟨fields, read, filled⟩
    · rw [refused] at filled
      cases filled
  · rintro ⟨fields, read, defines⟩
    exact ⟨.obj fields, read, defines⟩

/-- The columns of a row that its filter is read from. -/
lemma Defines.columns (defines : r.Defines f) :
    f.id = .int r.id ∧ f.name = Text.trim r.name ∧ f.enabled = r.enabled.toJson.truthy := by
  obtain ⟨fields, -, read⟩ := defines
  rw [ofJson_filled] at read
  split at read
  · cases read
  · simp only [bind_eq_ok_iff] at read
    obtain ⟨_, -, _, -, _, -, _, -, _, -, _, -, _, -, _, -, _, -, same⟩ := read
    cases same
    exact ⟨rfl, rfl, rfl⟩

/-- A filter is enabled when its row is. -/
lemma enabled_of_load (loaded : r.load = .ok f) : f.enabled = r.enabled.toJson.truthy :=
  (load_eq_ok_iff_defines.mp loaded).columns.2.2

end FilterRow

/-- The row with other stats. -/
def FilterRow.restated (r : FilterRow) (matched lastMatch : Cell) : FilterRow :=
  { r with matched, lastMatch }

/-- The stats of a row are read after everything else. -/
lemma FilterRow.load_eq (r : FilterRow) : r.load = (do
    let f ← (r.restated (.int 0) .null).load
    let matched ← r.matched.toJson.toInt
    let lastMatch ← DateTime.ofJson r.lastMatch.toJson
    return { f with stats := ⟨matched, lastMatch⟩ }) := by
  have same : (r.restated (.int 0) .null).document = r.document := rfl
  cases document : r.document.read with
  | error e =>
    unfold load
    rw [same, document]
    rfl
  | ok raw =>
    cases raw with
    | obj fields =>
      have zero : (r.restated (.int 0) .null).matched.toJson.toInt = .ok 0 := rfl
      have never : DateTime.ofJson (r.restated (.int 0) .null).lastMatch.toJson = .ok none := rfl
      rw [load_of_read document, load_of_read (same ▸ document), ofJson_filled, ofJson_filled,
        zero, never]
      unfold restated
      split
      · rfl
      · simp only [bind_assoc, ok_bind, pure_bind]
    | _ =>
      unfold load
      rw [same, document]
      rfl

/-- The stats of a row are loaded apart from the rest. -/
lemma FilterRow.load_eq_ok_iff :
    r.load = .ok f ↔ ∃ g, (r.restated (.int 0) .null).load = .ok g ∧
      r.matched.toJson.toInt = .ok f.stats.matched ∧
      DateTime.ofJson r.lastMatch.toJson = .ok f.stats.lastMatch ∧
        f = { g with stats := f.stats } := by
  rw [r.load_eq]
  simp only [bind_eq_ok_iff]
  constructor
  · rintro ⟨g, loaded, matched, counted, lastMatch, dated, same⟩
    cases same
    exact ⟨g, loaded, counted, dated, rfl⟩
  · rintro ⟨g, loaded, counted, dated, same⟩
    exact ⟨g, loaded, _, counted, _, dated, congrArg Except.ok same.symm⟩

/-- The stats of a row, which are kept in two columns. -/
def FilterRow.stats (r : FilterRow) : Except Fault FilterStats := do
  let matched ← r.matched.toJson.toInt
  let lastMatch ← DateTime.ofJson r.lastMatch.toJson
  return ⟨matched, lastMatch⟩

/-- A loaded filter has the stats of its row. -/
lemma FilterRow.stats_of_load (loaded : r.load = .ok f) : r.stats = .ok f.stats := by
  obtain ⟨_, -, counted, dated, -⟩ := load_eq_ok_iff.mp loaded
  unfold stats
  rw [counted, dated]
  rfl

/-- A row that is given other stats is loaded with them. -/
lemma FilterRow.load_restated {matched lastMatch : Cell} {stats : FilterStats}
    (loaded : r.load = .ok f)
    (counted : matched.toJson.toInt = .ok stats.matched)
    (dated : DateTime.ofJson lastMatch.toJson = .ok stats.lastMatch) :
    (r.restated matched lastMatch).load = .ok { f with stats } := by
  obtain ⟨g, bare, -, -, same⟩ := load_eq_ok_iff.mp loaded
  refine load_eq_ok_iff.mpr ⟨g, bare, counted, dated, ?_⟩
  rw [same]

/-- A row that can be read is loaded before the others. -/
lemma loadAll_cons_of_load {rows : List FilterRow} (loaded : r.load = .ok f) :
    loadAll (r :: rows) = (loadAll rows).map (f :: ·) := by
  simp only [loadAll, loaded]

/-- A malformed row is passed over. -/
lemma loadAll_cons_of_malformed {rows : List FilterRow} {e : Fault} (refused : r.load = .error e)
    (malformed : e.isMalformed = true) : loadAll (r :: rows) = loadAll rows := by
  simp only [loadAll, refused, malformed, if_true]

/-- One row is loaded as its filter. -/
lemma loadAll_singleton (loaded : r.load = .ok f) : loadAll [r] = .ok [f] :=
  loadAll_cons_of_load loaded

/-- What is loaded are the filters of the rows that can be. -/
lemma eq_of_loadAll {rows : List FilterRow} {filters : List Filter}
    (done : loadAll rows = .ok filters) :
    filters = rows.filterMap (·.load.toOption) := by
  induction rows generalizing filters with
  | nil =>
    cases done
    rfl
  | cons r rows ih =>
    cases loaded : r.load with
    | ok f =>
      rw [loadAll_cons_of_load loaded] at done
      cases rest : loadAll rows with
      | error e =>
        rw [rest] at done
        cases done
      | ok others =>
        rw [rest] at done
        cases done
        rw [ih rest, List.filterMap_cons, loaded]
        rfl
    | error e =>
      rw [List.filterMap_cons, loaded]
      cases malformed : e.isMalformed with
      | true =>
        rw [loadAll_cons_of_malformed loaded malformed] at done
        exact ih done
      | false => simp [loadAll, loaded, malformed] at done

/-- Rows that can all be read are all loaded. -/
lemma loadAll_eq {rows : List FilterRow} (loads : ∀ r ∈ rows, ∃ f, r.load = .ok f) :
    loadAll rows = .ok (rows.filterMap (·.load.toOption)) := by
  induction rows with
  | nil => rfl
  | cons r rows ih =>
    obtain ⟨f, loaded⟩ := loads r List.mem_cons_self
    have rest := ih fun s later => loads s (List.mem_cons_of_mem r later)
    rw [loadAll_cons_of_load loaded, rest, List.filterMap_cons, loaded]
    rfl

end Store

end ChatTriage
