import Mathlib.Data.List.TakeDrop
import ChatTriage.Proofs.Number.Integer
import ChatTriage.Proofs.Store.Reached
import ChatTriage.Proofs.Time.Reader

/-!
# Rules without dates

The date of the last match is written by the desk and never looked at: whatever is read from a table
whose dates are taken away, or done to it, is what is read from the table with its dates, or done to
it, the dates apart. A table `Loads` when all its rows can be read, which everything that the desk
does to it preserves.
-/

namespace ChatTriage

/-- The filter without the date of its last match. -/
def Filter.undated (f : Filter) : Filter :=
  { f with stats := { f.stats with lastMatch := none } }

/-- Filters that are the same without dates differ in the date at most. -/
lemma Filter.eq_of_undated {f g : Filter} (same : f.undated = g.undated) :
    ∃ date, g = { f with stats := { f.stats with lastMatch := date } } := by
  obtain ⟨id, name, description, authors, keywords, mode, types, range, actions, enabled,
    matched, date⟩ := f
  obtain ⟨id', name', description', authors', keywords', mode', types', range', actions',
    enabled', matched', date'⟩ := g
  cases same
  exact ⟨date', rfl⟩

/-- A digit is one in a document. -/
lemma Json.isDigit_of_isDigit {c : Char} (digit : c.isDigit = true) : Json.isDigit c = true := by
  unfold Char.isDigit at digit
  simp at digit
  simp [Json.isDigit, Char.le_def, digit]

namespace Store

variable {r : FilterRow} {t t' : FilterTable} {f : Filter} {stats : FilterStats}

namespace Cell

/-- A digit is no blank. -/
lemma isSpace_of_isDigit {c : Char} (digit : c.isDigit = true) : isSpace c = false := by
  have apart : c ≠ ' ' := by
    rintro rfl
    cases digit
  have bound := (toNat_of_isDigit digit).1
  simp only [isSpace, apart, Bool.or_eq_false_iff, Bool.and_eq_false_iff, decide_eq_false_iff_not]
  exact ⟨not_false, .inr (by omega)⟩

/-- A text that goes on with a dash after its first digits writes no number. -/
lemma decimal?_of_dash {s : String} {d : Char} {digits rest : List Char}
    (all : ∀ c ∈ d :: digits, c.isDigit = true) (chars : s.toList = d :: digits ++ '-' :: rest) :
    decimal? s = none := by
  have read (c : Char) (member : c ∈ d :: digits) := Json.isDigit_of_isDigit (all c member)
  have text : s.toList.dropWhile isSpace = d :: digits ++ '-' :: rest := by
    have unspaced := isSpace_of_isDigit (all d List.mem_cons_self)
    rw [chars, List.cons_append, List.dropWhile_cons_of_neg (by simp [unspaced])]
  have unsigned : Number.signed (d :: digits ++ '-' :: rest) =
      (false, d :: digits ++ '-' :: rest) :=
    Number.signed_of_isDigitSign
      (Text.isDigitSign_of_isDecimal (Text.isDecimal_of_isDigit (all d List.mem_cons_self)))
  have whole : (d :: digits ++ '-' :: rest).span Json.isDigit = (d :: digits, '-' :: rest) := by
    rw [List.span_eq_takeWhile_dropWhile, List.takeWhile_append_of_pos read,
      List.dropWhile_append_of_pos read]
    simp [Json.isDigit]
  unfold decimal? leadingDecimal?
  simp only [text, unsigned, whole]
  simp [Json.exponentPart, isSpace]

/-- A date stands in its column as it is written. -/
lemma ofDate_some (date : DateTime) : ofDate (some date) = .text date.iso := by
  obtain ⟨cs, written, -⟩ := date.wall.iso_written
  have year : (padded 4 date.wall.date.year).toList ≠ [] := by
    have valid := date.wall.date_spec.1
    simp only [Date.isValid, Bool.and_eq_true, decide_eq_true_eq] at valid
    unfold Date.maxYear at valid
    have length : (padded 4 date.wall.date.year).toList.length = 4 :=
      length_padded (by decide) (by omega)
    rintro none
    rw [none] at length
    cases length
  obtain ⟨d, digits, chars⟩ := List.exists_cons_of_ne_nil year
  obtain ⟨rest, text⟩ : ∃ rest, date.iso.toList = d :: digits ++ '-' :: rest := by
    apply Exists.intro
    rw [DateTime.iso, String.toList_append, written, chars, List.append_assoc]
    exact rfl
  have none := decimal?_of_dash (fun c member => isDigit_of_mem_padded (chars ▸ member)) text
  unfold ofDate numeric
  simp only [none, Option.getD_none]

/-- A legible date is read back from its column. -/
lemma ofJson_ofDate {date : DateTime} (legible : date.Legible) :
    DateTime.ofJson (ofDate (some date)).toJson = .ok (some date) := by
  rw [ofDate_some]
  exact DateTime.ofJson_of_read legible.read?_iso

/-- What stands in the column of a date can be read. -/
lemma exists_ofJson_ofDate (date : Option DateTime) :
    ∃ found, DateTime.ofJson (ofDate date).toJson = .ok found := by
  cases date with
  | none => exact ⟨none, rfl⟩
  | some date =>
    obtain ⟨found, read⟩ := date.exists_read?_iso
    rw [ofDate_some]
    exact ⟨some found, DateTime.ofJson_of_read read⟩

end Cell

/-- A loaded filter is regular. -/
lemma FilterRow.regular_of_load (loaded : r.load = .ok f) : f.Regular := by
  unfold load at loaded
  obtain ⟨raw, -, filled⟩ := bind_eq_ok_iff.mp loaded
  obtain ⟨document, -, read⟩ := bind_eq_ok_iff.mp filled
  exact Filter.regular_of_ofJson read

/-- The row without the date of the last match. -/
def FilterRow.undated (r : FilterRow) : FilterRow :=
  { r with lastMatch := .null }

/-- A row without its date is loaded as the filter without it. -/
lemma FilterRow.load_undated (loaded : r.load = .ok f) : r.undated.load = .ok f.undated := by
  obtain ⟨g, -, counted, -⟩ := load_eq_ok_iff.mp loaded
  have restated : r.undated = r.restated r.matched .null := rfl
  rw [restated]
  exact load_restated loaded counted rfl

/-- Rows without dates are loaded as filters without dates. -/
lemma loadAll_undated {rows : List FilterRow} (loads : ∀ r ∈ rows, ∃ f, r.load = .ok f) :
    ∃ filters, loadAll rows = .ok filters ∧
      loadAll (rows.map (·.undated)) = .ok (filters.map (·.undated)) := by
  induction rows with
  | nil => exact ⟨[], rfl, rfl⟩
  | cons r rows ih =>
    obtain ⟨filters, rest, bare⟩ := ih fun s later => loads s (List.mem_cons_of_mem r later)
    obtain ⟨f, loaded⟩ := loads r List.mem_cons_self
    refine ⟨f :: filters, ?_, ?_⟩
    · simp [loadAll, loaded, rest, Except.map]
    · simp [loadAll, FilterRow.load_undated loaded, bare, Except.map]

namespace FilterTable

/-- The table without the dates of matches. -/
def undated (t : FilterTable) : FilterTable :=
  { t with rows := t.rows.map (·.undated) }

/-- Every row of the table can be read. -/
def Loads (t : FilterTable) : Prop :=
  ∀ r ∈ t.rows, ∃ f, r.load = .ok f

/-- A selection of rows that does not look at dates. -/
structure Blind (select : FilterTable → List FilterRow) : Prop where
  among : ∀ t, ∀ r ∈ select t, r ∈ t.rows
  undated : ∀ t, select t.undated = (select t).map (·.undated)

/-- All rows are selected without looking at dates. -/
lemma blind_rows : Blind rows :=
  ⟨fun _ _ member => member, fun _ => rfl⟩

/-- So are those with a property that does not look at dates. -/
lemma blind_filter {p : FilterRow → Bool} (blind : ∀ r : FilterRow, p r.undated = p r) :
    Blind fun t => t.rows.filter p := by
  refine ⟨fun t r member => (List.mem_filter.mp member).1, fun t => ?_⟩
  have same : p ∘ FilterRow.undated = p := funext blind
  show (t.rows.map FilterRow.undated).filter p = _
  rw [List.filter_map, same]

/-- A blind query finds the same filters without dates. -/
lemma Loads.query {select : FilterTable → List FilterRow} (loads : t.Loads) (blind : Blind select) :
    ∃ filters, queryFilters (some t) select = .ok filters ∧ (∀ f ∈ filters, f.Regular) ∧
      queryFilters (some t.undated) select = .ok (filters.map (·.undated)) := by
  obtain ⟨filters, loaded, bare⟩ := loadAll_undated fun r member => loads r (blind.among t r member)
  refine ⟨filters, loaded, fun f member => ?_, ?_⟩
  · obtain ⟨r, -, loads⟩ := mem_of_loadAll loaded member
    exact FilterRow.regular_of_load loads
  · show loadAll (select t.undated) = _
    rw [blind.undated, bare]

/-- Rows are changed in place without their dates. -/
lemma updateRows_undated {id : Cell} {change : FilterRow → FilterRow} {bare : FilterRow → FilterRow}
    (blind : ∀ r, (change r).undated = bare r.undated) :
    (t.updateRows id change).undated = t.undated.updateRows id bare := by
  unfold undated updateRows
  simp only [List.map_map, mk.injEq, and_true]
  refine List.map_congr_left fun r _ => ?_
  have same : r.undated.id = r.id := rfl
  simp only [Function.comp_apply, same]
  split
  · exact blind r
  · rfl

/-- A table still loads when its changed rows do. -/
lemma Loads.updateRows {id : Cell} {change : FilterRow → FilterRow} (loads : t.Loads)
    (change_loads : ∀ r g, r.load = .ok g → ∃ h, (change r).load = .ok h) :
    (t.updateRows id change).Loads := by
  intro r member
  obtain ⟨s, old, rfl⟩ := List.mem_map.mp member
  obtain ⟨g, loaded⟩ := loads s old
  split
  · exact change_loads s g loaded
  · exact ⟨g, loaded⟩

/-- A match is counted without its date. -/
lemma count_undated {id : Cell} :
    (t.count id stats).undated = t.undated.count id { stats with lastMatch := none } :=
  updateRows_undated fun _ => rfl

/-- A table still loads after a match was counted. -/
lemma Loads.count {id : Cell} {matched : Int} {date : DateTime} (loads : t.Loads)
    (legible : date.Legible) : (t.count id ⟨matched, some date⟩).Loads := by
  refine loads.updateRows fun r g loaded => ⟨{ g with stats := ⟨matched, some date⟩ }, ?_⟩
  have dated : DateTime.ofJson (Cell.ofDate (some date)).toJson = .ok (some date) :=
    Cell.ofJson_ofDate legible
  exact r.load_restated loaded rfl dated

end FilterTable

/-- Names are taken whatever the dates are. -/
lemma FilterTable.nameTaken_undated {name : String} {except : Cell} :
    t.undated.nameTaken name except = t.nameTaken name except := by
  unfold nameTaken undated
  rw [List.any_map]
  rfl

/-- Rows are found by id without looking at dates. -/
lemma FilterTable.rowsWithId_undated (id : Cell) : Blind (·.rowsWithId id) :=
  blind_filter fun _ => rfl

/-- A filter is written without dates as it is with them. -/
lemma FilterTable.write_undated :
    t.undated.write f.undated = (t.write f).map fun x => (x.1.undated, x.2) := by
  have document : f.undated.definition = f.definition := rfl
  have id : f.undated.id = f.id := rfl
  have name : f.undated.name = f.name := rfl
  have enabled : f.undated.enabled = f.enabled := rfl
  unfold FilterTable.write
  simp only [document, id, name, enabled, FilterTable.nameTaken_undated]
  split
  · split
    · rfl
    · simp [Except.map, FilterTable.insert, FilterTable.undated, FilterRow.undated]
  · cases bound : Cell.bind (.store <| .filterSave ·) 4 f.id with
    | error e => rfl
    | ok id =>
      simp only [(FilterTable.rowsWithId_undated id).undated, List.isEmpty_map]
      split
      · rfl
      · split
        · rfl
        · refine congrArg (fun u => Except.ok (u, id))
            (FilterTable.updateRows_undated fun r => ?_).symm
          rfl

/-- Writing a definition, the dates apart. -/
lemma writeFilter_undated :
    writeFilter (some t.undated) f.undated =
      (writeFilter (some t) f).map fun x => (x.1.undated, x.2) := by
  have texts : f.undated.encodable = f.encodable := rfl
  have refused : f.undated.refusedText = f.refusedText := rfl
  cases encodable : f.encodable with
  | true =>
    rw [writeFilter_of_encodable encodable, writeFilter_of_encodable (texts.trans encodable),
      FilterTable.write_undated]
  | false =>
    rw [writeFilter_of_unencodable encodable, writeFilter_of_unencodable (texts.trans encodable),
      refused]
    rfl

/-- A filter that is written over a table that loads leaves it loading. -/
lemma FilterTable.Loads.writeFilter {id : Cell} (loads : t.Loads) (regular : f.Regular)
    (written : Store.writeFilter (some t) f = .ok (t', id)) : t'.Loads := by
  obtain ⟨-, ⟨-, -, rfl, -⟩ | ⟨-, -, -, -, rfl⟩⟩ := writeFilter_eq_ok_iff.mp written
  · intro r member
    obtain old | new := List.mem_append.mp member
    · exact loads r old
    · obtain rfl := List.mem_singleton.mp new
      exact ⟨_, FilterRow.load_fresh regular _⟩
  · exact loads.updateRows fun r g loaded => FilterRow.load_redefined loaded regular

/-- Saving a filter in a table that loads, the dates apart. -/
lemma FilterTable.Loads.saveFilter (loads : t.Loads) (regular : f.Regular) :
    ∃ u result, saveFilter (some t) f = (some u, result) ∧ u.Loads ∧
      saveFilter (some t.undated) f.undated = (some u.undated, result.map (·.undated)) := by
  unfold Store.saveFilter
  rw [writeFilter_undated]
  cases written : Store.writeFilter (some t) f with
  | error e => exact ⟨t, .error e, rfl, loads, rfl⟩
  | ok x =>
    obtain ⟨u, id⟩ := x
    have later := loads.writeFilter regular written
    -- the row is read back from the table as it was written
    obtain ⟨filters, found, -, bare⟩ := later.query (rowsWithId_undated id)
    refine ⟨u, readBack u id, rfl, later, ?_⟩
    simp only [Except.map, readBack, found, bare]
    cases filters <;> rfl

end Store

end ChatTriage
