import ChatTriage.Proofs.Filter.Document
import ChatTriage.Proofs.Filter.Encoding
import ChatTriage.Store.Filters

/-!
# Definitions and stats

A row of the table of filters holds a definition and the stats of its filter. Storing stats writes
the two columns of the stats in the rows with an id and nothing else.
-/

namespace ChatTriage.Store

variable {t t' : FilterTable} {f : Filter} {id : Json} {stats : FilterStats}

/-- The row with stats written into it. -/
def FilterRow.counted (r : FilterRow) (stats : FilterStats) : FilterRow :=
  { r with matched := .int stats.matched, lastMatch := .ofDate stats.lastMatch }

/-- The table after stats were stored in the rows whose id is equal to a cell. -/
def FilterTable.count (t : FilterTable) (id : Cell) (stats : FilterStats) : FilterTable :=
  t.updateRows id (·.counted stats)

/-- The row without its stats. -/
def FilterRow.uncounted (r : FilterRow) : FilterRow :=
  { r with matched := .null, lastMatch := .null }

/-- The definitions of a table: its rows without their stats. -/
def FilterTable.definitions (t : FilterTable) : List FilterRow :=
  t.rows.map (·.uncounted)

/-- A whole number is put into a statement if it fits. -/
lemma Cell.bind_int {report : SqlFault → Fault} {position : Nat} {n : Int} :
    Cell.bind report position (.int n) =
      if fits n then .ok (.int n) else .error (.range .storedInteger) := by
  by_cases small : fits n = true <;> simp [Cell.bind, Cell.ofJson, small]

/-- Stats are stored when the number of matches and the id can be put into the statement. -/
lemma updateFilter_ofStats : updateFilter (some t) id [.ofStats stats] = (do
    let _ ← Cell.bind filterUpdateFault 1 (.int stats.matched)
    let cell ← Cell.bind filterUpdateFault 3 id
    return some (t.count cell stats)) := by
  have assigned : assignments 0 [.ofStats stats] = (do
      let c ← Cell.bind filterUpdateFault 1 (.int stats.matched)
      return ([.stats c.numeric (.ofDate stats.lastMatch)], 2)) := rfl
  have stated : updateFilter (some t) id [.ofStats stats] = (do
      let assigned ← assignments 0 [.ofStats stats]
      let id ← Cell.bind filterUpdateFault (assigned.2 + 1) id
      let rows ← t.rows.mapM fun r =>
        if id.isId r.id then assigned.1.foldlM FilterRow.assign r else .ok r
      return some { t with rows }) := rfl
  rw [stated, assigned, Cell.bind_int]
  by_cases small : fits stats.matched = true
  · rw [if_pos small]
    -- each row takes the assignment or is left alone, and neither fails
    refine congrArg (Except.bind (Cell.bind filterUpdateFault 3 id)) (funext fun cell => ?_)
    show Except.bind _ _ = _
    rw [mapM_eq_ok (g := fun r => if cell.isId r.id then r.counted stats else r)]
    · rfl
    · intro r
      split <;> rfl
  · rw [if_neg small]
    rfl

/-- Counting leaves the definitions. -/
lemma definitions_count {cell : Cell} : (t.count cell stats).definitions = t.definitions := by
  unfold FilterTable.definitions FilterTable.count FilterTable.updateRows
  rw [List.map_map]
  refine List.map_congr_left fun r _ => ?_
  simp only [Function.comp_apply]
  split <;> rfl

/-- The row with another definition. -/
def FilterRow.redefined (r : FilterRow) (f : Filter) : FilterRow :=
  { r with name := f.name, enabled := .ofBool f.enabled, document := .written (.obj f.definition) }

/-- The row of a new filter. -/
def FilterRow.fresh (f : Filter) (id : Int) : FilterRow :=
  ⟨id, f.name, .ofBool f.enabled, .int 0, .null, .written (.obj f.definition)⟩

/-! ### Writing a filter -/

/-- A text is put into a statement if it can be encoded. -/
lemma bindText_of_encodable {s : String} (encodable : Text.encodable s = true) :
    bindText s = .ok () :=
  if_pos encodable

/-- A filter is put into a statement if it can be encoded. -/
lemma bindFilter_eq : bindFilter f =
    if f.encodable then .ok () else .error (.value (.unencodable f.refusedText)) := by
  unfold bindFilter bindDocument bindText Filter.encodable Filter.refusedText
  cases Text.encodable f.name with
  | true => cases (Json.obj f.definition).encodable <;> rfl
  | false => rfl

/-- A filter that cannot be encoded is not written. -/
lemma writeFilter_of_unencodable (unencodable : f.encodable = false) :
    writeFilter (some t) f = .error (.value (.unencodable f.refusedText)) := by
  unfold writeFilter
  rw [bindFilter_eq, unencodable]
  rfl

/-- One that can be encoded is written to the table. -/
lemma writeFilter_of_encodable (encodable : f.encodable = true) :
    writeFilter (some t) f = t.write f := by
  unfold writeFilter
  rw [bindFilter_eq, encodable]
  rfl

/-- If its name is free, a filter without an id gets a row of its own, and one with an id is written
over the rows that have it. -/
lemma FilterTable.write_eq_ok_iff {cell : Cell} : t.write f = .ok (t', cell) ↔
    (f.id = .null ∧ t.nameTaken f.name .null = false ∧ t' = t.insert (.fresh f) ∧
      cell = .int (t.lastId + 1)) ∨
    (f.id ≠ .null ∧ Cell.bind (.store <| .filterSave ·) 4 f.id = .ok cell ∧ t.rowsWithId cell ≠ [] ∧
      t.nameTaken f.name cell = false ∧ t' = t.updateRows cell (·.redefined f)) := by
  unfold FilterTable.write
  constructor
  · intro written
    simp only at written
    split at written
    · rename_i new
      split at written
      · cases written
      · rename_i free
        cases written
        exact .inl ⟨new, Bool.eq_false_iff.mpr free, rfl, rfl⟩
    · rename_i old
      split at written
      · cases written
      · rename_i bound
        split at written
        · cases written
        · rename_i there
          split at written
          · cases written
          · rename_i free
            cases written
            exact .inr ⟨old, bound, fun none => there (List.isEmpty_iff.mpr none),
              Bool.eq_false_iff.mpr free, rfl⟩
  · rintro (⟨new, free, rfl, rfl⟩ | ⟨old, bound, there, free, rfl⟩)
    · simp only [new, free]
      rfl
    · simp only [old, bound, free, List.isEmpty_eq_false_iff.mpr there]
      rfl

/-- A filter is written if it can be encoded and its place is free. -/
lemma writeFilter_eq_ok_iff {cell : Cell} : writeFilter (some t) f = .ok (t', cell) ↔
    f.encodable = true ∧
      ((f.id = .null ∧ t.nameTaken f.name .null = false ∧ t' = t.insert (.fresh f) ∧
        cell = .int (t.lastId + 1)) ∨
      (f.id ≠ .null ∧ Cell.bind (.store <| .filterSave ·) 4 f.id = .ok cell ∧
        t.rowsWithId cell ≠ [] ∧ t.nameTaken f.name cell = false ∧
        t' = t.updateRows cell (·.redefined f))) := by
  rw [← FilterTable.write_eq_ok_iff]
  cases encodable : f.encodable with
  | true => simp [writeFilter_of_encodable encodable]
  | false => simp [writeFilter_of_unencodable encodable]

/-! ### Looking for a name -/

/-- A name that can be encoded is looked for among the rows. -/
lemma filterNamed_of_encodable {table : Option FilterTable} {name : String}
    (encodable : Text.encodable name = true) : filterNamed table name =
      (queryFilters table fun t => t.rows.filter (·.name = name)).map List.head? := by
  cases table with
  | none => rfl
  | some t =>
    have found : filterNamed (some t) name = (do
        bindText name
        let found ← queryFilters (some t) fun t => t.rows.filter (·.name = name)
        return found.head?) := rfl
    rw [found, bindText_of_encodable encodable, ok_bind]
    cases queryFilters (some t) fun t => t.rows.filter (·.name = name) <;> rfl

/-- One that cannot is not. -/
lemma filterNamed_of_unencodable {name : String} (unencodable : Text.encodable name = false) :
    filterNamed (some t) name = .error (.value (.unencodable name)) := by
  have found : filterNamed (some t) name = (do
      bindText name
      let found ← queryFilters (some t) fun t => t.rows.filter (·.name = name)
      return found.head?) := rfl
  rw [found, bindText, unencodable]
  rfl

/-- A name that is looked up can be encoded. -/
lemma encodable_of_filterNamed {name : String} {found : Option Filter}
    (answered : filterNamed (some t) name = .ok found) : Text.encodable name = true := by
  cases encodable : Text.encodable name with
  | true => rfl
  | false => cases (filterNamed_of_unencodable encodable).symm.trans answered

end ChatTriage.Store
