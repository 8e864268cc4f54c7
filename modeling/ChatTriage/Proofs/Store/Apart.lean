import ChatTriage.Proofs.Store.Tended

/-!
# Definitions and stats stay apart

Saving a filter over its row and storing stats write different columns of the table, whatever else
stands in the copy that they were made from. However such calls are mixed, each row ends with the
last definition and the last stats that were written for its id (`FilterRow.Follows`), and two calls
of different kinds that follow one another can change places.
-/

namespace ChatTriage.Store

variable {r s : FilterRow} {t u : FilterTable} {f : Filter} {stats : FilterStats} {id : Json}
  {w : FilterWrite} {writes done : List FilterWrite}

namespace FilterWrite

/-- A call that saves a filter over a row, or one that stores stats. -/
inductive OneSided : FilterWrite → Prop where
  | definition {f : Filter} :
    f.Regular →
    f.id ≠ .null →
    OneSided (.save f)
  | stats {id : Json} {stats : FilterStats} :
    OneSided (.update id [.ofStats stats])

/-- The call saves a filter. -/
def isSave : FilterWrite → Bool
  | .save _ => true
  | .update _ _ => false

/-- The definition that a call writes for an id. -/
def definitionFor (n : Int) : FilterWrite → Option Filter
  | .save f => if denotes f.id n then some f else none
  | .update _ _ => none

/-- The stats that a call writes for an id. -/
def statsFor (n : Int) : FilterWrite → Option FilterStats
  | .update id [.stats (.int matched) lastMatch] =>
      if denotes id n then some ⟨matched, lastMatch⟩ else none
  | _ => none

end FilterWrite

/-- The calls that do not fail when calls are made one after the other. -/
def successful (table : Option FilterTable) : List FilterWrite → List FilterWrite
  | [] => []
  | w :: writes =>
    match w.apply table with
    | (table, .ok ()) => w :: successful table writes
    | (table, .error _) => successful table writes

/-- The definition that is written last for an id. -/
def lastDefinition (n : Int) (done : List FilterWrite) : Option Filter :=
  (done.filterMap (·.definitionFor n)).getLast?

/-- The stats that are written last for an id. -/
def lastStats (n : Int) (done : List FilterWrite) : Option FilterStats :=
  (done.filterMap (·.statsFor n)).getLast?

/-- A row as it is after calls: it has the stats and the definition that were written last for its
id, and those that it had if none were. -/
structure FilterRow.Follows (r : FilterRow) (done : List FilterWrite) (s : FilterRow) : Prop where
  id : s.id = r.id
  stats : (s.matched, s.lastMatch) = match lastStats r.id done with
    | some stats => (.int stats.matched, .ofDate stats.lastMatch)
    | none => (r.matched, r.lastMatch)
  definition : (s.name, s.enabled, s.document) = match lastDefinition r.id done with
    | some f => (f.name, .ofBool f.enabled, .written (.obj f.definition))
    | none => (r.name, r.enabled, r.document)

namespace FilterRow

/-- A row after a call. -/
def after (r : FilterRow) (w : FilterWrite) : FilterRow :=
  let s := (w.statsFor r.id).elim r r.counted
  (w.definitionFor r.id).elim s s.redefined

/-- A call keeps the id of a row. -/
lemma id_after (r : FilterRow) (w : FilterWrite) : (r.after w).id = r.id := by
  unfold after
  cases w.statsFor r.id <;> cases w.definitionFor r.id <;> rfl

/-- A row follows itself when nothing is called. -/
lemma Follows.refl (r : FilterRow) : r.Follows [] r :=
  ⟨rfl, rfl, rfl⟩

/-- What is last comes from the last call, or from those before it. -/
lemma getLast?_filterMap_concat {α : Type} (g : FilterWrite → Option α) (done : List FilterWrite)
    (w : FilterWrite) :
    ((done ++ [w]).filterMap g).getLast? = (g w).or (done.filterMap g).getLast? := by
  rw [List.filterMap_append, List.getLast?_append]
  cases given : g w <;> simp [given]

/-- A row that follows calls follows the next one, too. -/
lemma Follows.after (follows : r.Follows done s) (w : FilterWrite) :
    r.Follows (done ++ [w]) (s.after w) := by
  obtain ⟨id, stats, definition⟩ := follows
  refine ⟨(s.id_after w).trans id, ?_, ?_⟩
  · rw [lastStats, getLast?_filterMap_concat, FilterRow.after, id]
    cases w.statsFor r.id with
    | some new => cases w.definitionFor r.id <;> rfl
    | none => cases w.definitionFor r.id <;> exact stats
  · rw [lastDefinition, getLast?_filterMap_concat, FilterRow.after, id]
    cases w.definitionFor r.id with
    | some new => cases w.statsFor r.id <;> rfl
    | none => cases w.statsFor r.id <;> exact definition

/-- A row follows the calls that are made on it one after the other. -/
lemma follows_foldl (r : FilterRow) (done : List FilterWrite) :
    r.Follows done (done.foldl after r) := by
  induction done using List.reverseRecOn with
  | nil => exact .refl r
  | append_singleton done w ih =>
    rw [List.foldl_append]
    exact ih.after w

/-- A row is loaded as the definition that was written last for it, with its own id and stats. -/
lemma Follows.load (follows : r.Follows done s) (last : lastDefinition r.id done = some f)
    (regular : f.Regular) :
    s.load = s.stats.map fun stats => { f with id := .int r.id, stats } := by
  have definition := follows.definition
  simp only [last, Prod.mk.injEq] at definition
  obtain ⟨name, enabled, document⟩ := definition
  have same : s.redefined f = s := by
    rw [redefined, ← name, ← enabled, ← document]
  rw [← same, load_redefined_eq regular, same, follows.id]

/-- A save redefines the row with its id. -/
lemma after_save (r : FilterRow) (f : Filter) :
    r.after (.save f) = if denotes f.id r.id then r.redefined f else r := by
  have given : FilterWrite.definitionFor r.id (.save f) =
    if denotes f.id r.id then some f else none := rfl
  unfold after
  rw [given]
  split <;> rfl

/-- Storing stats counts in the row with their id. -/
lemma after_update (r : FilterRow) (id : Json) (stats : FilterStats) :
    r.after (.update id [.ofStats stats]) = if denotes id r.id then r.counted stats else r := by
  have given : FilterWrite.statsFor r.id (.update id [.ofStats stats]) =
      if denotes id r.id then some stats else none := rfl
  unfold after
  rw [given]
  split <;> rfl

end FilterRow

namespace FilterTable

/-- A table in order whose stats can all be read. -/
structure Tallied (t : FilterTable) : Prop where
  ordered : t.Ordered
  stats : ∀ r ∈ t.rows, ∃ stats, r.stats = .ok stats

/-- Changed rows stay tallied when their stats can be read. -/
lemma Tallied.updateRows {cell : Cell} {change : FilterRow → FilterRow} (tallied : t.Tallied)
    (same : ∀ r, (change r).id = r.id)
    (counted : ∀ r, (∃ stats, r.stats = .ok stats) → ∃ stats, (change r).stats = .ok stats) :
    (t.updateRows cell change).Tallied := by
  refine ⟨tallied.ordered.updateRows same, fun r member => ?_⟩
  obtain ⟨s, old, rfl⟩ := List.mem_map.mp member
  split
  · exact counted s (tallied.stats s old)
  · exact tallied.stats s old

/-- Storing stats fails whatever the table, or changes the rows that they are for. -/
lemma apply_stats (id : Json) (stats : FilterStats) :
    (∃ e, ∀ t, FilterWrite.apply (some t) (.update id [.ofStats stats]) = (some t, .error e)) ∨
    ∃ cell, Cell.ofJson id = .ok cell ∧
      ∀ t, FilterWrite.apply (some t) (.update id [.ofStats stats]) =
        (some (t.count cell stats), .ok ()) := by
  unfold FilterWrite.apply
  simp only [updateFilter_ofStats]
  cases Cell.bind filterUpdateFault 1 (.int stats.matched) with
  | error e => exact .inl ⟨e, fun _ => rfl⟩
  | ok _ =>
    cases bound : Cell.bind filterUpdateFault 3 id with
    | error e => exact .inl ⟨e, fun _ => rfl⟩
    | ok cell => exact .inr ⟨cell, Cell.ofJson_of_bind bound, fun _ => rfl⟩

/-- A call on a tallied table fails and leaves it as it is, or changes the rows that it is for. -/
lemma Tallied.apply (tallied : t.Tallied) (oneSided : w.OneSided) :
    (∃ e, w.apply (some t) = (some t, .error e)) ∨
    ∃ u, w.apply (some t) = (some u, .ok ()) ∧ u.rows = t.rows.map (·.after w) ∧ u.Tallied := by
  cases oneSided with
  | @definition f regular old =>
    cases written : Store.writeFilter (some t) f with
    | error e => exact .inl ⟨e, by simp [FilterWrite.apply, saveFilter, written, Except.map]⟩
    | ok x =>
      obtain ⟨u, id⟩ := x
      obtain ⟨-, ⟨new, -⟩ | ⟨-, bound, there, -, rfl⟩⟩ := writeFilter_eq_ok_iff.mp written
      · exact absurd new old
      obtain none | ⟨r, member, is, -⟩ := tallied.ordered.rowsWithId_eq_nil_or id
      · exact absurd none there
      obtain ⟨stats, counted⟩ := tallied.stats r member
      have read := tallied.ordered.readBack_redefined regular member is counted
      have applied : (FilterWrite.save f).apply (some t) =
          (some (t.updateRows id (·.redefined f)), .ok ()) := by
        simp [FilterWrite.apply, saveFilter, written, read, Except.map]
      refine .inr ⟨_, applied, ?_, tallied.updateRows (fun r => rfl) fun r counted => counted⟩
      simp only [FilterRow.after_save, denotes_of_ofJson (Cell.ofJson_of_bind bound)]
      rfl
  | @stats id stats =>
    obtain ⟨e, failed⟩ | ⟨cell, read, applied⟩ := apply_stats id stats
    · exact .inl ⟨e, failed t⟩
    refine .inr ⟨_, applied t, ?_, tallied.updateRows (fun r => rfl) fun r _ => ?_⟩
    · simp only [FilterRow.after_update, denotes_of_ofJson read]
      rfl
    · obtain ⟨date, dated⟩ := Cell.exists_ofJson_ofDate stats.lastMatch
      exact ⟨⟨stats.matched, date⟩, by unfold FilterRow.stats FilterRow.counted; rw [dated]; rfl⟩

/-- A run of calls makes the successful ones, in every row. -/
lemma Tallied.writeAll (tallied : t.Tallied) (oneSided : ∀ w ∈ writes, w.OneSided) :
    ∃ u, Store.writeAll (some t) writes = some u ∧
      u.rows = t.rows.map fun r => (successful (some t) writes).foldl FilterRow.after r := by
  induction writes generalizing t with
  | nil => exact ⟨t, rfl, (List.map_id _).symm⟩
  | cons w writes ih =>
    obtain ⟨first, rest⟩ := List.forall_mem_cons.mp oneSided
    have run : Store.writeAll (some t) (w :: writes) =
      Store.writeAll (w.apply (some t)).1 writes := rfl
    obtain ⟨e, applied⟩ | ⟨u, applied, rows, later⟩ := tallied.apply first
    -- a call that fails is not among the successful ones, and has left the table as it was
    · obtain ⟨v, done, same⟩ := ih tallied rest
      rw [run]
      simp only [successful, applied]
      exact ⟨v, done, same⟩
    · obtain ⟨v, done, same⟩ := ih later rest
      rw [run]
      simp only [successful, applied]
      refine ⟨v, done, ?_⟩
      rw [same, rows, List.map_map]
      rfl

/-- Whether a name is taken does not depend on stats. -/
lemma nameTaken_count {cell except : Cell} {name : String} :
    (t.count cell stats).nameTaken name except = t.nameTaken name except := by
  unfold nameTaken count FilterTable.updateRows
  rw [List.any_map]
  refine congrArg (List.any t.rows) (funext fun r => ?_)
  rw [Function.comp_apply]
  split <;> rfl

/-- Counting takes no row away. -/
lemma isEmpty_rowsWithId_count {cell id : Cell} :
    ((t.count cell stats).rowsWithId id).isEmpty = (t.rowsWithId id).isEmpty := by
  have blind :
    (id.isId ·.id) ∘ (fun r : FilterRow => if cell.isId r.id then r.counted stats else r) =
      (id.isId ·.id) := by
    funext r
    rw [Function.comp_apply]
    split <;> rfl
  unfold rowsWithId count FilterTable.updateRows
  rw [List.filter_map, List.isEmpty_map, blind]

end FilterTable

/-- A row is redefined apart from its stats. -/
lemma FilterTable.write_count {cell : Cell} (old : f.id ≠ .null) :
    (t.count cell stats).write f =
      (t.write f).map fun x => (x.1.count cell stats, x.2) := by
  unfold FilterTable.write
  simp only [if_neg old, FilterTable.nameTaken_count, FilterTable.isEmpty_rowsWithId_count]
  cases Cell.bind (.store <| .filterSave ·) 4 f.id with
  | error e => rfl
  | ok id =>
    simp only
    split
    · rfl
    split
    · rfl
    -- in a row that both are for, the one changes columns that the other leaves alone
    refine congrArg (fun rows => Except.ok ((⟨rows, t.lastId⟩ : FilterTable), id)) ?_
    simp only [FilterTable.count, FilterTable.updateRows, List.map_map]
    refine List.map_congr_left fun r _ => ?_
    by_cases own : id.isId r.id = true <;> by_cases also : cell.isId r.id = true <;>
      simp [own, also, FilterRow.counted]

/-- Writing a definition over a row goes together with storing stats. -/
lemma writeFilter_count {cell : Cell} (old : f.id ≠ .null) :
    writeFilter (some (t.count cell stats)) f =
      (writeFilter (some t) f).map fun x => (x.1.count cell stats, x.2) := by
  cases encodable : f.encodable with
  | true =>
    rw [writeFilter_of_encodable encodable, writeFilter_of_encodable encodable,
      FilterTable.write_count old]
  | false =>
    rw [writeFilter_of_unencodable encodable, writeFilter_of_unencodable encodable]
    rfl

/-- A save leaves the table that it writes, or the old one. -/
lemma fst_apply_save : ((FilterWrite.save f).apply (some t)).1 =
    match writeFilter (some t) f with
    | .ok x => some x.1
    | .error _ => some t := by
  show (saveFilter (some t) f).1 = _
  unfold saveFilter
  cases writeFilter (some t) f <;> rfl

/-- Saving a filter over a row and storing stats can change places. -/
lemma apply_swap {table : Option FilterTable} (old : f.id ≠ .null) :
    ((FilterWrite.update id [.ofStats stats]).apply ((FilterWrite.save f).apply table).1).1 =
      ((FilterWrite.save f).apply ((FilterWrite.update id [.ofStats stats]).apply table).1).1 := by
  cases table with
  | none => rfl
  | some t =>
    obtain ⟨e, failed⟩ | ⟨cell, -, counted⟩ := FilterTable.apply_stats id stats
    · rw [failed, fst_apply_save]
      cases writeFilter (some t) f <;> simp only [failed]
    · rw [counted, fst_apply_save, fst_apply_save, writeFilter_count old]
      cases writeFilter (some t) f <;> simp only [counted, Except.map]

/-- Two calls of different kinds can change places in a run. -/
lemma writeAll_swap {table : Option FilterTable} {before after : List FilterWrite}
    {a b : FilterWrite}
    (first : a.OneSided) (second : b.OneSided) (differ : a.isSave ≠ b.isSave) :
    writeAll table (before ++ b :: a :: after) = writeAll table (before ++ a :: b :: after) := by
  have swap (table : Option FilterTable) : (a.apply (b.apply table).1).1 =
      (b.apply (a.apply table).1).1 := by
    cases first with
    | definition _ old =>
      cases second with
      | definition => exact absurd rfl differ
      | stats => exact (apply_swap old).symm
    | stats =>
      cases second with
      | definition _ old => exact apply_swap old
      | stats => exact absurd rfl differ
  simp only [writeAll, List.foldl_append, List.foldl_cons, swap]

/-- Calls that succeed were made. -/
lemma mem_of_mem_successful {table : Option FilterTable} (member : w ∈ successful table writes) :
    w ∈ writes := by
  induction writes generalizing table with
  | nil => cases member
  | cons a writes ih =>
    simp only [successful] at member
    split at member
    · obtain rfl | later := List.mem_cons.mp member
      · exact List.mem_cons_self
      · exact List.mem_cons_of_mem a (ih later)
    · exact List.mem_cons_of_mem a (ih member)

/-- A definition that is written last is that of a call. -/
lemma mem_of_lastDefinition {n : Int} (last : lastDefinition n done = some f) : .save f ∈ done := by
  obtain ⟨w, member, given⟩ := List.mem_filterMap.mp (List.mem_of_getLast? last)
  cases w with
  | save g =>
    simp only [FilterWrite.definitionFor] at given
    split at given <;> cases given
    exact member
  | update => cases given

/-- Definitions and stats never overwrite each other. However filters that are saved over rows and
stats that are stored are mixed in a run, each row has at its end the stats that were written last
for its id and the definition that was written last for it, of the calls that went through, and is
loaded as the two together. Two calls of different kinds that follow one another can change places
without changing the table at the end. -/
theorem definitions_and_stats_stay_apart (ordered : t.Ordered)
    (counted : ∀ r ∈ t.rows, ∃ stats, r.stats = .ok stats) (oneSided : ∀ w ∈ writes, w.OneSided) :
    (∃ u, writeAll (some t) writes = some u ∧
      List.Forall₂ (fun r s : FilterRow => r.Follows (successful (some t) writes) s ∧
        ∀ f, lastDefinition r.id (successful (some t) writes) = some f →
          s.load = s.stats.map fun stats => { f with id := .int r.id, stats }) t.rows u.rows) ∧
    ∀ before a b after, writes = before ++ a :: b :: after → a.isSave ≠ b.isSave →
      writeAll (some t) (before ++ b :: a :: after) = writeAll (some t) writes := by
  constructor
  · obtain ⟨u, done, rows⟩ := FilterTable.Tallied.writeAll ⟨ordered, counted⟩ oneSided
    refine ⟨u, done, ?_⟩
    rw [rows, List.forall₂_map_right_iff]
    refine List.forall₂_same.mpr fun r _ => ⟨r.follows_foldl _, fun f last => ?_⟩
    have saved := oneSided _ (mem_of_mem_successful (mem_of_lastDefinition last))
    cases saved with
    | definition regular => exact (r.follows_foldl _).load last regular
  · rintro before a b after rfl differ
    refine writeAll_swap (oneSided a ?_) (oneSided b ?_) differ <;> simp

namespace Sample

/-- Stats of the first filter. -/
def counting : FilterWrite :=
  .update (.int 1) [.ofStats ⟨5, none⟩]

/-- A new definition of the first filter, from a copy without matches. -/
def saving : FilterWrite :=
  .save (work (.int 1))

/-- What comes after them: a filter is saved under the name of another one, and stats are stored. -/
def following : List FilterWrite :=
  [.save (work (.int 2)), .update (.int 2) [.ofStats ⟨7, some elevenOClock⟩]]

end Sample

open Sample in
/-- In a run in which one of the calls is refused, the first filter ends with its new definition and
its new stats, whichever of the two is written first. -/
theorem definitions_and_stats_stay_apart_in_mixed_run :
    twoRows.Ordered ∧ (∀ r ∈ twoRows.rows, ∃ stats, r.stats = .ok stats) ∧
    (∀ w ∈ counting :: saving :: following, w.OneSided) ∧
    (∃ u s, writeAll (some twoRows) (counting :: saving :: following) = some u ∧ s ∈ u.rows ∧
      s.load = .ok { work (.int 1) with stats := ⟨5, none⟩ }) ∧
    writeAll (some twoRows) (saving :: counting :: following) =
      writeAll (some twoRows) (counting :: saving :: following) := by
  have known : Filter.ofJson (defining (.int 1)) = .ok (work (.int 1)) := by decide +kernel
  have other : Filter.ofJson (defining (.int 2)) = .ok (work (.int 2)) := by decide +kernel
  have ordered : twoRows.Ordered := ⟨by decide, by decide⟩
  have counted : ∀ r ∈ twoRows.rows, ∃ stats, r.stats = .ok stats :=
    List.forall_mem_cons.mpr ⟨⟨⟨3, none⟩, rfl⟩, List.forall_mem_singleton.mpr ⟨⟨0, none⟩, rfl⟩⟩
  have oneSided : ∀ w ∈ counting :: saving :: following, w.OneSided := by
    simp only [counting, saving, following, List.forall_mem_cons]
    exact ⟨.stats, .definition (Filter.regular_of_ofJson known) (by decide),
      .definition (Filter.regular_of_ofJson other) (by decide), .stats, fun _ none =>
        absurd none List.not_mem_nil⟩
  obtain ⟨⟨u, done, rows⟩, swaps⟩ := definitions_and_stats_stay_apart ordered counted oneSided
  have definition : lastDefinition 1 (successful (some twoRows) (counting :: saving :: following)) =
      some (work (.int 1)) := by decide +kernel
  have stats : lastStats 1 (successful (some twoRows) (counting :: saving :: following)) =
      some ⟨5, none⟩ := by
    decide +kernel
  obtain ⟨s, others, ⟨follows, loads⟩, -, found⟩ := List.forall₂_cons_left_iff.mp rows
  have columns : (s.matched, s.lastMatch) = (.int 5, .null) := by
    rw [follows.stats]
    simp only [stats]
    rfl
  obtain ⟨matched, lastMatch⟩ := Prod.mk.inj columns
  have read : s.stats = .ok ⟨5, none⟩ := by
    unfold FilterRow.stats
    rw [matched, lastMatch]
    rfl
  refine ⟨ordered, counted, oneSided, ⟨u, s, done, by simp [found], ?_⟩,
    swaps [] _ _ _ rfl (by decide)⟩
  rw [loads _ definition, read]
  rfl

end ChatTriage.Store
