import Mathlib.Data.List.Nodup
import Mathlib.Data.List.Pairwise
import ChatTriage.Proofs.Store.Definitions

/-!
# The order of a table of filters

The rows of a table stand by ascending id, none of them above the last id that was given
(`Ordered`), and each has a name of its own (`Named`) that can be encoded (`Legible`). Whatever is
done to a table keeps it so (`Arises`), also when an operator puts in rows that cannot be read.
-/

namespace ChatTriage.Store

variable {r s : FilterRow} {t t' : FilterTable} {f : Filter}

/-- The rows of a table ascend, up to the last id that was given. -/
structure FilterTable.Ordered (t : FilterTable) : Prop where
  ascending : t.rows.Pairwise fun r s => r.id < s.id
  given : ∀ r ∈ t.rows, r.id ≤ t.lastId

/-- A whole number is equal to itself as an id. -/
lemma Cell.isId_int {n id : Int} : (Cell.int n).isId id = true ↔ n = id := by
  simp [isId, numeric]

/-- A cell is equal to one id at most. -/
lemma Cell.isId_eq_of {c : Cell} {n : Int} (own : c.isId n = true) :
    c.isId = (Cell.int n).isId := by
  funext m
  have one : (Cell.int n).isId m = decide (n = m) := rfl
  rw [one]
  unfold isId at own ⊢
  split at own
  · simp only [decide_eq_true_eq] at own
    rw [own]
  · simp only [Double.equalsInt, Bool.and_eq_true, decide_eq_true_eq] at own
    obtain ⟨whole, same⟩ := own
    rw [Double.equalsInt, whole, same, Bool.true_and]
  · cases own

/-- What was put into a statement is the cell for it. -/
lemma Cell.ofJson_of_bind {report : SqlFault → Fault} {position : Nat} {x : Json} {cell : Cell}
    (bound : Cell.bind report position x = .ok cell) : Cell.ofJson x = .ok cell := by
  unfold Cell.bind at bound
  split at bound
  · rename_i same
    cases bound
    exact same
  all_goals cases bound

/-- What an update does to a row leaves its id and its name. -/
lemma FilterRow.assign_keeps {assigned : List Assignment}
    (done : assigned.foldlM FilterRow.assign r = .ok s) : s.id = r.id ∧ s.name = r.name := by
  induction assigned generalizing r with
  | nil =>
    cases done
    exact ⟨rfl, rfl⟩
  | cons a assigned ih =>
    obtain ⟨u, first, rest⟩ := bind_eq_ok_iff.mp done
    obtain ⟨id, name⟩ := ih rest
    rw [id, name]
    unfold assign at first
    split at first
    · cases first
      exact ⟨rfl, rfl⟩
    · cases first
    · cases first
      exact ⟨rfl, rfl⟩

/-- Rows that keep a column one by one keep it all. -/
lemma column_mapM {α : Type} {column : FilterRow → α} {rows rows' : List FilterRow}
    {change : FilterRow → Except Fault FilterRow}
    (same : ∀ r s, change r = .ok s → column s = column r)
    (changed : rows.mapM change = .ok rows') :
    rows'.map column = rows.map column := by
  induction rows generalizing rows' with
  | nil =>
    cases changed
    rfl
  | cons r rows ih =>
    rw [List.mapM_cons] at changed
    obtain ⟨s, first, later⟩ := bind_eq_ok_iff.mp changed
    obtain ⟨others, rest, last⟩ := bind_eq_ok_iff.mp later
    cases last
    rw [List.map_cons, List.map_cons, same r s first, ih rest]

namespace FilterTable.Ordered

/-- Rows with one id are one row. -/
lemma unique (ordered : t.Ordered) (first : r ∈ t.rows) (second : s ∈ t.rows) (same : r.id = s.id) :
    r = s := by
  by_contra differ
  have apart : Std.Symm fun r s : FilterRow => r.id ≠ s.id := ⟨fun r s no => no.symm⟩
  exact (ordered.ascending.imp Int.ne_of_lt).forall first second differ same

/-- The rows of which only one is asked for. -/
lemma filter_eq_singleton {p : FilterRow → Bool} (ordered : t.Ordered) (member : r ∈ t.rows)
    (only : ∀ s ∈ t.rows, p s = true ↔ s = r) : t.rows.filter p = [r] := by
  have once : t.rows.Nodup := ordered.ascending.imp fun less same =>
    Int.ne_of_lt less (congrArg _ same)
  have same : ∀ s ∈ t.rows, p s = (s == r) := fun s among =>
    Bool.eq_iff_iff.mpr ((only s among).trans beq_iff_eq.symm)
  rw [List.filter_congr same, List.filter_beq, List.count_eq_one_of_mem once member]
  rfl

/-- At most one row has the id that a cell is equal to. -/
lemma rowsWithId_eq_nil_or (ordered : t.Ordered) (id : Cell) :
    t.rowsWithId id = [] ∨ ∃ r ∈ t.rows, id.isId = (Cell.int r.id).isId ∧
      t.rowsWithId id = [r] := by
  cases among : t.rowsWithId id with
  | nil => exact .inl rfl
  | cons r rows =>
    have first : r ∈ t.rowsWithId id := among ▸ List.mem_cons_self
    obtain ⟨member, own⟩ := List.mem_filter.mp first
    have is := Cell.isId_eq_of own
    refine .inr ⟨r, member, is, ?_⟩
    rw [← among]
    refine ordered.filter_eq_singleton member fun s other => ?_
    rw [is, Cell.isId_int]
    constructor
    · exact fun same => (ordered.unique member other same).symm
    · rintro rfl
      rfl

/-- The order hangs on the ids alone. -/
lemma of_ids {u : FilterTable} (ordered : t.Ordered) (same : u.rows.map (·.id) = t.rows.map (·.id))
    (last : u.lastId = t.lastId) : u.Ordered := by
  constructor
  · have ascending := List.pairwise_map.mpr ordered.ascending
    rw [← same] at ascending
    exact List.pairwise_map.mp ascending
  · intro r member
    have listed : r.id ∈ t.rows.map (·.id) := same ▸ List.mem_map_of_mem member
    obtain ⟨s, old, alike⟩ := List.mem_map.mp listed
    rw [← alike, last]
    exact ordered.given s old

/-- A table stays in order with a row of the next id. -/
lemma insert {row : Int → FilterRow} (ordered : t.Ordered) (own : ∀ n, (row n).id = n) :
    (t.insert row).Ordered := by
  constructor
  · refine List.pairwise_append.mpr
      ⟨ordered.ascending, List.pairwise_singleton _ _, fun r old s new => ?_⟩
    obtain rfl := List.mem_singleton.mp new
    rw [own]
    exact Int.lt_add_one_of_le (ordered.given r old)
  · intro r member
    obtain old | new := List.mem_append.mp member
    · exact Int.le_trans (ordered.given r old) (Int.le_of_lt (Int.lt_succ t.lastId))
    · obtain rfl := List.mem_singleton.mp new
      exact Int.le_of_eq (own _)

/-- It does when rows are changed in place. -/
lemma updateRows {id : Cell} {change : FilterRow → FilterRow} (ordered : t.Ordered)
    (same : ∀ r, (change r).id = r.id) : (t.updateRows id change).Ordered := by
  refine ordered.of_ids ?_ rfl
  unfold FilterTable.updateRows
  rw [List.map_map]
  refine List.map_congr_left fun r _ => ?_
  rw [Function.comp_apply]
  split
  · exact same r
  · rfl

/-- The row that was changed is the row with its id. -/
lemma rowsWithId_updateRows {change : FilterRow → FilterRow} (ordered : t.Ordered)
    (member : r ∈ t.rows)
    (same : ∀ r, (change r).id = r.id) :
    (t.updateRows (.int r.id) change).rowsWithId (.int r.id) = [change r] := by
  refine (ordered.updateRows same).filter_eq_singleton ?_ fun s among => ?_
  · exact List.mem_map.mpr ⟨r, member, if_pos (Cell.isId_int.mpr rfl)⟩
  · obtain ⟨u, old, rfl⟩ := List.mem_map.mp among
    by_cases own : r.id = u.id
    · obtain rfl := ordered.unique member old own
      simp [Cell.isId_int, same]
    · have other : u ≠ change r := fun is => own ((same r).symm.trans (congrArg _ is.symm))
      simp [Cell.isId_int, own, other]

/-- The row that was put in is the row with its id. -/
lemma rowsWithId_insert {row : Int → FilterRow} (ordered : t.Ordered) (own : ∀ n, (row n).id = n) :
    (t.insert row).rowsWithId (.int (t.lastId + 1)) = [row (t.lastId + 1)] := by
  refine (ordered.insert own).filter_eq_singleton (List.mem_append_right _ List.mem_cons_self)
    fun s among => ?_
  obtain old | new := List.mem_append.mp among
  · have given := ordered.given s old
    have other : s ≠ row (t.lastId + 1) := by
      rintro rfl
      rw [own] at given
      omega
    have differ : t.lastId + 1 ≠ s.id := by omega
    simp [Cell.isId_int, other, differ]
  · obtain rfl := List.mem_singleton.mp new
    simp [Cell.isId_int, own]

/-- It does when a filter is saved. -/
lemma saveFilter {table : Option FilterTable} {result : Except Fault Filter} (ordered : t.Ordered)
    (saved : Store.saveFilter (some t) f = (table, result)) : ∃ u, table = some u ∧ u.Ordered := by
  unfold Store.saveFilter at saved
  split at saved
  · cases saved
    exact ⟨t, rfl, ordered⟩
  · rename_i written
    cases saved
    refine ⟨_, rfl, ?_⟩
    obtain ⟨-, ⟨-, -, rfl, -⟩ | ⟨-, -, -, -, rfl⟩⟩ := writeFilter_eq_ok_iff.mp written
    · exact ordered.insert fun n => rfl
    · exact ordered.updateRows fun r => rfl

/-- It does when columns are updated. -/
lemma updateFilter {id : Json} {changes : List Change} {table : Option FilterTable}
    (ordered : t.Ordered)
    (updated : Store.updateFilter (some t) id changes = .ok table) :
    ∃ u, table = some u ∧ u.Ordered := by
  unfold Store.updateFilter at updated
  split at updated
  · cases updated
  · rename_i none
    cases none
  · rename_i same
    cases same
    split at updated
    · cases updated
      exact ⟨t, rfl, ordered⟩
    · simp only [bind_eq_ok_iff] at updated
      obtain ⟨assigned, -, cell, -, rows, changed, last⟩ := updated
      cases last
      refine ⟨_, rfl, ordered.of_ids (column_mapM (fun r s done => ?_) changed) rfl⟩
      split at done
      · exact (FilterRow.assign_keeps done).1
      · cases done
        rfl

end FilterTable.Ordered

namespace FilterTable

/-- The rows of a table have names of their own. -/
def Named (t : FilterTable) : Prop :=
  t.rows.Pairwise fun r s => r.name ≠ s.name

/-- The name of a row is taken, unless the row is excepted. -/
lemma nameTaken_eq_false_iff {name : String} {except : Cell} :
    t.nameTaken name except = false ↔ ∀ r ∈ t.rows, r.name = name → except.isId r.id = true := by
  simp [nameTaken]

/-- Names stay apart with a new row under a free name. -/
lemma Named.insert {row : Int → FilterRow} (named : t.Named)
    (free : ∀ r ∈ t.rows, r.name ≠ (row (t.lastId + 1)).name) : (t.insert row).Named :=
  List.pairwise_append.mpr
    ⟨named, List.pairwise_singleton _ _, fun r old _ new => List.mem_singleton.mp new ▸ free r old⟩

/-- Rows that are changed in place have names of their own when no two of them come to one name. -/
lemma Named.updateRows {id : Cell} {change : FilterRow → FilterRow} (named : t.Named)
    (ordered : t.Ordered)
    (free : ∀ r ∈ t.rows, id.isId r.id = true → ∀ s ∈ t.rows, s.name = (change r).name →
      s.id = r.id) :
    (t.updateRows id change).Named := by
  refine List.pairwise_map.mpr ((List.Pairwise.and named ordered.ascending).imp_of_mem ?_)
  rintro r s first second ⟨differ, less⟩
  -- one of the two is changed at most, since a cell is equal to one id only
  split
  · rename_i own
    split
    · rename_i also
      rw [Cell.isId_eq_of own, Cell.isId_int] at also
      omega
    · intro named
      have same := free r first own s second named.symm
      omega
  · split
    · rename_i own
      intro named
      have same := free s second own r first named
      omega
    · exact differ

/-- They do when a filter is saved. -/
lemma Named.saveFilter {table : Option FilterTable} {result : Except Fault Filter} (named : t.Named)
    (ordered : t.Ordered) (saved : Store.saveFilter (some t) f = (table, result)) :
    ∃ u, table = some u ∧ u.Named := by
  unfold Store.saveFilter at saved
  split at saved
  · cases saved
    exact ⟨t, rfl, named⟩
  · rename_i written
    cases saved
    refine ⟨_, rfl, ?_⟩
    obtain ⟨-, ⟨-, free, rfl, -⟩ | ⟨-, -, -, free, rfl⟩⟩ := writeFilter_eq_ok_iff.mp written
    · exact named.insert fun r member same =>
        Bool.noConfusion (nameTaken_eq_false_iff.mp free r member same)
    · refine named.updateRows ordered fun r _ own s other same => ?_
      have also := nameTaken_eq_false_iff.mp free s other same
      rw [Cell.isId_eq_of own, Cell.isId_int] at also
      exact also.symm

/-- Updating columns leaves the names of the rows. -/
lemma names_of_updateFilter {id : Json} {changes : List Change} {table : Option FilterTable}
    (updated : Store.updateFilter (some t) id changes = .ok table) :
    ∃ u, table = some u ∧ u.rows.map (·.name) = t.rows.map (·.name) := by
  unfold Store.updateFilter at updated
  split at updated
  · cases updated
  · rename_i none
    cases none
  · rename_i same
    cases same
    split at updated
    · cases updated
      exact ⟨t, rfl, rfl⟩
    · simp only [bind_eq_ok_iff] at updated
      obtain ⟨assigned, -, cell, -, rows, changed, last⟩ := updated
      cases last
      refine ⟨_, rfl, column_mapM (fun r s done => ?_) changed⟩
      split at done
      · exact (FilterRow.assign_keeps done).2
      · cases done
        rfl

/-- They do when columns are updated. -/
lemma Named.updateFilter {id : Json} {changes : List Change} {table : Option FilterTable}
    (named : t.Named) (updated : Store.updateFilter (some t) id changes = .ok table) :
    ∃ u, table = some u ∧ u.Named := by
  obtain ⟨u, same, names⟩ := names_of_updateFilter updated
  exact ⟨u, same, List.pairwise_map.mp (names ▸ List.pairwise_map.mpr named)⟩

end FilterTable

/-! ### Names that can be encoded -/

/-- No digit is a surrogate. -/
lemma mark_notMem_leadingDigits (x : Extended) (n : Nat) :
    Text.surrogateMark ∉ leadingDigits x n := by
  induction n generalizing x with
  | zero => exact List.not_mem_nil
  | succ n ih =>
    exact List.not_mem_cons_of_ne_of_not_mem (Nat.digitChar_ne _ (by decide)).symm (ih _)

/-- No number is written with a surrogate. -/
lemma mark_notMem_writeDecimal (x : Double) : Text.surrogateMark ∉ (writeDecimal x).toList := by
  have plain : Text.surrogateMark ∉ (if x.negative then "-" else "").toList := by split <;> decide
  have digits : Text.surrogateMark ∉ (decimalDigits (.ofDouble x)).1 := by
    unfold decimalDigits
    intro member
    have among := (List.dropWhile_sublist _).subset (List.mem_reverse.mp member)
    exact mark_notMem_leadingDigits _ _ (List.mem_reverse.mp among)
  simp only [writeDecimal]
  generalize (if x.negative then "-" else "") = sign at *
  generalize decimalDigits (.ofDouble x) = decimal at *
  split_ifs
  · decide
  · exact Number.mark_notMem_append plain (by decide)
  · exact Number.mark_notMem_append plain (Number.Layout.mark_notMem_write digits)

/-- What a text column keeps of a cell that was put into a statement can be encoded. -/
lemma Cell.encodable_textual {report : SqlFault → Fault} {position : Nat} {x : Json} {c : Cell}
    {s : String} (bound : Cell.bind report position x = .ok c) (kept : c.textual? = some s) :
    Text.encodable s = true := by
  have plain {s : String} (none : Text.surrogateMark ∉ s.toList) : Text.encodable s = true := by
    simpa [Text.encodable] using none
  cases c with
  | null => cases kept
  | int n =>
    cases kept
    exact plain (Number.mark_notMem_toString n)
  | real x =>
    cases kept
    exact plain (mark_notMem_writeDecimal x)
  | text s =>
    cases kept
    have read := ofJson_of_bind bound
    unfold Cell.ofJson at read
    split at read
    · cases read
    · cases read
    · split at read <;> cases read
    · split at read <;> cases read
    · split at read
      · rename_i encodable
        cases read
        exact encodable
      · cases read
    · cases read

/-- The names of all rows can be encoded. -/
def FilterTable.Legible (t : FilterTable) : Prop :=
  ∀ r ∈ t.rows, Text.encodable r.name = true

namespace FilterTable.Legible

/-- Names stay legible with a new row under one that can be encoded. -/
lemma insert {row : Int → FilterRow} (legible : t.Legible)
    (encodable : ∀ n, Text.encodable (row n).name = true) : (t.insert row).Legible :=
  List.forall_mem_append.mpr ⟨legible, List.forall_mem_singleton.mpr (encodable _)⟩

/-- They do when a filter is written. -/
lemma writeFilter {cell : Cell} (legible : t.Legible)
    (written : Store.writeFilter (some t) f = .ok (t', cell)) : t'.Legible := by
  obtain ⟨encodable, ⟨-, -, rfl, -⟩ | ⟨-, -, -, -, rfl⟩⟩ := writeFilter_eq_ok_iff.mp written
  · exact legible.insert fun _ => Filter.encodable_name encodable
  · intro r member
    obtain ⟨s, old, rfl⟩ := List.mem_map.mp member
    split
    · exact Filter.encodable_name encodable
    · exact legible s old

/-- They do when a filter is saved. -/
lemma saveFilter {table : Option FilterTable} {result : Except Fault Filter} (legible : t.Legible)
    (saved : Store.saveFilter (some t) f = (table, result)) : ∃ u, table = some u ∧ u.Legible := by
  unfold Store.saveFilter at saved
  split at saved
  · cases saved
    exact ⟨t, rfl, legible⟩
  · rename_i written
    cases saved
    exact ⟨_, rfl, legible.writeFilter written⟩

/-- They do when columns are updated. -/
lemma updateFilter {id : Json} {changes : List Change} {table : Option FilterTable}
    (legible : t.Legible) (updated : Store.updateFilter (some t) id changes = .ok table) :
    ∃ u, table = some u ∧ u.Legible := by
  obtain ⟨u, same, names⟩ := FilterTable.names_of_updateFilter updated
  have among : ∀ name ∈ t.rows.map (·.name), Text.encodable name = true :=
    List.forall_mem_map.mpr legible
  refine ⟨u, same, fun r member => among _ (names ▸ List.mem_map_of_mem member)⟩

end FilterTable.Legible

/-- A row that is put in gets an id of its own, and its name was free and can be encoded. -/
lemma insertFilterRow_eq_ok {name enabled matched lastMatch document : Json}
    (inserted : insertFilterRow (some t) name enabled matched lastMatch document = .ok t') :
    ∃ row : Int → FilterRow, t' = t.insert row ∧ (∀ n, (row n).id = n) ∧
      (∀ n, t.nameTaken (row n).name .null = false) ∧ ∀ n, Text.encodable (row n).name = true := by
  have throws {α β : Type} (e : Fault) (next : α → Except Fault β) :
      ((throw e : Except Fault α) >>= next) = .error e := rfl
  unfold insertFilterRow at inserted
  simp only [bind_eq_ok_iff] at inserted
  obtain ⟨cell, bound, _, -, _, -, _, -, _, -, text, kept, _, -, inserted⟩ := inserted
  have encodable : Text.encodable text = true := by
    unfold needed at kept
    split at kept
    · rename_i same
      cases kept
      exact Cell.encodable_textual bound same
    · cases kept
  simp only [throws] at inserted
  -- a column that is needed is null, or the name is taken
  iterate 2
    split at inserted
    · cases inserted
  split at inserted
  · cases inserted
  · rename_i free
    cases inserted
    exact ⟨_, rfl, fun n => rfl, fun n => Bool.eq_false_iff.mpr free, fun n => encodable⟩

namespace FilterTable

/-- The tables that come about: filters are saved, their columns are updated, and rows of any
content are put in. -/
inductive Arises : FilterTable → Prop where
  | empty :
    Arises {}
  | saved {t u f result} :
    Arises t →
    saveFilter (some t) f = (some u, result) →
    Arises u
  | updated {t u id changes} :
    Arises t →
    updateFilter (some t) id changes = .ok (some u) →
    Arises u
  | inserted {t u name enabled matched lastMatch document} :
    Arises t →
    insertFilterRow (some t) name enabled matched lastMatch document = .ok u →
    Arises u

/-- A table that arises is in order. -/
lemma Arises.ordered (arises : t.Arises) : t.Ordered := by
  induction arises with
  | empty => exact ⟨.nil, fun r member => absurd member List.not_mem_nil⟩
  | saved _ saved ih =>
    obtain ⟨u, same, ordered⟩ := ih.saveFilter saved
    cases same
    exact ordered
  | updated _ updated ih =>
    obtain ⟨u, same, ordered⟩ := ih.updateFilter updated
    cases same
    exact ordered
  | inserted _ inserted ih =>
    obtain ⟨row, rfl, own, -⟩ := insertFilterRow_eq_ok inserted
    exact ih.insert own

/-- Its names are apart. -/
lemma Arises.named (arises : t.Arises) : t.Named := by
  induction arises with
  | empty => exact .nil
  | saved before saved ih =>
    obtain ⟨u, same, named⟩ := ih.saveFilter before.ordered saved
    cases same
    exact named
  | updated _ updated ih =>
    obtain ⟨u, same, named⟩ := ih.updateFilter updated
    cases same
    exact named
  | inserted _ inserted ih =>
    obtain ⟨row, rfl, -, free, -⟩ := insertFilterRow_eq_ok inserted
    exact ih.insert fun r member same =>
      Bool.noConfusion (nameTaken_eq_false_iff.mp (free _) r member same)

/-- Its names can be encoded. -/
lemma Arises.legible (arises : t.Arises) : t.Legible := by
  induction arises with
  | empty => exact fun r member => absurd member List.not_mem_nil
  | saved _ saved ih =>
    obtain ⟨u, same, legible⟩ := ih.saveFilter saved
    cases same
    exact legible
  | updated _ updated ih =>
    obtain ⟨u, same, legible⟩ := ih.updateFilter updated
    cases same
    exact legible
  | inserted _ inserted ih =>
    obtain ⟨row, rfl, -, -, encodable⟩ := insertFilterRow_eq_ok inserted
    exact ih.insert encodable

end FilterTable

end ChatTriage.Store
