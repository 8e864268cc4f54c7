import ChatTriage.Proofs.Command.Field
import ChatTriage.Proofs.Store.Saved
import ChatTriage.Proofs.Store.Undated

/-!
# Editing the filter with a name

A table is `Whole` when its rows can all be read, stand by ascending id and have names of their own.
To store the edited filter of a row is to edit the table row by row (`FilterTable.edited`): the row
with the name is loaded, given the new value and written back, and every other row stays. Edits of
different filters, or of different fields of one filter, commute.
-/

namespace ChatTriage.Store

open Command (Update)

variable {r s : FilterRow} {t : FilterTable} {f : Filter} {name name' : String} {u v : Update}

/-- The row with an update of its filter, if it is the row with the name. -/
def FilterRow.edited (name : String) (u : Update) (r : FilterRow) : FilterRow :=
  if r.name = name then
    match r.load with
    | .ok f => r.redefined (u.apply f)
    | .error _ => r
  else r

/-- The table with an update of the filter with a name. -/
def FilterTable.edited (t : FilterTable) (name : String) (u : Update) : FilterTable :=
  { t with rows := t.rows.map (·.edited name u) }

/-- Why the edited filter of a row is not written over it: it cannot be encoded, or the id of the
row does not fit a column. -/
def FilterRow.refusal? (u : Update) (r : FilterRow) : Option Fault :=
  match r.load with
  | .error _ => none
  | .ok f =>
    if (u.apply f).encodable then
      if fits r.id then none else some (.range .storedInteger)
    else some (.value (.unencodable (u.apply f).refusedText))

/-- A table whose rows can all be read, ascend by their ids and have names of their own. -/
structure FilterTable.Whole (t : FilterTable) : Prop where
  ordered : t.Ordered
  named : t.Named
  loads : t.Loads

/-- A table that arises and loads is whole. -/
lemma FilterTable.Arises.whole (arises : t.Arises) (loads : t.Loads) : t.Whole :=
  ⟨arises.ordered, arises.named, loads⟩

namespace FilterRow

/-- An edit is refused if its filter cannot be encoded or its id does not fit. -/
lemma refusal?_of_load (loaded : r.load = .ok f) : r.refusal? u =
    if (u.apply f).encodable then
      if fits r.id then none else some (.range .storedInteger)
    else some (.value (.unencodable (u.apply f).refusedText)) := by
  rw [refusal?, loaded]

/-- A row with another name is not edited. -/
lemma edited_of_ne (differ : r.name ≠ name) : r.edited name u = r :=
  if_neg differ

/-- The row with the name is redefined. -/
lemma edited_of_load (own : r.name = name) (loaded : r.load = .ok f) :
    r.edited name u = r.redefined (u.apply f) := by
  rw [edited, if_pos own, loaded]

/-- A filter has the name of its row, trimmed. -/
lemma trim_of_load (loaded : r.load = .ok f) : Text.trim r.name = f.name :=
  (load_eq_ok_iff_defines.mp loaded).columns.2.1.symm

/-- A filter has a trimmed name as its row does. -/
lemma name_of_load (loaded : r.load = .ok f) (trimmed : Text.trim r.name = r.name) :
    f.name = r.name :=
  (trim_of_load loaded).symm.trans trimmed

/-- A filter has the id of its row. -/
lemma id_of_load (loaded : r.load = .ok f) : f.id = .int r.id :=
  (load_eq_ok_iff_defines.mp loaded).columns.1

/-- An edited row is loaded as the edited filter. -/
lemma load_redefined_apply (loaded : r.load = .ok f) (u : Update) :
    (r.redefined (u.apply f)).load = .ok (u.apply f) := by
  have alike := u.alike_apply f
  rw [load_redefined_eq ((regular_of_load loaded).apply u), stats_of_load loaded,
    ← id_of_load loaded, ← alike.id, ← alike.stats]
  rfl

/-- An edit keeps a trimmed name. -/
lemma name_redefined_apply (loaded : r.load = .ok f) (trimmed : Text.trim r.name = r.name)
    (u : Update) :
    (r.redefined (u.apply f)).name = r.name :=
  (u.alike_apply f).name.trans (name_of_load loaded trimmed)

/-- An edit keeps the id of a row, the name of one that can be read, and its stats. -/
lemma edited_keeps (loads : ∃ f, r.load = .ok f) (trimmed : Text.trim name = name) (u : Update) :
    (r.edited name u).id = r.id ∧ (r.edited name u).name = r.name ∧
      (r.edited name u).matched = r.matched ∧ (r.edited name u).lastMatch = r.lastMatch := by
  obtain ⟨f, loaded⟩ := loads
  by_cases own : r.name = name
  · rw [edited_of_load own loaded]
    subst own
    exact ⟨rfl, name_redefined_apply loaded trimmed u, rfl, rfl⟩
  · rw [edited_of_ne own]
    exact ⟨rfl, rfl, rfl, rfl⟩

/-- An edited row can be read. -/
lemma load_edited (loads : ∃ f, r.load = .ok f) : ∃ f, (r.edited name u).load = .ok f := by
  obtain ⟨f, loaded⟩ := loads
  by_cases own : r.name = name
  · rw [edited_of_load own loaded]
    exact ⟨_, load_redefined_apply loaded u⟩
  · rw [edited_of_ne own]
    exact ⟨f, loaded⟩

/-- A second edit of a row starts from what the first one left. -/
lemma edited_edited (loaded : r.load = .ok f) (trimmed : Text.trim r.name = r.name) :
    (r.edited r.name u).edited r.name v = r.redefined (v.apply (u.apply f)) := by
  rw [edited_of_load rfl loaded,
    edited_of_load (name_redefined_apply loaded trimmed u) (load_redefined_apply loaded u)]
  rfl

/-- Edits of a row that are for different filters or different fields commute. -/
lemma edited_comm (loads : ∃ f, r.load = .ok f) (trimmed : Text.trim name = name)
    (trimmed' : Text.trim name' = name') (apart : name ≠ name' ∨ u.field ≠ v.field) :
    (r.edited name u).edited name' v = (r.edited name' v).edited name u := by
  have keeps := (edited_keeps loads trimmed u).2.1
  have keeps' := (edited_keeps loads trimmed' v).2.1
  by_cases own : r.name = name
  · by_cases own' : r.name = name'
    · obtain ⟨f, loaded⟩ := loads
      have differ : u.field ≠ v.field := apart.resolve_left fun no => no (own.symm.trans own')
      subst own
      subst own'
      rw [edited_edited loaded trimmed, edited_edited loaded trimmed, Update.apply_comm differ]
    · rw [edited_of_ne (u := v) own', edited_of_ne fun same => own' (keeps.symm.trans same)]
  · rw [edited_of_ne (u := u) own, edited_of_ne fun same => own (keeps'.symm.trans same)]

/-- Of two edits of one field of a row the last one counts. -/
lemma edited_last (loads : ∃ f, r.load = .ok f) (trimmed : Text.trim name = name)
    (same : u.field = v.field) : (r.edited name u).edited name v = r.edited name v := by
  by_cases own : r.name = name
  · obtain ⟨f, loaded⟩ := loads
    subst own
    rw [edited_edited loaded trimmed, edited_of_load rfl loaded, Update.apply_apply same]
  · rw [edited_of_ne (u := u) own]

end FilterRow

namespace FilterTable

/-- Edits of different filters, or of different fields of one filter, commute. -/
lemma edited_comm (loads : t.Loads) (trimmed : Text.trim name = name)
    (trimmed' : Text.trim name' = name')
    (apart : name ≠ name' ∨ u.field ≠ v.field) :
    (t.edited name u).edited name' v = (t.edited name' v).edited name u := by
  unfold edited
  simp only [List.map_map, mk.injEq, and_true]
  exact List.map_congr_left fun r member =>
    FilterRow.edited_comm (loads r member) trimmed trimmed' apart

/-- Of two edits of one field of a filter the last one counts. -/
lemma edited_last (loads : t.Loads) (trimmed : Text.trim name = name) (same : u.field = v.field) :
    (t.edited name u).edited name v = t.edited name v := by
  unfold edited
  simp only [List.map_map, mk.injEq, and_true]
  exact List.map_congr_left fun r member => FilterRow.edited_last (loads r member) trimmed same

namespace Whole

/-- An edit leaves a table whole. -/
lemma edited (whole : t.Whole) (trimmed : Text.trim name = name) (u : Update) :
    (t.edited name u).Whole := by
  have keeps (r : FilterRow) (member : r ∈ t.rows) :=
    FilterRow.edited_keeps (whole.loads r member) trimmed u
  refine ⟨whole.ordered.of_ids ?_ rfl, ?_, fun r member => ?_⟩
  · unfold FilterTable.edited
    rw [List.map_map]
    exact List.map_congr_left fun r member => (keeps r member).1
  · refine List.pairwise_map.mpr (whole.named.imp_of_mem fun first second differ => ?_)
    rwa [(keeps _ first).2.1, (keeps _ second).2.1]
  · obtain ⟨s, old, rfl⟩ := List.mem_map.mp member
    exact FilterRow.load_edited (whole.loads s old)

/-- Rows with one name are one row. -/
lemma unique (whole : t.Whole) (first : r ∈ t.rows) (second : s ∈ t.rows) (same : r.name = s.name) :
    r = s := by
  by_contra differ
  have apart : Std.Symm fun r s : FilterRow => r.name ≠ s.name := ⟨fun r s no => no.symm⟩
  exact whole.named.forall first second differ same

/-- The filter with a name is what the row with the name is loaded as. -/
lemma filterNamed_of_mem (whole : t.Whole) (member : r ∈ t.rows)
    (encodable : Text.encodable r.name = true) (loaded : r.load = .ok f) :
    filterNamed (some t) r.name = .ok (some f) := by
  refine filterNamed_of_load encodable
    (whole.ordered.filter_eq_singleton member fun s among => ?_) loaded
  rw [decide_eq_true_iff]
  constructor
  · exact whole.unique among member
  · rintro rfl
    rfl

/-- To write the row with a name anew is to edit the table. -/
lemma updateRows_eq_edited (whole : t.Whole) (member : r ∈ t.rows) (loaded : r.load = .ok f) :
    t.updateRows (.int r.id) (·.redefined (u.apply f)) = t.edited r.name u := by
  unfold updateRows FilterTable.edited
  simp only [mk.injEq, and_true]
  refine List.map_congr_left fun s among => ?_
  by_cases one : s = r
  · subst one
    rw [if_pos (Cell.isId_int.mpr rfl), FilterRow.edited_of_load rfl loaded]
  · rw [if_neg fun same => one (whole.ordered.unique among member (Cell.isId_int.mp same).symm),
      FilterRow.edited_of_ne fun same => one (whole.unique among member same)]

/-- A filter that was found under its name and edited is saved over its row, unless something keeps
it from that. -/
lemma saveFilter_apply (whole : t.Whole) (member : r ∈ t.rows) (loaded : r.load = .ok f)
    (trimmed : Text.trim r.name = r.name) (u : Update) :
    saveFilter (some t) (u.apply f) =
      match r.refusal? u with
      | none => (some (t.edited r.name u), .ok (u.apply f))
      | some e => (some t, .error e) := by
  have alike := u.alike_apply f
  have own : (u.apply f).id = .int r.id := alike.id.trans (FilterRow.id_of_load loaded)
  have old : (u.apply f).id ≠ .null := by
    rw [own]
    nofun
  have same : (u.apply f).name = r.name := alike.name.trans (FilterRow.name_of_load loaded trimmed)
  have bound : Cell.bind (.store <| .filterSave ·) 4 (u.apply f).id =
      if fits r.id then .ok (.int r.id) else .error (.range .storedInteger) := by
    rw [own, Cell.bind_int]
  rw [FilterRow.refusal?_of_load loaded, saveFilter]
  by_cases encodable : (u.apply f).encodable = true
  · rw [writeFilter_of_encodable encodable, if_pos encodable]
    by_cases small : fits r.id = true
    · rw [if_pos small] at bound ⊢
      have there : t.rowsWithId (.int r.id) ≠ [] :=
        List.ne_nil_of_mem (List.mem_filter.mpr ⟨member, Cell.isId_int.mpr rfl⟩)
      have free : t.nameTaken (u.apply f).name (.int r.id) = false :=
        nameTaken_eq_false_iff.mpr fun s among taken => by
          rw [whole.unique among member (taken.trans same)]
          exact Cell.isId_int.mpr rfl
      have written := FilterTable.write_eq_ok_iff.mpr (.inr ⟨old, bound, there, free, rfl⟩)
      have only := whole.ordered.rowsWithId_updateRows member
        fun s => (rfl : (s.redefined (u.apply f)).id = s.id)
      rw [written]
      simp only [readBack_of_load only (FilterRow.load_redefined_apply loaded u)]
      rw [whole.updateRows_eq_edited member loaded]
    · rw [if_neg small] at bound ⊢
      unfold FilterTable.write
      simp only [if_neg old, bound]
  · rw [writeFilter_of_unencodable (Bool.eq_false_iff.mpr encodable), if_neg encodable]

end Whole

end FilterTable

end ChatTriage.Store
