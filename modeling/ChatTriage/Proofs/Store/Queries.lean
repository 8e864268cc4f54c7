import ChatTriage.Proofs.Filter.Blocks
import ChatTriage.Proofs.Store.Filters
import ChatTriage.Proofs.Store.Ordered

/-!
# What queries of filters give

A query passes over the rows that are malformed and gives the filters of the others in the order of
their ids, unless it comes to a row that blocks it (`FilterRow.Blocks`): one whose text lies too
deep to be read, whose hours or actions block, or whose matches are an infinite number.
-/

namespace ChatTriage.Store

variable {r : FilterRow} {t : FilterTable} {f : Filter} {e : Fault} {fields : List (String × Json)}

/-- The row holds an object with a name beside it, of which everything up to the hours can be
read. -/
structure FilterRow.Opens (r : FilterRow) (fields : List (String × Json)) : Prop where
  document : r.document.read = .ok (.obj fields)
  named : (Text.trim r.name).isEmpty = false
  authors : ∃ items, (Json.part fields "authors").elementsOrNone = .ok items
  keywords : ∃ items, (Json.part fields "keywords").elementsOrNone = .ok items
  mode : ∃ mode, KeywordMode.ofJson (Json.part fields "keywordMatchMode") = .ok mode
  types : ∃ items types, (Json.part fields "messageTypes").elementsOrNone = .ok items ∧
    items.mapM ContentType.ofJson = .ok types

/-- A row that a query does not pass over, and the fault with which the query ends there. -/
inductive FilterRow.Blocks (r : FilterRow) : Fault → Prop where
  | depth {text} {refusal : Json.Refusal} :
    r.document = .foreign text →
    Json.read text = .error refusal →
    refusal.isTooDeep = true →
    r.Blocks (.json refusal)
  | hours {fields : List (String × Json)} {e : Fault} :
    r.Opens fields →
    TimeRange.Blocks (Json.part fields "timeRange") e →
    r.Blocks e
  | actions {fields : List (String × Json)} {range} {e : Fault} :
    r.Opens fields →
    TimeRange.ofJson (Json.part fields "timeRange") = .ok range →
    FilterActions.Blocks (Json.part fields "actions") e →
    r.Blocks e
  | matched {fields range actions} {x : Double} :
    r.Opens fields →
    TimeRange.ofJson (Json.part fields "timeRange") = .ok range →
    FilterActions.ofJson (Json.part fields "actions") = .ok actions →
    r.matched = .real x →
    x.isInfinite = true →
    r.Blocks (.range .infiniteInteger)

/-- What a row blocks with is no failure of the store. -/
lemma FilterRow.Blocks.foreign (blocks : r.Blocks e) : e.isStore = false := by
  cases blocks with
  | depth => rfl
  | hours _ blocks => exact blocks.foreign
  | actions _ _ blocks => exact blocks.foreign
  | matched => rfl

/-- A document escapes when its text is too deep. -/
lemma Document.escapes_read_iff {d : Document} :
    Escapes d.read e ↔ ∃ text refusal, d = .foreign text ∧ Json.read text = .error refusal ∧
      refusal.isTooDeep = true ∧ e = .json refusal := by
  constructor
  · rintro ⟨same, escapes⟩
    unfold read at same
    split at same
    · cases same
    · rename_i text
      split at same
      · cases same
      · rename_i refusal refused
        cases same
        exact ⟨text, refusal, rfl, refused,
          by simpa [Fault.isMalformed, Fault.isRejection] using escapes, rfl⟩
  · rintro ⟨text, refusal, rfl, refused, deep, rfl⟩
    refine ⟨?_, by simp [Fault.isMalformed, Fault.isRejection, deep]⟩
    unfold read
    simp only [refused]

/-- Reading the object in a row escapes where the row blocks. -/
lemma FilterRow.escapes_filled_iff (document : r.document.read = .ok (.obj fields)) :
    Escapes (Filter.ofJson (.obj (r.filled fields))) e ↔
      r.Opens fields ∧ (TimeRange.Blocks (Json.part fields "timeRange") e ∨
        ∃ range, TimeRange.ofJson (Json.part fields "timeRange") = .ok range ∧
          (FilterActions.Blocks (Json.part fields "actions") e ∨
            ∃ actions, FilterActions.ofJson (Json.part fields "actions") = .ok actions ∧
              Escapes r.matched.toJson.toInt e)) := by
  rw [ofJson_filled]
  by_cases blank : (Text.trim r.name).isEmpty = true
  · rw [if_pos blank]
    refine iff_of_false ?_ fun opens => ?_
    · rintro ⟨same, escapes⟩
      cases same
      cases escapes
    · rw [opens.1.named] at blank
      cases blank
  · rw [if_neg blank]
    simp only [escapes_bind_iff, Json.not_escapes_elementsOrNone, KeywordMode.not_escapes_ofJson,
      escapes_mapM_iff, ContentType.not_escapes_ofJson, TimeRange.escapes_ofJson_iff,
      FilterActions.escapes_ofJson_iff, DateTime.not_escapes_ofJson, not_escapes_pure,
      false_or, and_false,
      exists_false, or_false]
    constructor
    · rintro ⟨authors, a, keywords, k, mode, m, items, i, types, t, blocks⟩
      exact ⟨⟨document, Bool.eq_false_iff.mpr blank, ⟨authors, a⟩, ⟨keywords, k⟩, ⟨mode, m⟩,
        ⟨items, types, i, t⟩⟩, blocks⟩
    · rintro ⟨⟨-, -, ⟨authors, a⟩, ⟨keywords, k⟩, ⟨mode, m⟩, ⟨items, types, i, t⟩⟩, blocks⟩
      exact ⟨authors, a, keywords, k, mode, m, items, i, types, t, blocks⟩

/-- A row blocks when loading it fails without finding it malformed. -/
lemma FilterRow.escapes_load_iff : Escapes r.load e ↔ r.Blocks e := by
  unfold load
  rw [escapes_bind_iff, Document.escapes_read_iff]
  constructor
  · rintro (⟨text, refusal, foreign, refused, deep, rfl⟩ | ⟨raw, read, escapes⟩)
    · exact .depth foreign refused deep
    · obtain ⟨fields, rfl⟩ | ⟨cause, refused⟩ := r.fill_or raw
      · obtain ⟨opens, blocks | ⟨range, ranged, blocks | ⟨actions, acts, uncounted⟩⟩⟩ :=
          (escapes_filled_iff read).mp escapes
        · exact .hours opens blocks
        · exact .actions opens ranged blocks
        · obtain ⟨x, matched, infinite, rfl⟩ := Json.escapes_toInt_iff.mp uncounted
          refine .matched opens ranged acts ?_ infinite
          cases cell : r.matched with
          | real y =>
            rw [cell] at matched
            cases matched
            rfl
          | _ =>
            rw [cell] at matched
            cases matched
      · rw [refused] at escapes
        obtain ⟨same, sound⟩ := escapes
        cases same
        cases sound
  · have filled {fields} (opens : r.Opens fields) (blocks) :=
      (escapes_filled_iff (e := e) opens.document).mpr ⟨opens, blocks⟩
    intro blocks
    cases blocks with
    | depth foreign refused deep => exact .inl ⟨_, _, foreign, refused, deep, rfl⟩
    | hours opens blocks => exact .inr ⟨_, opens.document, filled opens (.inl blocks)⟩
    | actions opens ranged blocks =>
      exact .inr ⟨_, opens.document, filled opens (.inr ⟨_, ranged, .inl blocks⟩)⟩
    | matched opens ranged acts matched infinite =>
      have uncounted := Json.escapes_toInt_iff.mpr ⟨_, congrArg Cell.toJson matched, infinite, rfl⟩
      exact .inr ⟨_, opens.document, filled opens (.inr ⟨_, ranged, .inr ⟨_, acts, uncounted⟩⟩)⟩

/-- The row blocks every query that comes to it. -/
def FilterRow.Blocked (r : FilterRow) : Prop :=
  ∃ e, r.Blocks e

/-- A row defines a filter, or it is passed over, or it blocks. -/
lemma FilterRow.load_or (r : FilterRow) :
    (∃ f, r.load = .ok f ∧ ¬ r.Blocked) ∨
    (∃ e, r.load = .error e ∧ e.isMalformed = true ∧ ¬ r.Blocked) ∨
    ∃ e, r.load = .error e ∧ e.isMalformed = false ∧ r.Blocks e := by
  cases loaded : r.load with
  | ok f =>
    refine .inl ⟨f, rfl, fun ⟨e, blocks⟩ => ?_⟩
    rw [← escapes_load_iff, loaded] at blocks
    exact not_escapes_ok blocks
  | error e =>
    cases malformed : e.isMalformed with
    | false => exact .inr (.inr ⟨e, rfl, malformed, escapes_load_iff.mp ⟨loaded, malformed⟩⟩)
    | true =>
      refine .inr (.inl ⟨e, rfl, malformed, fun ⟨e', blocks⟩ => ?_⟩)
      rw [← escapes_load_iff, loaded, escapes_error_iff] at blocks
      obtain ⟨rfl, sound⟩ := blocks
      rw [malformed] at sound
      cases sound

/-- The first of the rows that block does so with a fault. -/
def FirstBlocks (rows : List FilterRow) (e : Fault) : Prop :=
  ∃ before r after, rows = before ++ r :: after ∧ (∀ s ∈ before, ¬ s.Blocked) ∧ r.Blocks e

/-- The first row blocks, or one after it does first. -/
lemma firstBlocks_cons_iff {rows : List FilterRow} :
    FirstBlocks (r :: rows) e ↔ r.Blocks e ∨ ¬ r.Blocked ∧ FirstBlocks rows e := by
  constructor
  · rintro ⟨before, s, after, split, unblocked, blocks⟩
    cases before with
    | nil =>
      cases split
      exact .inl blocks
    | cons r before =>
      cases split
      obtain ⟨free, unblocked⟩ := List.forall_mem_cons.mp unblocked
      exact .inr ⟨free, before, s, after, rfl, unblocked, blocks⟩
  · rintro (blocks | ⟨free, before, s, after, rfl, unblocked, blocks⟩)
    · exact ⟨[], r, rows, rfl, fun s none => absurd none List.not_mem_nil, blocks⟩
    · exact ⟨r :: before, s, after, rfl, List.forall_mem_cons.mpr ⟨free, unblocked⟩, blocks⟩

/-- Of rows that block, one is the first. -/
lemma exists_firstBlocks {rows : List FilterRow} (member : r ∈ rows) (blocked : r.Blocked) :
    ∃ e, FirstBlocks rows e := by
  induction rows with
  | nil => cases member
  | cons s rows ih =>
    by_cases first : s.Blocked
    · obtain ⟨e, blocks⟩ := first
      exact ⟨e, firstBlocks_cons_iff.mpr (.inl blocks)⟩
    · obtain rfl | later := List.mem_cons.mp member
      · exact absurd blocked first
      · obtain ⟨e, blocks⟩ := ih later
        exact ⟨e, firstBlocks_cons_iff.mpr (.inr ⟨first, blocks⟩)⟩

/-- Loading ends at the first row that blocks. -/
lemma loadAll_eq_error_iff {rows : List FilterRow} :
    loadAll rows = .error e ↔ FirstBlocks rows e := by
  induction rows with
  | nil =>
    refine iff_of_false nofun ?_
    rintro ⟨before, r, after, impossible, -⟩
    exact absurd impossible.symm
      (List.append_ne_nil_of_right_ne_nil before (List.cons_ne_nil r after))
  | cons r rows ih =>
    have passes (free : ¬ r.Blocked) : FirstBlocks (r :: rows) e ↔ loadAll rows = .error e := by
      have unblocking : ¬ r.Blocks e := fun blocks => free ⟨e, blocks⟩
      simp [firstBlocks_cons_iff, ih, free, unblocking]
    obtain ⟨f, loaded, free⟩ | ⟨e', refused, malformed, free⟩ | ⟨e', refused, sound, blocks⟩ :=
      r.load_or
    · rw [passes free, loadAll_cons_of_load loaded]
      cases loadAll rows with
      | error e' => exact .rfl
      | ok filters => exact iff_of_false nofun nofun
    · rw [passes free, loadAll_cons_of_malformed refused malformed]
    · have ends : loadAll (r :: rows) = .error e' := by simp [loadAll, refused, sound]
      rw [ends, firstBlocks_cons_iff, ← FilterRow.escapes_load_iff, refused]
      constructor
      · intro same
        cases same
        exact .inl ⟨rfl, sound⟩
      · rintro (⟨same, -⟩ | ⟨free, -⟩)
        · cases same
          rfl
        · exact absurd ⟨e', blocks⟩ free

/-- None of the rows blocks that can be loaded together. -/
lemma unblocked_of_loadAll {rows : List FilterRow} {filters : List Filter}
    (loaded : loadAll rows = .ok filters) : ∀ r ∈ rows, ¬ r.Blocked := by
  intro r member blocked
  obtain ⟨e, blocks⟩ := exists_firstBlocks member blocked
  cases loaded.symm.trans (loadAll_eq_error_iff.mpr blocks)

/-- Exactly the filters that rows define, by ascending id. -/
structure Lists (rows : List FilterRow) (filters : List Filter) : Prop where
  exact : ∀ f, f ∈ filters ↔ ∃ r ∈ rows, r.Defines f
  ascending : filters.Pairwise fun f g => ∃ m n : Int, f.id = .int m ∧ g.id = .int n ∧ m < n

/-- A query over rows gives all that they define, or ends with the fault of the first one that
blocks. -/
structure Answers (rows : List FilterRow) (answer : Except Fault (List Filter)) : Prop where
  listed : (∀ r ∈ rows, ¬ r.Blocked) → ∃ filters, answer = .ok filters ∧ Lists rows filters
  blocked : ∀ e, answer = .error e ↔ FirstBlocks rows e

/-- A row is loaded as the filter that it defines. -/
lemma FilterRow.toOption_load_eq_some_iff : r.load.toOption = some f ↔ r.Defines f := by
  rw [← load_eq_ok_iff_defines]
  cases r.load <;> simp [Except.toOption]

/-- The filters that rows by ascending id are loaded as. -/
lemma lists_loaded {rows : List FilterRow} (ascending : rows.Pairwise fun r s => r.id < s.id) :
    Lists rows (rows.filterMap (·.load.toOption)) := by
  constructor
  · intro f
    simp only [List.mem_filterMap, FilterRow.toOption_load_eq_some_iff]
  · refine List.Pairwise.filterMap _ (fun r s less f first g second => ?_) ascending
    exact ⟨r.id, s.id, (FilterRow.toOption_load_eq_some_iff.mp first).columns.1,
      (FilterRow.toOption_load_eq_some_iff.mp second).columns.1, less⟩

/-- Loading answers for its rows. -/
lemma answers_loadAll {rows : List FilterRow} (ascending : rows.Pairwise fun r s => r.id < s.id) :
    Answers rows (loadAll rows) := by
  refine ⟨fun unblocked => ?_, fun e => loadAll_eq_error_iff⟩
  cases loaded : loadAll rows with
  | error e =>
    obtain ⟨before, r, after, rfl, -, blocks⟩ := loadAll_eq_error_iff.mp loaded
    exact absurd ⟨e, blocks⟩ (unblocked r (List.mem_append_right _ List.mem_cons_self))
  | ok filters =>
    refine ⟨filters, rfl, ?_⟩
    rw [eq_of_loadAll loaded]
    exact lists_loaded ascending

end ChatTriage.Store
