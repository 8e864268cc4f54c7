import ChatTriage.Proofs.Store.Undated

/-!
# Writes to the table of filters

The program writes to the table of filters in two ways: it saves filters, and it updates columns. A
write may be refused (`FilterWrite.Refused` lists when), and then the table stays as it is.
`writeAll` makes writes one after the other, those that are refused among them.
-/

namespace ChatTriage.Store

/-- A call that writes to the table of filters. -/
inductive FilterWrite where
  | save (f : Filter)
  | update (id : Json) (changes : List Change)
  deriving DecidableEq, Repr

/-- The table after a call, and how the call ends. -/
def FilterWrite.apply (table : Option FilterTable) :
    FilterWrite → Option FilterTable × Except Fault Unit
  | .save f => ((saveFilter table f).1, (saveFilter table f).2.map fun _ => ())
  | .update id changes =>
    match updateFilter table id changes with
    | .ok table => (table, .ok ())
    | .error e => (table, .error e)

/-- The table after calls that are made one after the other, however they end. -/
def writeAll (table : Option FilterTable) (writes : List FilterWrite) : Option FilterTable :=
  writes.foldl (fun table w => (w.apply table).1) table

/-- A value that is given for an id is equal to the id of a row. -/
def denotes (id : Json) (n : Int) : Bool :=
  match Cell.ofJson id with
  | .ok c => c.isId n
  | .error _ => false

/-- A change with a whole number for the matches, as stats have one. -/
def Change.IsWhole : Change → Prop
  | .stats matched _ => ∃ n, matched = .int n
  | _ => True

/-- A call as the program makes it: filters come from documents and edits, and the number of matches
is whole. -/
inductive FilterWrite.Typed : FilterWrite → Prop where
  | save {f} :
    f.Made →
    Typed (.save f)
  | update {id changes} :
    (∀ c ∈ changes, c.IsWhole) →
    Typed (.update id changes)

/-- The numbers of a change fit their columns. -/
def Change.fits : Change → Bool
  | .stats (.int n) _ => Store.fits n
  | _ => true

/-- The number of values that changes put into a statement. -/
def Change.places : List Change → Nat
  | [] => 0
  | .enabled _ :: changes => 1 + places changes
  | .stats _ _ :: changes => 2 + places changes
  | .unsupported _ :: changes => places changes

/-- A call that ends with a fault. -/
inductive FilterWrite.Refused (t : FilterTable) : FilterWrite → Fault → Prop where
  | unencodable {f} :
    f.encodable = false →
    Refused t (.save f) (.value (.unencodable f.refusedText))
  | taken {f r} :
    f.encodable = true →
    (f.id = .null ∨ ∃ own ∈ t.rows, denotes f.id own.id = true) →
    r ∈ t.rows →
    r.name = f.name →
    denotes f.id r.id = false →
    Refused t (.save f) (.duplicate (.filterName f.name))
  | absent {f cell} :
    f.encodable = true →
    f.id ≠ .null →
    Cell.ofJson f.id = .ok cell →
    (∀ r ∈ t.rows, denotes f.id r.id = false) →
    Refused t (.save f) (.store (.noFilter f.id))
  | unbound {f e} :
    f.encodable = true →
    f.id ≠ .null →
    Cell.bind (.store <| .filterSave ·) 4 f.id = .error e →
    Refused t (.save f) e
  | unsupported {id changes name} :
    unsupported? changes = some name →
    Refused t (.update id changes) (.store (.unsupportedField name))
  | tooLarge {id changes c} :
    unsupported? changes = none →
    c ∈ changes →
    c.fits = false →
    Refused t (.update id changes) (.range .storedInteger)
  | misplaced {id changes e} :
    unsupported? changes = none →
    changes ≠ [] →
    (∀ c ∈ changes, c.fits = true) →
    Cell.bind filterUpdateFault (Change.places changes + 1) id = .error e →
    Refused t (.update id changes) e

variable {t t' : FilterTable} {f : Filter} {r : FilterRow} {id : Json}
    {changes : List Change} {e : Fault}

/-- A value that has a cell is put into a statement. -/
lemma Cell.bind_of_ofJson {report : SqlFault → Fault} {position : Nat} {x : Json} {cell : Cell}
    (read : Cell.ofJson x = .ok cell) : Cell.bind report position x = .ok cell := by
  unfold Cell.bind
  rw [read]

/-- A value denotes the ids that its cell is equal to. -/
lemma denotes_of_ofJson {cell : Cell} (read : Cell.ofJson id = .ok cell) :
    denotes id = cell.isId := by
  funext n
  simp only [denotes, read]

/-- Nothing denotes no id. -/
lemma denotes_null (n : Int) : denotes .null n = false := rfl

/-- Writing a filter fails in the ways in which saving it is refused. -/
lemma writeFilter_eq_error_iff :
    writeFilter (some t) f = .error e ↔ FilterWrite.Refused t (.save f) e := by
  have taken {except : Cell} : t.nameTaken f.name except = true ↔
      ∃ r ∈ t.rows, r.name = f.name ∧ except.isId r.id = false := by
    simp [FilterTable.nameTaken]
  constructor
  · intro refused
    by_cases encodable : f.encodable = true
    swap
    · have unencodable := Bool.eq_false_iff.mpr encodable
      cases (writeFilter_of_unencodable unencodable).symm.trans refused
      exact .unencodable unencodable
    rw [writeFilter_of_encodable encodable] at refused
    unfold FilterTable.write at refused
    simp only at refused
    split at refused
    · rename_i new
      split at refused
      · rename_i is
        cases refused
        obtain ⟨r, member, named, -⟩ := taken.mp is
        exact .taken encodable (.inl new) member named (new ▸ denotes_null r.id)
      · cases refused
    · rename_i old
      split at refused
      · rename_i unbound
        cases refused
        exact .unbound encodable old unbound
      · rename_i cell bound
        have same := denotes_of_ofJson (Cell.ofJson_of_bind bound)
        split at refused
        · rename_i gone
          cases refused
          refine .absent encodable old (Cell.ofJson_of_bind bound) fun r member => ?_
          have none := List.filter_eq_nil_iff.mp (List.isEmpty_iff.mp gone) r member
          rw [same]
          exact Bool.eq_false_iff.mpr none
        · rename_i there
          split at refused
          · rename_i is
            cases refused
            obtain ⟨r, member, named, other⟩ := taken.mp is
            obtain ⟨own, among⟩ := List.exists_mem_of_ne_nil _ fun none =>
              there (List.isEmpty_iff.mpr none)
            obtain ⟨listed, is⟩ := List.mem_filter.mp among
            exact .taken encodable (.inr ⟨own, listed, same ▸ is⟩) member named (same ▸ other)
          · cases refused
  · intro refused
    cases refused with
    | unencodable unencodable => exact writeFilter_of_unencodable unencodable
    | @taken _ r encodable which member named other =>
      rw [writeFilter_of_encodable encodable, FilterTable.write]
      by_cases new : f.id = .null
      · have is : t.nameTaken f.name .null = true := taken.mpr ⟨r, member, named, rfl⟩
        simp only [new, is, if_true]
      · obtain ⟨own, listed, is⟩ := which.resolve_left new
        cases read : Cell.ofJson f.id with
        | error cause => simp [denotes, read] at is
        | ok cell =>
          rw [denotes_of_ofJson read] at is other
          have there : (t.rowsWithId cell).isEmpty = false :=
            List.isEmpty_eq_false_iff.mpr (List.ne_nil_of_mem (List.mem_filter.mpr ⟨listed, is⟩))
          have is : t.nameTaken f.name cell = true := taken.mpr ⟨r, member, named, other⟩
          simp [new, Cell.bind_of_ofJson read, there, is]
    | @absent _ cell encodable old read gone =>
      rw [writeFilter_of_encodable encodable, FilterTable.write]
      have none : (t.rowsWithId cell).isEmpty = true := by
        rw [List.isEmpty_iff, FilterTable.rowsWithId, List.filter_eq_nil_iff]
        intro r member
        rw [← denotes_of_ofJson read, gone r member]
        exact Bool.false_ne_true
      simp [old, Cell.bind_of_ofJson read, none]
    | unbound encodable old unbound =>
      rw [writeFilter_of_encodable encodable]
      simp [FilterTable.write, old, unbound]

/-- A row after a change. -/
def FilterRow.change (r : FilterRow) : Change → FilterRow
  | .enabled b => { r with enabled := .ofBool b }
  | .stats (.int n) lastMatch => r.counted ⟨n, lastMatch⟩
  | _ => r

/-- A row after changes. -/
def FilterRow.changed (r : FilterRow) (changes : List Change) : FilterRow :=
  changes.foldl FilterRow.change r

/-- What changes come to as assignments, when they are all supported and their numbers fit. -/
lemma assignments_eq_ok (position : Nat) (supported : unsupported? changes = none)
    (whole : ∀ c ∈ changes, c.IsWhole) (fit : ∀ c ∈ changes, c.fits = true) :
    ∃ assigned, assignments position changes = .ok (assigned, position + Change.places changes) ∧
      ∀ r, assigned.foldlM FilterRow.assign r = .ok (r.changed changes) := by
  induction changes generalizing position with
  | nil => exact ⟨[], rfl, fun r => rfl⟩
  | cons c changes ih =>
    obtain ⟨wholeFirst, wholeRest⟩ := List.forall_mem_cons.mp whole
    obtain ⟨fitFirst, fitRest⟩ := List.forall_mem_cons.mp fit
    cases c with
    | enabled b =>
      obtain ⟨assigned, rest, done⟩ := ih (position + 1) supported wholeRest fitRest
      refine ⟨.enabled b :: assigned, ?_, fun r => done _⟩
      rw [assignments, rest, ok_bind, Change.places, Nat.add_assoc]
      rfl
    | stats matched lastMatch =>
      obtain ⟨n, rfl⟩ := wholeFirst
      have small : fits n = true := fitFirst
      obtain ⟨assigned, rest, done⟩ := ih (position + 2) supported wholeRest fitRest
      refine ⟨.stats (.int n) (.ofDate lastMatch) :: assigned, ?_, fun r => done _⟩
      rw [assignments, Cell.bind_int, if_pos small, ok_bind, rest, ok_bind, Change.places,
        Nat.add_assoc]
      rfl
    | unsupported name => cases supported

/-- A number that does not fit its column keeps changes from becoming assignments. -/
lemma assignments_eq_error (position : Nat) (supported : unsupported? changes = none)
    (whole : ∀ c ∈ changes, c.IsWhole) (large : ∃ c ∈ changes, c.fits = false) :
    assignments position changes = .error (.range .storedInteger) := by
  induction changes generalizing position with
  | nil => simp at large
  | cons c changes ih =>
    obtain ⟨wholeFirst, wholeRest⟩ := List.forall_mem_cons.mp whole
    rw [List.exists_mem_cons_iff] at large
    cases c with
    | enabled b =>
      have rest := ih (position + 1) supported wholeRest (large.resolve_left Bool.noConfusion)
      rw [assignments, rest]
      rfl
    | stats matched lastMatch =>
      obtain ⟨n, rfl⟩ := wholeFirst
      rw [assignments, Cell.bind_int]
      by_cases small : fits n = true
      · have later := large.resolve_left fun large => by simp [Change.fits, small] at large
        rw [if_pos small, ok_bind, ih (position + 2) supported wholeRest later]
        rfl
      · rw [if_neg small]
        rfl
    | unsupported name => cases supported

/-- Supported changes whose numbers fit are made in the rows with the id, if it can be put into the
statement. -/
lemma updateFilter_eq (supported : unsupported? changes = none) (some_change : changes ≠ [])
    (whole : ∀ c ∈ changes, c.IsWhole) (fit : ∀ c ∈ changes, c.fits = true) :
    updateFilter (some t) id changes =
      (Cell.bind filterUpdateFault (Change.places changes + 1) id).map fun cell =>
        some (t.updateRows cell (·.changed changes)) := by
  obtain ⟨assigned, assigns, done⟩ := assignments_eq_ok 0 supported whole fit
  have written (cell : Cell) :
      (t.rows.mapM fun r => if cell.isId r.id then assigned.foldlM FilterRow.assign r else .ok r) =
        .ok (t.rows.map fun r => if cell.isId r.id then r.changed changes else r) := by
    refine mapM_eq_ok fun r => ?_
    rw [done]
    split <;> rfl
  unfold updateFilter
  simp only [supported, List.isEmpty_eq_false_iff.mpr some_change, assigns, written, ok_bind,
    Nat.zero_add]
  cases Cell.bind filterUpdateFault (Change.places changes + 1) id <;> rfl

/-- Updating columns fails in the ways in which it is refused. -/
lemma updateFilter_eq_error_iff (whole : ∀ c ∈ changes, c.IsWhole) :
    updateFilter (some t) id changes = .error e ↔ FilterWrite.Refused t (.update id changes) e := by
  constructor
  · intro refused
    cases supported : unsupported? changes with
    | some name =>
      simp only [updateFilter, supported] at refused
      cases refused
      exact .unsupported supported
    | none =>
      by_cases some_change : changes = []
      · subst some_change
        cases refused
      · by_cases fit : ∀ c ∈ changes, c.fits = true
        · rw [updateFilter_eq supported some_change whole fit] at refused
          cases bound : Cell.bind filterUpdateFault (Change.places changes + 1) id with
          | ok cell =>
            rw [bound] at refused
            cases refused
          | error cause =>
            rw [bound] at refused
            cases refused
            exact .misplaced supported some_change fit bound
        -- the numbers are bound before the id is, so one that is too large is what is reported
        · have large : ∃ c ∈ changes, c.fits = false := by simpa using fit
          simp only [updateFilter, supported, List.isEmpty_eq_false_iff.mpr some_change,
            assignments_eq_error 0 supported whole large] at refused
          cases refused
          obtain ⟨c, member, huge⟩ := large
          exact .tooLarge supported member huge
  · intro refused
    cases refused with
    | unsupported name => simp only [updateFilter, name]
    | @tooLarge _ _ c supported member huge =>
      have some_change : changes ≠ [] := List.ne_nil_of_mem member
      simp only [updateFilter, supported, List.isEmpty_eq_false_iff.mpr some_change,
        assignments_eq_error 0 supported whole ⟨c, member, huge⟩]
      rfl
    | misplaced supported some_change fit unbound =>
      rw [updateFilter_eq supported some_change whole fit, unbound]
      rfl

end ChatTriage.Store
