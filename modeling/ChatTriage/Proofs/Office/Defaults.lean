import ChatTriage.Proofs.Filter.Breaks
import ChatTriage.Proofs.Office.Seeding

/-!
# Default filters that are malformed

A definition that is rejected is passed over when the defaults are seeded: what happens is what
would have happened without it. One that breaks (`Filter.Breaks`) ends the seeding, after the
definitions before it were seeded: those after it are lost, and whoever asked for the seeding gets
its fault.
-/

namespace ChatTriage

variable {definition : Json} {definitions before after : List Json} {e : Fault}

namespace Desk

/-- The filters that the definitions describe, without those that cannot be read. -/
def accepted (definitions : List Json) : List Filter :=
  definitions.filterMap fun definition => (Filter.ofJson definition).toOption

/-- None of the definitions breaks. -/
def Readable (definitions : List Json) : Prop :=
  ∀ definition ∈ definitions, ∀ e, ¬ Filter.Breaks definition e

/-- A rejected definition is passed over. -/
lemma seed_rejected (failed : Filter.ofJson definition = .error e)
    (rejected : e.isRejection = true) :
    seed (definition :: definitions) = seed definitions := by
  have unacceptable : acceptable? definition = .ok none := by
    unfold acceptable?
    rw [failed]
    exact if_pos rejected
  rw [seed, unacceptable]
  rfl

/-- A definition that breaks ends the seeding at once. -/
lemma seed_breaks (breaks : Filter.Breaks definition e) :
    seed (definition :: definitions) = throw e := by
  obtain ⟨failed, other⟩ := Filter.breaking_ofJson_iff.mpr breaks
  have fatal : acceptable? definition = .error e := by
    unfold acceptable?
    rw [failed]
    exact if_neg (ne_true_of_eq_false other)
  rw [seed, fatal]
  rfl

/-- The definitions are seeded one after the other. -/
lemma seed_append : seed (before ++ after) = (do
    let names ← seed before
    let more ← seed after
    return names ++ more) := by
  induction before with
  | nil =>
    rw [seed]
    simp
  | cons definition before ih =>
    rw [List.cons_append, seed, seed]
    simp only [bind_assoc]
    refine congrArg (Bind.bind _) (funext fun acceptable => ?_)
    cases acceptable with
    | none => exact ih
    | some f =>
      simp only [ih, bind_assoc, pure_bind]
      refine congrArg (Bind.bind _) (funext fun created => ?_)
      cases created <;> simp

/-- A rejected definition makes no difference to those before and after it. -/
lemma seed_skip (failed : Filter.ofJson definition = .error e) (rejected : e.isRejection = true) :
    seed (before ++ definition :: after) = seed (before ++ after) := by
  rw [seed_append, seed_rejected failed rejected, ← seed_append]

/-- A definition that breaks ends the seeding. -/
lemma seed_stop (breaks : Filter.Breaks definition e) :
    seed (before ++ definition :: after) = (do let _ ← seed before; throw e) := by
  rw [seed_append, seed_breaks breaks]
  rfl

/-- Definitions none of which breaks are seeded like those of them that are accepted. -/
lemma Readable.seed_eq (readable : Readable definitions) :
    ∃ kept, seed definitions = seed kept ∧
      List.Forall₂ (fun definition f => Filter.ofJson definition = .ok f) kept
        (accepted definitions) := by
  induction definitions with
  | nil => exact ⟨[], rfl, .nil⟩
  | cons definition definitions ih =>
    obtain ⟨sound, readable⟩ := List.forall_mem_cons.mp readable
    obtain ⟨kept, same, reads⟩ := ih readable
    cases read : Filter.ofJson definition with
    | ok f =>
      refine ⟨definition :: kept, ?_, ?_⟩
      · rw [seed_cons read, seed_cons read, same]
      · rw [accepted, List.filterMap_cons, read]
        exact .cons read reads
    | error e =>
      have rejected : e.isRejection = true := by
        by_contra other
        exact sound e (Filter.breaking_ofJson_iff.mp ⟨read, Bool.eq_false_of_not_eq_true other⟩)
      refine ⟨kept, (seed_rejected read rejected).trans same, ?_⟩
      rw [accepted, List.filterMap_cons, read]
      exact reads

end Desk

namespace Office

variable {o : Office} {t : Store.FilterTable}

/-- Definitions none of which breaks end as those of their filters that are accepted are seeded into
the table. -/
lemma ends_seed_of_readable (table : o.filters = some t) (tended : t.Tended)
    (order : o.outages = [])
    (readable : Desk.Readable definitions) :
    o.Ends (Desk.seed definitions) (t.seeded (Desk.accepted definitions)).1
      (o.withFilters (t.seeded (Desk.accepted definitions)).2) := by
  obtain ⟨kept, same, reads⟩ := readable.seed_eq
  rw [same]
  exact ends_seed_of_table table tended order reads

/-- Reading a definition fails otherwise than by rejecting it exactly when it breaks. What is
rejected makes no difference to the seeding; but a definition that breaks ends it with its fault
once those before it were seeded, and what comes after is lost. Definitions none of which breaks are
seeded into a working table like the filters of those that are accepted: each of these whose name is
new is created, if all of them have no id and can be encoded. -/
theorem seeding_ends_at_broken_default (table : o.filters = some t) (tended : t.Tended)
    (order : o.outages = []) :
    (∀ definition e, (Filter.ofJson definition = .error e ∧ e.isRejection = false) ↔
      Filter.Breaks definition e) ∧
    (∀ before definition after e, Filter.ofJson definition = .error e → e.isRejection = true →
      Desk.seed (before ++ definition :: after) = Desk.seed (before ++ after)) ∧
    (∀ before definition after e, Filter.Breaks definition e →
      Desk.seed (before ++ definition :: after) = (do let _ ← Desk.seed before; throw e)) ∧
    ∀ definitions, Desk.Readable definitions →
      o.Ends (Desk.seed definitions) (t.seeded (Desk.accepted definitions)).1
        (o.withFilters (t.seeded (Desk.accepted definitions)).2) ∧
      ((∀ f ∈ Store.newcomers (t.rows.map (·.name)) (Desk.accepted definitions),
          f.encodable = true ∧ f.id = .null) →
        t.seeded (Desk.accepted definitions) =
          (.ok ((Store.newcomers (t.rows.map (·.name)) (Desk.accepted definitions)).map (·.name)),
            t.addAll (Store.newcomers (t.rows.map (·.name)) (Desk.accepted definitions)))) := by
  refine ⟨fun definition e => Filter.breaking_ofJson_iff, ?_, ?_,
    fun definitions readable => ⟨?_, ?_⟩⟩
  · exact fun before definition after e failed rejected => Desk.seed_skip failed rejected
  · exact fun before definition after e breaks => Desk.seed_stop breaks
  · exact ends_seed_of_readable table tended order readable
  · exact Store.FilterTable.seeded_eq_addAll

namespace Sample

open Store.Sample

/-- A definition whose keywords are a number. -/
def odd : Json :=
  .obj [("name", .str "Odd"), ("keywords", .int 5)]

/-- A definition that is accepted. -/
def plain : Json :=
  .obj [("name", .str "Music")]

/-- The filter that it describes. -/
def music : Filter :=
  { play with name := "Music" }

/-- The filter can be encoded. -/
lemma encodable_music : music.encodable = true := by decide +kernel

/-- The definition breaks. -/
lemma breaks_odd : Filter.Breaks odd (.wrongKind (.notIterable "int")) :=
  Filter.breaking_ofJson_iff.mp ⟨by decide +kernel, rfl⟩

end Sample

open Sample Store.Sample in
/-- A definition without a name makes no difference. But one whose keywords are a number ends the
seeding: the filter before it is created, the one after it is not. -/
theorem seeding_ends_at_broken_default_keywords :
    stocked.filters = some twoRows ∧ twoRows.Tended ∧ stocked.outages = [] ∧
    stocked.Ends (Desk.seed [.obj [], plain]) (.ok ["Music"])
      (stocked.withFilters (twoRows.addAll [music])) ∧
    stocked.Ends (Desk.seed [plain, odd]) (.error (.wrongKind (.notIterable "int")))
      (stocked.withFilters (twoRows.addAll [music])) ∧
    stocked.Ends (Desk.seed [odd, plain]) (.error (.wrongKind (.notIterable "int"))) stocked := by
  have tended : twoRows.Tended :=
    Store.FilterTable.Written.tended ⟨calls, typed_calls, writeAll_calls⟩
  obtain ⟨-, skips, stops, seeds⟩ := seeding_ends_at_broken_default (o := stocked) rfl tended rfl
  have known : Filter.ofJson plain = .ok music := by decide +kernel
  have readable : Desk.Readable [plain] := by
    intro definition member e breaks
    obtain rfl := List.mem_singleton.mp member
    obtain ⟨failed, -⟩ := Filter.breaking_ofJson_iff.mpr breaks
    cases known.symm.trans failed
  have accepted : Desk.accepted [plain] = [music] := by
    rw [Desk.accepted, List.filterMap_cons, known]
    rfl
  obtain ⟨ends, adds⟩ := seeds [plain] readable
  have new : Store.newcomers (twoRows.rows.map (·.name)) [music] = [music] := by decide +kernel
  rw [accepted, new] at adds
  rw [accepted, adds (List.forall_mem_singleton.mpr ⟨encodable_music, rfl⟩)] at ends
  refine ⟨rfl, tended, rfl, ?_, ?_, ?_⟩
  · have same := skips [] (.obj []) [plain] (.missingKey (.str "name")) rfl rfl
    rw [List.nil_append] at same
    rw [same]
    exact ends
  · have same := stops [plain] odd [] _ breaks_odd
    rw [List.singleton_append] at same
    rw [same]
    exact ends.bind rfl
  · have same := stops [] odd [plain] _ breaks_odd
    rw [List.nil_append] at same
    rw [same]
    exact Ends.bind (.pure []) rfl

end Office

end ChatTriage
