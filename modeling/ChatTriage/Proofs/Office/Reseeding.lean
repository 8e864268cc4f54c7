import ChatTriage.Proofs.Office.Defaults

/-!
# Seeding once and again

Definitions without ids are seeded exactly: those that are accepted and whose name is new
(`Desk.created`) get rows of their own after the rows that are there, in their order, and the names
are given. Once they are seeded, none of them is new any more, and seeding them again changes
nothing. All of this if they can be encoded: the first one that cannot ends the seeding, and those
that come after it are lost.
-/

namespace ChatTriage

namespace Store

variable {t : FilterTable} {f : Filter} {fs : List Filter} {names : List String}

/-- A filter after others is new unless its name is given or one of the others has it. -/
lemma newcomers_concat (names : List String) (fs : List Filter) (f : Filter) :
    newcomers names (fs ++ [f]) =
      newcomers names fs ++ if f.name ∈ names ∨ f.name ∈ fs.map (·.name) then [] else [f] := by
  induction fs generalizing names with
  | nil => by_cases known : f.name ∈ names <;> simp [newcomers, known]
  | cons g fs ih =>
    by_cases known : g.name ∈ names
    · have same : f.name ∈ names ∨ f.name ∈ (g :: fs).map (·.name) ↔
          f.name ∈ names ∨ f.name ∈ fs.map (·.name) := by
        rw [List.map_cons, List.mem_cons]
        refine ⟨?_, Or.imp_right .inr⟩
        rintro (there | same | later)
        · exact .inl there
        · exact .inl (same ▸ known)
        · exact .inr later
      simp only [List.cons_append, newcomers, if_pos known, ih, same]
    · have same : f.name ∈ names ++ [g.name] ∨ f.name ∈ fs.map (·.name) ↔
          f.name ∈ names ∨ f.name ∈ (g :: fs).map (·.name) := by
        simp only [List.map_cons, List.mem_append, List.mem_cons, List.not_mem_nil,
          or_false, or_assoc]
      simp only [List.cons_append, newcomers, if_neg known, ih, same]

/-- New filters are among the filters. -/
lemma newcomers_subset (names : List String) (fs : List Filter) : newcomers names fs ⊆ fs := by
  induction fs generalizing names with
  | nil => exact List.Subset.refl []
  | cons g fs ih =>
    by_cases known : g.name ∈ names
    · simp only [newcomers, if_pos known]
      exact List.subset_cons_of_subset g (ih names)
    · simp only [newcomers, if_neg known]
      exact List.cons_subset_cons g (ih _)

/-- Each name is given or that of a filter that is new. -/
lemma name_mem_of_newcomers (names : List String) (fs : List Filter) :
    ∀ f ∈ fs, f.name ∈ names ++ (newcomers names fs).map (·.name) := by
  induction fs generalizing names with
  | nil => exact fun _ none => absurd none List.not_mem_nil
  | cons g fs ih =>
    by_cases known : g.name ∈ names
    · simp only [newcomers, if_pos known]
      exact List.forall_mem_cons.mpr ⟨List.mem_append_left _ known, ih names⟩
    · have later := ih (names ++ [g.name])
      simp only [List.append_assoc, List.singleton_append] at later
      simp only [newcomers, if_neg known, List.map_cons]
      exact List.forall_mem_cons.mpr ⟨List.mem_append_right _ List.mem_cons_self, later⟩

/-- No filter is new whose name is given. -/
lemma newcomers_eq_nil (known : ∀ f ∈ fs, f.name ∈ names) : newcomers names fs = [] := by
  induction fs with
  | nil => rfl
  | cons g fs ih =>
    obtain ⟨first, rest⟩ := List.forall_mem_cons.mp known
    rw [newcomers, if_pos first, ih rest]

namespace FilterTable

/-- New rows stand after the old ones, with the ids that come next. -/
lemma rows_addAll (t : FilterTable) (fs : List Filter) :
    (t.addAll fs).rows = t.rows ++ fs.mapIdx fun i f => .fresh f (t.lastId + 1 + i) := by
  induction fs generalizing t with
  | nil => exact (List.append_nil _).symm
  | cons f fs ih =>
    rw [addAll, List.foldl_cons, ← addAll, ih, List.mapIdx_cons]
    simp only [insert, List.append_assoc, List.singleton_append, Nat.cast_zero, Int.add_zero]
    refine congrArg (t.rows ++ FilterRow.fresh f (t.lastId + 1) :: ·)
      (congrArg (List.mapIdx · fs) ?_)
    funext i g
    exact congrArg (FilterRow.fresh g) (by push_cast; omega)

/-- The new rows have the names of their filters. -/
lemma names_addAll : (t.addAll fs).rows.map (·.name) = t.rows.map (·.name) ++ fs.map (·.name) := by
  induction fs generalizing t with
  | nil => exact (List.append_nil _).symm
  | cons f fs ih =>
    rw [addAll, List.foldl_cons, ← addAll, ih, names_insert, List.append_assoc]
    rfl

/-- A table stays in order with new rows. -/
lemma Ordered.addAll (ordered : t.Ordered) (fs : List Filter) : (t.addAll fs).Ordered := by
  induction fs generalizing t with
  | nil => exact ordered
  | cons f fs ih => exact ih (ordered.insert fun _ => rfl)

/-- It still loads if the new filters are regular. -/
lemma Loads.addAll (loads : t.Loads) (regular : ∀ f ∈ fs, f.Regular) : (t.addAll fs).Loads := by
  intro r member
  rw [rows_addAll, List.mem_append, List.mem_mapIdx] at member
  obtain old | ⟨i, small, rfl⟩ := member
  · exact loads r old
  · exact ⟨_, FilterRow.load_fresh (regular _ (List.getElem_mem small)) _⟩

/-- Seeding ends at the first new filter that cannot be encoded, after those before it were
added. -/
lemma seeded_eq_error {before after : List Filter}
    (split : newcomers (t.rows.map (·.name)) fs = before ++ f :: after)
    (added : ∀ g ∈ before, g.encodable = true ∧ g.id = .null) (unencodable : f.encodable = false) :
    t.seeded fs = (.error (.value (.unencodable f.refusedText)), t.addAll before) := by
  induction fs generalizing t before with
  | nil => cases before <;> cases split
  | cons g fs ih =>
    by_cases known : g.name ∈ t.rows.map (·.name)
    · rw [newcomers, if_pos known] at split
      rw [seeded_known known, ih split added]
    · rw [newcomers, if_neg known] at split
      cases before with
      | nil =>
        cases split
        exact seeded_refused known (writeFilter_of_unencodable unencodable)
      | cons h before =>
        obtain ⟨rfl, rest⟩ := List.cons.inj split
        obtain ⟨⟨encodable, unnumbered⟩, others⟩ := List.forall_mem_cons.mp added
        rw [← names_insert] at rest
        rw [seeded_new known encodable unnumbered, ih rest others]
        rfl

/-- Its names stay legible if the new filters can be encoded. -/
lemma Legible.addAll (legible : t.Legible) (encodable : ∀ f ∈ fs, f.encodable = true) :
    (t.addAll fs).Legible := by
  induction fs generalizing t with
  | nil => exact legible
  | cons f fs ih =>
    obtain ⟨first, rest⟩ := List.forall_mem_cons.mp encodable
    exact ih (legible.insert fun _ => Filter.encodable_name first) rest

end FilterTable

end Store

/-- A filter has the name that its definition shows, trimmed, and the id of its definition. -/
lemma Filter.head_of_ofJson {raw : Json} {f : Filter} (read : Filter.ofJson raw = .ok f) :
    (∃ name, raw.field "name" = .ok name ∧ f.name = Text.trim name.shown) ∧
    raw.get "id" = .ok f.id := by
  unfold Filter.ofJson at read
  simp only [bind_eq_ok_iff] at read
  obtain ⟨name, shown, read⟩ := read
  split at read
  · simp only [bind_eq_ok_iff] at read
    obtain ⟨_, impossible, -⟩ := read
    cases impossible
  · simp only [bind_eq_ok_iff] at read
    obtain ⟨_, -, id, given, _, -, _, -, _, -, _, -, _, -, _, -, _, -, _, -, _, -, _, -, _, -, _, -,
      _, -, _, -, _, -, _, -, _, -, _, -, _, -, same⟩ := read
    cases same
    exact ⟨⟨name, shown, rfl⟩, given⟩

namespace Desk

variable {definition : Json} {definitions : List Json} {f : Filter} {e : Fault}
    {names : List String}

/-- The filter that a definition adds after others where some names are taken: it is accepted, and
its name is neither taken nor that of one of the others that are accepted. -/
def added (names : List String) (before : List Json) (definition : Json) : Option Filter :=
  (Filter.ofJson definition).toOption.filter fun f => f.name ∉ names ∧
    f.name ∉ (accepted before).map (·.name)

/-- The filters that definitions add, in the order of the definitions. -/
def created (names : List String) (definitions : List Json) : List Filter :=
  definitions.zipIdx.filterMap fun (definition, i) => added names (definitions.take i) definition

/-- A definition is accepted after those before it. -/
lemma accepted_concat : accepted (definitions ++ [definition]) =
    accepted definitions ++ (Filter.ofJson definition).toOption.toList := by
  rw [accepted, List.filterMap_append, List.filterMap_cons]
  cases Filter.ofJson definition <;> rfl

/-- A definition adds its filter after those before it. -/
lemma created_concat : created names (definitions ++ [definition]) =
    created names definitions ++ (added names definitions definition).toList := by
  rw [created, List.zipIdx_append, List.filterMap_append]
  refine congrArg₂ (· ++ ·) (List.filterMap_congr fun x member => ?_) ?_
  · have early : x.2 < definitions.length := by
      simpa using List.snd_lt_add_of_mem_zipIdx member
    simp only [List.take_append_of_le_length early.le]
  · simp only [Nat.zero_add, List.zipIdx_cons, List.zipIdx_nil, List.filterMap_cons,
      List.filterMap_nil, List.take_left]
    cases added names definitions definition <;> rfl

/-- Definitions add the filters that are new among those that are accepted. -/
lemma created_eq (names : List String) (definitions : List Json) :
    created names definitions = Store.newcomers names (accepted definitions) := by
  induction definitions using List.reverseRecOn with
  | nil => rfl
  | append_singleton definitions definition ih =>
    rw [created_concat, accepted_concat, ih, added]
    cases Filter.ofJson definition with
    | error e => simp [Except.toOption]
    | ok f =>
      rw [show (Except.ok f : Except Fault Filter).toOption.toList = [f] from rfl,
        Store.newcomers_concat]
      simp only [Except.toOption, Option.filter, ← not_or]
      by_cases known : f.name ∈ names ∨ f.name ∈ (accepted definitions).map (·.name)
      · rw [if_pos known, decide_eq_false (not_not_intro known)]
        rfl
      · rw [if_neg known, decide_eq_true known]
        rfl

/-- A filter is accepted when one of the definitions is read as it. -/
lemma mem_accepted_iff :
    f ∈ accepted definitions ↔ ∃ definition ∈ definitions, Filter.ofJson definition = .ok f := by
  rw [accepted, List.mem_filterMap]
  refine exists_congr fun definition => and_congr_right fun _ => ?_
  cases Filter.ofJson definition <;> simp [Except.toOption]

/-- Filters that are created were read from definitions. -/
lemma exists_of_mem_created (new : f ∈ created names definitions) :
    ∃ definition ∈ definitions, Filter.ofJson definition = .ok f := by
  rw [created_eq] at new
  exact mem_accepted_iff.mp (Store.newcomers_subset _ _ new)

/-- Definitions that fail only by being rejected do not break. -/
lemma readable_of_rejections (rejections : ∀ definition ∈ definitions, ∀ e,
    Filter.ofJson definition = .error e → e.isRejection = true) : Readable definitions := by
  intro definition member e breaks
  obtain ⟨failed, other⟩ := Filter.breaking_ofJson_iff.mpr breaks
  cases (rejections definition member e failed).symm.trans other

end Desk

namespace Office

variable {o : Office} {t : Store.FilterTable} {definitions : List Json}

/-- Definitions none of which breaks are seeded into a table that loads as the filters of those that
are accepted. -/
lemma ends_seed_accepted (ordered : t.Ordered) (loads : t.Loads) (legible : t.Legible)
    (order : o.outages = []) (readable : Desk.Readable definitions) :
    (o.withFilters t).Ends (Desk.seed definitions) (t.seeded (Desk.accepted definitions)).1
      (o.withFilters (t.seeded (Desk.accepted definitions)).2) := by
  obtain ⟨kept, same, reads⟩ := readable.seed_eq
  rw [same]
  exact ends_seed_of_loads ordered loads legible order reads

/-- Let the table of filters have come about in any way and all of its rows load, and let
definitions without ids each be accepted or rejected. If the filters that are created can be
encoded, seeding the definitions gives the names of these, which are the trimmed names of their
definitions. They get rows of their own after the rows that are there, in their order, with the ids
that come next and without matches; and seeding the definitions again gives no names and changes
nothing. Otherwise seeding ends at the first of them that cannot be encoded with the fault of that,
after those before it were given their rows. -/
theorem seeding_is_exact_and_idempotent (table : o.filters = some t) (arises : t.Arises)
    (loads : t.Loads)
    (order : o.outages = [])
    (unnumbered : ∀ definition ∈ definitions, definition.get "id" = .ok .null)
    (rejections : ∀ definition ∈ definitions, ∀ e,
      Filter.ofJson definition = .error e → e.isRejection = true) :
    ∃ (new : List Filter) (u : Store.FilterTable),
      new = Desk.created (t.rows.map (·.name)) definitions ∧
      (∀ f ∈ new, ∃ definition ∈ definitions, Filter.ofJson definition = .ok f ∧
        ∃ name, definition.field "name" = .ok name ∧ f.name = Text.trim name.shown) ∧
      u.rows = t.rows ++ new.mapIdx (fun i f => .fresh f (t.lastId + 1 + i)) ∧
      (∀ r ∈ t.rows, r.id ≤ t.lastId) ∧
      (∀ f ∈ new, ∀ id, (Store.FilterRow.fresh f id).load =
        .ok { f with id := .int id, stats := {} }) ∧
      ((∀ f ∈ new, f.encodable = true) →
        o.Ends (Desk.seed definitions) (.ok (new.map (·.name))) (o.withFilters u) ∧
        (o.withFilters u).Ends (Desk.seed definitions) (.ok []) (o.withFilters u)) ∧
      ∀ before f after, new = before ++ f :: after → (∀ g ∈ before, g.encodable = true) →
        f.encodable = false →
        o.Ends (Desk.seed definitions) (.error (.value (.unencodable f.refusedText)))
          (o.withFilters (t.addAll before)) := by
  generalize created : Desk.created (t.rows.map (·.name)) definitions = new
  have defined (f : Filter) (member : f ∈ new) := Desk.exists_of_mem_created (created ▸ member)
  have regular : ∀ f ∈ new, f.Regular := fun f member => by
    obtain ⟨definition, -, read⟩ := defined f member
    exact Filter.regular_of_ofJson read
  have fresh : ∀ f ∈ new, f.id = .null := fun f member => by
    obtain ⟨definition, among, read⟩ := defined f member
    exact Except.ok.inj ((Filter.head_of_ofJson read).2.symm.trans (unnumbered definition among))
  have readable := Desk.readable_of_rejections rejections
  have newcomers := (Desk.created_eq (t.rows.map (·.name)) definitions).symm.trans created
  have ends := ends_seed_accepted arises.ordered loads arises.legible order readable
  rw [withFilters_self table] at ends
  refine ⟨new, t.addAll new, rfl, fun f member => ?_, Store.FilterTable.rows_addAll t new,
    arises.ordered.given, fun f member => Store.FilterRow.load_fresh (regular f member),
    fun encodable => ⟨?_, ?_⟩, fun before f after split added unencodable => ?_⟩
  · obtain ⟨definition, among, read⟩ := defined f member
    exact ⟨definition, among, read, (Filter.head_of_ofJson read).1⟩
  · rw [Store.FilterTable.seeded_eq_addAll, newcomers] at ends
    · exact ends
    · rw [newcomers]
      exact fun f member => ⟨encodable f member, fresh f member⟩
  · have none : Store.newcomers ((t.addAll new).rows.map (·.name)) (Desk.accepted definitions) =
        [] := by
      rw [Store.FilterTable.names_addAll, ← newcomers]
      exact Store.newcomers_eq_nil (Store.name_mem_of_newcomers _ _)
    have again := ends_seed_accepted (arises.ordered.addAll new) (loads.addAll regular)
      (arises.legible.addAll encodable) order readable
    rw [Store.FilterTable.seeded_eq_addAll, none] at again
    · exact again
    · rw [none]
      exact fun f member => absurd member List.not_mem_nil
  · have fits : ∀ g ∈ before, g.encodable = true ∧ g.id = .null := fun g member =>
      ⟨added g member, fresh g (split ▸ List.mem_append_left _ member)⟩
    rwa [Store.FilterTable.seeded_eq_error (newcomers.trans split) fits unencodable] at ends

namespace Sample

open Store.Sample

/-- Definitions of which one has the name of a filter that is switched off, one no name and two the
same name. -/
def assorted : List Json :=
  [.obj [("name", .str " Music ")], .obj [("name", .str "Work")], .obj [], plain,
    .obj [("name", .str "Jazz")]]

/-- Definitions of which the second has a surrogate in its name. -/
def unspelled : List Json :=
  [plain, .obj [("name", .str ("a" ++ surrogate))], .obj [("name", .str "Jazz")]]

/-- None of the definitions has an id. -/
lemma unnumbered_assorted : ∀ definition ∈ assorted, definition.get "id" = .ok .null := by
  decide +kernel

/-- Definitions that are empty or can be read are rejected at worst. -/
lemma rejections_of_some {definitions : List Json}
    (sound : ∀ definition ∈ definitions, definition = .obj [] ∨
      (Filter.ofJson definition).toOption.isSome) :
    ∀ definition ∈ definitions, ∀ e,
      Filter.ofJson definition = .error e → e.isRejection = true := by
  intro definition member e failed
  obtain rfl | read := sound definition member
  · cases failed
    rfl
  · rw [failed] at read
    cases read

end Sample

open Sample Store.Sample in
/-- Two of five definitions are created, below a filter that is switched off; another time none is.
A definition whose name is a surrogate ends the seeding, before the one after it is created. -/
theorem seeding_is_exact_and_idempotent_assorted :
    twoRows.Arises ∧ twoRows.Loads ∧
    (∃ u : Store.FilterTable, u.rows = twoRows.rows ++
      [.fresh music 3, .fresh { music with name := "Jazz" } 4] ∧
      stocked.Ends (Desk.seed assorted) (.ok ["Music", "Jazz"]) (stocked.withFilters u) ∧
      (stocked.withFilters u).Ends (Desk.seed assorted) (.ok []) (stocked.withFilters u)) ∧
    stocked.Ends (Desk.seed unspelled) (.error (.value (.unencodable ("a" ++ surrogate))))
      (stocked.withFilters (twoRows.addAll [music])) := by
  have written : twoRows.Written := ⟨calls, typed_calls, writeAll_calls⟩
  have loads := written.tended.loads
  obtain ⟨new, u, created, -, rows, -, -, whole, -⟩ :=
    seeding_is_exact_and_idempotent (o := stocked) rfl written.arises loads rfl unnumbered_assorted
      (rejections_of_some (by decide +kernel))
  have two : Desk.created (twoRows.rows.map (·.name)) assorted =
      [music, { music with name := "Jazz" }] := by
    decide +kernel
  obtain rfl := created.trans two
  obtain ⟨first, again⟩ := whole (by decide +kernel)
  have unnumbered : ∀ definition ∈ unspelled, definition.get "id" = .ok .null := by decide +kernel
  obtain ⟨new, -, created', -, -, -, -, -, broken⟩ :=
    seeding_is_exact_and_idempotent (o := stocked) rfl written.arises loads rfl unnumbered
      (rejections_of_some (by decide +kernel))
  have split : Desk.created (twoRows.rows.map (·.name)) unspelled =
      [music] ++ { music with name := "a" ++ surrogate } :: [{ music with name := "Jazz" }] := by
    decide +kernel
  exact ⟨written.arises, loads, ⟨u, rows, first, again⟩,
    broken _ _ _ (created'.trans split) (by decide +kernel) (by decide +kernel)⟩

end Office

end ChatTriage
