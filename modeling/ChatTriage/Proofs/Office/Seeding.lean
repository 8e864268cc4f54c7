import ChatTriage.Desk.Seeding
import ChatTriage.Proofs.Office.Tables
import ChatTriage.Proofs.Store.Tended

/-!
# What seeding does to the filters

Each definition whose name is free is stored. One without an id gets a row of its own; but one with
an id is written over the row that has it, or fails when there is no such row, and one that cannot
be encoded fails. So seeding only adds to the table exactly when none of the definitions that are
new (`newcomers`) has an id and all of them can be encoded.
-/

namespace ChatTriage

namespace Store

variable {r : FilterRow} {t u : FilterTable} {f : Filter} {fs : List Filter}

namespace FilterTable

/-- The table after filters were seeded into it, and the names of those that were stored. -/
def seeded (t : FilterTable) : List Filter → Except Fault (List String) × FilterTable
  | [] => (.ok [], t)
  | f :: fs =>
    if t.rows.any (·.name = f.name) then t.seeded fs
    else
      match writeFilter (some t) f with
      | .ok (u, _) => ((u.seeded fs).1.map (f.name :: ·), (u.seeded fs).2)
      | .error e => (.error e, t)

/-- The table with rows for new filters. -/
def addAll (t : FilterTable) (fs : List Filter) : FilterTable :=
  fs.foldl (fun t f => t.insert (.fresh f)) t

/-- A name is taken when it is among the names of the rows. -/
lemma any_named : (t.rows.any (·.name = f.name)) = true ↔ f.name ∈ t.rows.map (·.name) := by
  simp only [List.any_eq_true, decide_eq_true_eq, List.mem_map]

/-- A filter whose name is taken is passed over. -/
lemma seeded_known (known : f.name ∈ t.rows.map (·.name)) : t.seeded (f :: fs) = t.seeded fs := by
  rw [seeded, if_pos (any_named.mpr known)]

/-- A filter that is written comes before the others. -/
lemma seeded_written {cell : Cell} (free : f.name ∉ t.rows.map (·.name))
    (written : writeFilter (some t) f = .ok (u, cell)) :
    t.seeded (f :: fs) = ((u.seeded fs).1.map (f.name :: ·), (u.seeded fs).2) := by
  rw [seeded, if_neg fun is => free (any_named.mp is), written]

/-- A filter that is refused ends the seeding. -/
lemma seeded_refused {e : Fault} (free : f.name ∉ t.rows.map (·.name))
    (refused : writeFilter (some t) f = .error e) : t.seeded (f :: fs) = (.error e, t) := by
  rw [seeded, if_neg fun is => free (any_named.mp is), refused]

/-- A name that cannot be encoded is refused when the filter would be written, as it is when the
name is looked up. -/
lemma seeded_of_name (free : f.name ∉ t.rows.map (·.name))
    (unencodable : Text.encodable f.name = false) :
    t.seeded (f :: fs) = (.error (.value (.unencodable f.name)), t) := by
  have whole : f.encodable = false := by rw [Filter.encodable, unencodable, Bool.false_and]
  have text : f.refusedText = f.name := by
    rw [Filter.refusedText, unencodable, if_neg Bool.false_ne_true]
  rw [seeded_refused free (writeFilter_of_unencodable whole), text]

end FilterTable

/-- The filters whose name is neither among given names nor that of an earlier one. -/
def newcomers (names : List String) : List Filter → List Filter
  | [] => []
  | f :: fs => if f.name ∈ names then newcomers names fs else f :: newcomers (names ++ [f.name]) fs

/-- Whether a filter is new has nothing to do with those that come after it. -/
lemma newcomers_take_prefix (names : List String) (fs : List Filter) (n : Nat) :
    newcomers names (fs.take n) <+: newcomers names fs := by
  induction fs generalizing names n with
  | nil => simp
  | cons f fs ih =>
    cases n with
    | zero => exact List.nil_prefix
    | succ n =>
      rw [List.take_succ_cons]
      by_cases known : f.name ∈ names
      · simp only [newcomers, if_pos known]
        exact ih names n
      · simp only [newcomers, if_neg known]
        exact (List.prefix_cons_inj f).mpr (ih _ n)

namespace FilterTable

/-- Adding rows leaves those that are there. -/
lemma prefix_addAll (t : FilterTable) (fs : List Filter) : t.rows <+: (t.addAll fs).rows := by
  induction fs generalizing t with
  | nil => exact List.prefix_rfl
  | cons f fs ih => exact (List.prefix_append t.rows _).trans (ih (t.insert (.fresh f)))

/-- Adding fewer filters gives fewer rows. -/
lemma addAll_prefix {front : List Filter} (first : front <+: fs) :
    (t.addAll front).rows <+: (t.addAll fs).rows := by
  obtain ⟨rest, rfl⟩ := first
  rw [addAll, addAll, List.foldl_append]
  exact prefix_addAll _ rest

/-- A new row has the name of its filter. -/
lemma names_insert : (t.insert (.fresh f)).rows.map (·.name) = t.rows.map (·.name) ++ [f.name] :=
  List.map_append

/-- A new filter that can be encoded and has no id is added before the others are seeded. -/
lemma seeded_new (free : f.name ∉ t.rows.map (·.name)) (encodable : f.encodable = true)
    (new : f.id = .null) : t.seeded (f :: fs) =
      (((t.insert (.fresh f)).seeded fs).1.map (f.name :: ·),
        ((t.insert (.fresh f)).seeded fs).2) := by
  have untaken : t.nameTaken f.name .null = false :=
    nameTaken_eq_false_iff.mpr fun r member same =>
      absurd (List.mem_map.mpr ⟨r, member, same⟩) free
  exact seeded_written free (writeFilter_eq_ok_iff.mpr ⟨encodable, .inl ⟨new, untaken, rfl, rfl⟩⟩)

/-- New filters that can be encoded and have no ids are all added. -/
lemma seeded_eq_addAll (new : ∀ f ∈ newcomers (t.rows.map (·.name)) fs,
    f.encodable = true ∧ f.id = .null) :
    t.seeded fs = (.ok ((newcomers (t.rows.map (·.name)) fs).map (·.name)),
      t.addAll (newcomers (t.rows.map (·.name)) fs)) := by
  induction fs generalizing t with
  | nil => rfl
  | cons f fs ih =>
    by_cases known : f.name ∈ t.rows.map (·.name)
    · simp only [newcomers, if_pos known] at new ⊢
      rw [seeded_known known, ih new]
    · simp only [newcomers, if_neg known] at new ⊢
      obtain ⟨⟨encodable, unnumbered⟩, rest⟩ := List.forall_mem_cons.mp new
      -- what is new among the others is told from the names of the table with its new row
      rw [← names_insert] at rest ⊢
      rw [seeded_new known encodable unnumbered, ih rest]
      rfl

/-- Where seeding succeeds and no row is changed on the way, each new filter can be encoded and has
no id. -/
lemma new_of_seeded {names : List String} (succeeds : (t.seeded fs).1 = .ok names)
    (grows : ∀ n, (t.seeded (fs.take n)).2.rows <+: (t.seeded fs).2.rows) :
    ∀ f ∈ newcomers (t.rows.map (·.name)) fs, f.encodable = true ∧ f.id = .null := by
  induction fs generalizing t names with
  | nil => exact fun _ none => absurd none List.not_mem_nil
  | cons f fs ih =>
    have later (n : Nat) := grows (n + 1)
    simp only [List.take_succ_cons] at later
    by_cases known : f.name ∈ t.rows.map (·.name)
    · simp only [newcomers, if_pos known]
      simp only [seeded_known known] at succeeds later
      exact ih succeeds later
    · cases written : writeFilter (some t) f with
      | error e =>
        rw [seeded_refused known written] at succeeds
        cases succeeds
      | ok x =>
        obtain ⟨u, cell⟩ := x
        have start := grows 0
        have second := later 0
        simp only [seeded_written known written] at succeeds later start second
        obtain ⟨encodable, ⟨new, -, rfl, -⟩ | ⟨-, -, there, -, rfl⟩⟩ :=
          writeFilter_eq_ok_iff.mp written
        · simp only [newcomers, if_neg known, ← names_insert]
          cases rest : ((t.insert (.fresh f)).seeded fs).1 with
          | error e =>
            rw [rest] at succeeds
            cases succeeds
          | ok others => exact List.forall_mem_cons.mpr ⟨⟨encodable, new⟩, ih rest later⟩
        · -- the row that was redefined has a name that none of the rows had
          have same : t.rows = (t.updateRows cell (·.redefined f)).rows := by
            have length : t.rows.length = (t.updateRows cell (·.redefined f)).rows.length :=
              (List.length_map _).symm
            exact (List.prefix_of_prefix_length_le start second length.le).eq_of_length length
          obtain ⟨r, among⟩ := List.exists_mem_of_ne_nil _ there
          obtain ⟨member, own⟩ := List.mem_filter.mp among
          refine absurd ?_ known
          rw [same]
          exact List.mem_map.mpr ⟨r.redefined f, List.mem_map.mpr ⟨r, member, if_pos own⟩, rfl⟩

end FilterTable

/-- A free name is not refused as a duplicate. -/
lemma FilterWrite.Refused.ne_duplicate {e : Fault} {cause : DuplicateFault}
    (refused : FilterWrite.Refused t (.save f) e) (free : f.name ∉ t.rows.map (·.name)) :
    e ≠ .duplicate cause := by
  cases refused with
  | taken _ _ member named => exact absurd (List.mem_map.mpr ⟨_, member, named⟩) free
  | unencodable => nofun
  | absent => nofun
  | unbound _ _ unbound =>
    unfold Cell.bind at unbound
    split at unbound
    · cases unbound
    all_goals
      cases unbound
      nofun

end Store

namespace Desk

variable {definition : Json} {definitions : List Json} {f : Filter}

/-- An accepted definition is seeded before the others. -/
lemma seed_cons (accepted : Filter.ofJson definition = .ok f) :
    seed (definition :: definitions) = (do
      let created ← storeNew f
      let names ← seed definitions
      return if created then f.name :: names else names) := by
  have acceptable : acceptable? definition = .ok (some f) := by
    unfold acceptable?
    rw [accepted]
  rw [seed, acceptable]
  rfl

end Desk

namespace Office

variable {α β : Type} {o : Office} {t : Store.FilterTable} {f : Filter} {fs : List Filter}
  {definitions : List Json}

/-- Tasks are carried out one after the other, until one fails. -/
lemma carryOut_bind {task : Desk.Task α} {next : α → Desk.Task β} :
    carryOut (task >>= next) = (do
      match ← carryOut task with
      | .ok a => carryOut (next a)
      | .error e => return .error e) := by
  refine (Dialogue.run_bind (S := Desk.service) answer (ExceptT.run task) _).trans ?_
  refine congrArg (Bind.bind (carryOut task)) (funext fun r => ?_)
  cases r <;> rfl

/-- A task that is carried out without asking the world ends with a result and leaves an office. -/
def Ends (o : Office) (task : Desk.Task α) (r : Except Fault α) (o' : Office) : Prop :=
  StateT.run (carryOut task) o = .done (r, o')

/-- A task that ends may be followed by another. -/
lemma Ends.bind {o₁ o₂ : Office} {task : Desk.Task α} {next : α → Desk.Task β} {a : α}
    {r : Except Fault β}
    (first : o.Ends task (.ok a) o₁) (second : o₁.Ends (next a) r o₂) :
    o.Ends (task >>= next) r o₂ := by
  unfold Ends at *
  rw [carryOut_bind, StateT.run_bind, first]
  exact second

/-- A task that fails ends what it begins. -/
lemma Ends.fail {o₁ : Office} {task : Desk.Task α} {next : α → Desk.Task β} {e : Fault}
    (first : o.Ends task (.error e) o₁) : o.Ends (task >>= next) (.error e) o₁ := by
  unfold Ends at *
  rw [carryOut_bind, StateT.run_bind, first]
  rfl

/-- A result ends at once. -/
lemma Ends.pure (a : α) : o.Ends (pure a) (.ok a) o := rfl

/-- A filter whose name is taken is not stored. -/
lemma ends_storeNew_known {g : Filter} (found : o.filterNamed f.name = .ok (some g)) :
    o.Ends (Desk.storeNew f) (.ok false) o := by
  have first : o.Ends (Desk.ask (.filterNamed f.name)) (.ok (o.filterNamed f.name)) o := rfl
  refine first.bind ?_
  rw [found]
  rfl

/-- A filter that cannot be looked up is not stored. -/
lemma ends_storeNew_fails {e : Fault} (failed : o.filterNamed f.name = .error e) :
    o.Ends (Desk.storeNew f) (.error e) o := by
  have first : o.Ends (Desk.ask (.filterNamed f.name)) (.ok (o.filterNamed f.name)) o := rfl
  refine first.bind ?_
  rw [failed]
  rfl

/-- A filter whose name is free is stored, or its storing fails. -/
lemma ends_storeNew_free (found : o.filterNamed f.name = .ok none) :
    (∀ g, (o.saveFilter f).1 = .ok g → o.Ends (Desk.storeNew f) (.ok true) (o.saveFilter f).2) ∧
    ∀ e, (o.saveFilter f).1 = .error e → (∀ cause, e ≠ .duplicate cause) →
      o.Ends (Desk.storeNew f) (.error e) (o.saveFilter f).2 := by
  have first : o.Ends (Desk.ask (.filterNamed f.name)) (.ok (o.filterNamed f.name)) o := rfl
  have second : o.Ends (Desk.ask (.storeFilter f)) (.ok (o.saveFilter f).1)
    (o.saveFilter f).2 := rfl
  constructor
  · intro g saved
    refine first.bind ?_
    rw [found]
    refine second.bind ?_
    rw [saved]
    rfl
  · intro e failed other
    refine first.bind ?_
    rw [found]
    refine second.bind ?_
    rw [failed]
    cases e with
    | duplicate cause => exact absurd rfl (other cause)
    | _ => rfl

/-- The office with another table of filters. -/
def withFilters (o : Office) (t : Store.FilterTable) : Office :=
  { o with filters := some t }

/-- An office has its own table. -/
lemma withFilters_self (table : o.filters = some t) : o.withFilters t = o := by
  unfold withFilters
  rw [← table]

/-- In a table that loads, seeding acceptable definitions does to it what seeding their filters into
it does. -/
lemma ends_seed_of_loads (ordered : t.Ordered) (loads : t.Loads) (legible : t.Legible)
    (order : o.outages = [])
    (accepted :
      List.Forall₂ (fun definition f => Filter.ofJson definition = .ok f) definitions fs) :
    (o.withFilters t).Ends (Desk.seed definitions) (t.seeded fs).1
      (o.withFilters (t.seeded fs).2) := by
  have inOrder {β : Type} (t : Store.FilterTable) (operation : Operation) (x : Except Fault β) :
      (o.withFilters t).unlessOut operation x = x :=
    unlessOut_eq order
  induction accepted generalizing t with
  | nil => exact .pure []
  | @cons definition f definitions fs first _ ih =>
    have regular := Filter.regular_of_ofJson first
    have named : (o.withFilters t).filterNamed f.name = Store.filterNamed (some t) f.name :=
      inOrder ..
    have saves {u result} (saved : Store.saveFilter (some t) f = (some u, result)) :
        (o.withFilters t).saveFilter f = (result, o.withFilters u) := by
      unfold saveFilter
      rw [inOrder]
      simp only
      rw [show (o.withFilters t).filters = some t from rfl, saved]
      rfl
    rw [Desk.seed_cons first]
    by_cases known : f.name ∈ t.rows.map (·.name)
    · obtain ⟨r, member, same⟩ := List.mem_map.mp known
      obtain ⟨g, found⟩ := loads.filterNamed_of_mem (same ▸ legible r member) known
      rw [Store.FilterTable.seeded_known known]
      refine (ends_storeNew_known (named.trans found)).bind ?_
      cases result : (t.seeded fs).1 with
      | ok names => exact (result ▸ ih ordered loads legible).bind (.pure names)
      | error e => exact (result ▸ ih ordered loads legible).fail
    · have absent : ∀ r ∈ t.rows, r.name ≠ f.name :=
        fun r member own => known (List.mem_map.mpr ⟨r, member, own⟩)
      cases encodable : Text.encodable f.name with
      | false =>
        have failed := named.trans (Store.filterNamed_of_unencodable encodable)
        rw [Store.FilterTable.seeded_of_name known encodable]
        exact (ends_storeNew_fails failed).fail
      | true =>
        have free := named.trans (Store.FilterTable.filterNamed_of_absent encodable absent)
        cases written : Store.writeFilter (some t) f with
        | error e =>
          have refused := Store.writeFilter_eq_error_iff.mp written
          have same : Store.saveFilter (some t) f = (some t, .error e) := by
            simp only [Store.saveFilter, written]
          have saved := saves same
          rw [Store.FilterTable.seeded_refused known written]
          have fails := (ends_storeNew_free free).2 e (by rw [saved]) fun cause =>
            refused.ne_duplicate known
          rw [saved] at fails
          exact fails.fail
        | ok x =>
          obtain ⟨u, cell⟩ := x
          have later := loads.writeFilter regular written
          obtain ⟨g, read⟩ := loads.readBack ordered regular written
          have same : Store.saveFilter (some t) f = (some u, .ok g) := by
            simp only [Store.saveFilter, written, read]
          obtain ⟨_, ⟨⟩, ordered'⟩ := ordered.saveFilter same
          have legible' := legible.writeFilter written
          have saved := saves same
          rw [Store.FilterTable.seeded_written known written]
          have stores := (ends_storeNew_free free).1 g (by rw [saved])
          rw [saved] at stores
          refine stores.bind ?_
          cases result : (u.seeded fs).1 with
          | ok names => exact (result ▸ ih ordered' later legible').bind (.pure _)
          | error e => exact (result ▸ ih ordered' later legible').fail

/-- In a tended table seeding does what seeding the filters does. -/
lemma ends_seed (tended : t.Tended) (order : o.outages = [])
    (accepted :
      List.Forall₂ (fun definition f => Filter.ofJson definition = .ok f) definitions fs) :
    (o.withFilters t).Ends (Desk.seed definitions) (t.seeded fs).1
      (o.withFilters (t.seeded fs).2) :=
  ends_seed_of_loads tended.ordered tended.loads tended.legible order accepted

/-- A task that ends has one run. -/
lemma Ends.runs_iff {task : Desk.Task α} {r r' : Except Fault α} {o₁ o' : Office} {world : World}
    (ends : o.Ends task r o₁) :
    Act.Runs (carryOut task) o world r' o' ↔ world = [] ∧ r' = r ∧ o' = o₁ := by
  unfold Act.Runs
  rw [ends, Dialogue.runs_done_iff, Prod.mk.injEq]

/-- Seeding definitions ends with a result, asks nothing of the world and leaves the office with a
table. -/
def Seeded (o : Office) (definitions : List Json) (r : Except Fault (List String))
    (t : Store.FilterTable) :
    Prop :=
  Act.Runs (carryOut (Desk.seed definitions)) o [] r (o.withFilters t)

/-- So it does in an office with that table. -/
lemma ends_seed_of_table (table : o.filters = some t) (tended : t.Tended) (order : o.outages = [])
    (accepted :
      List.Forall₂ (fun definition f => Filter.ofJson definition = .ok f) definitions fs) :
    o.Ends (Desk.seed definitions) (t.seeded fs).1 (o.withFilters (t.seeded fs).2) := by
  have seeds := ends_seed tended order accepted
  rwa [withFilters_self table] at seeds

/-- Seeding acceptable definitions ends as their filters are seeded into the table. -/
lemma seeded_iff {r : Except Fault (List String)} {u : Store.FilterTable}
    (table : o.filters = some t)
    (tended : t.Tended) (order : o.outages = [])
    (accepted :
      List.Forall₂ (fun definition f => Filter.ofJson definition = .ok f) definitions fs) :
    o.Seeded definitions r u ↔ t.seeded fs = (r, u) := by
  rw [Seeded, (ends_seed_of_table table tended order accepted).runs_iff]
  constructor
  · rintro ⟨-, rfl, same⟩
    cases congrArg Office.filters same
    rfl
  · intro same
    rw [same]
    exact ⟨rfl, rfl, rfl⟩

/-- Seeding definitions only adds: it does not fail, and the rows that are there when it comes to
any of the definitions are still there, unchanged, when it is done. -/
def SeedsOnlyAdd (o : Office) (definitions : List Json) : Prop :=
  ∃ names t, o.Seeded definitions (.ok names) t ∧
    ∀ n, ∃ r u, o.Seeded (definitions.take n) r u ∧ u.rows <+: t.rows

/-- Seeding acceptable definitions into a table that the program has written only adds to it exactly
when none of the filters that are new has an id and all of them can be encoded. Then each of these
gets a row of its own, and their names are given. -/
theorem seeding_only_adds_iff (table : o.filters = some t) (written : t.Written)
    (order : o.outages = [])
    (accepted :
      List.Forall₂ (fun definition f => Filter.ofJson definition = .ok f) definitions fs) :
    (∃ r u, ∀ world r' o', Act.Runs (carryOut (Desk.seed definitions)) o world r' o' ↔
      world = [] ∧ r' = r ∧ o' = o.withFilters u) ∧
    (o.SeedsOnlyAdd definitions ↔
      ∀ f ∈ Store.newcomers (t.rows.map (·.name)) fs, f.encodable = true ∧ f.id = .null) ∧
    ((∀ f ∈ Store.newcomers (t.rows.map (·.name)) fs, f.encodable = true ∧ f.id = .null) →
      o.Seeded definitions (.ok ((Store.newcomers (t.rows.map (·.name)) fs).map (·.name)))
        (t.addAll (Store.newcomers (t.rows.map (·.name)) fs))) := by
  have ends := ends_seed_of_table table written.tended order accepted
  have all {r u} := seeded_iff (r := r) (u := u) table written.tended order accepted
  have front (n : Nat) {r u} :=
    seeded_iff (r := r) (u := u) table written.tended order (List.forall₂_take n accepted)
  refine ⟨⟨_, _, fun world r' o' => ends.runs_iff⟩, ⟨?_, fun new => ?_⟩, fun new => ?_⟩
  · rintro ⟨names, u, done, grows⟩
    rw [all] at done
    refine Store.FilterTable.new_of_seeded (congrArg Prod.fst done) fun n => ?_
    obtain ⟨r, v, some, longer⟩ := grows n
    rw [front n] at some
    rw [some, done]
    exact longer
  · refine ⟨_, _, all.mpr (Store.FilterTable.seeded_eq_addAll new), fun n => ?_⟩
    have earlier := Store.newcomers_take_prefix (t.rows.map (·.name)) fs n
    have some := fun f member => new f (earlier.subset member)
    refine ⟨_, _, (front n).mpr (Store.FilterTable.seeded_eq_addAll some), ?_⟩
    exact Store.FilterTable.addAll_prefix earlier
  · exact all.mpr (Store.FilterTable.seeded_eq_addAll new)

namespace Sample

open Store.Sample

/-- An office with a table of two filters. -/
def stocked : Office :=
  { filters := some twoRows }

/-- A definition with the id of the second filter. -/
def claiming : Json :=
  .obj [("id", .int 2), ("name", .str "Other")]

end Sample

open Sample Store.Sample in
/-- A definition without an id is added; one with the id of a filter is written over that filter and
reported as created. -/
theorem seeding_overwrites_row_with_id :
    stocked.filters = some twoRows ∧ twoRows.Written ∧ stocked.outages = [] ∧
    stocked.SeedsOnlyAdd [.obj [("name", .str "Play")]] ∧
    ¬ stocked.SeedsOnlyAdd [claiming] ∧
    stocked.Seeded [claiming] (.ok ["Other"])
      (twoRows.updateRows (.int 2) (·.redefined { play with id := .int 2, name := "Other" })) := by
  have written : twoRows.Written := ⟨calls, typed_calls, writeAll_calls⟩
  have known : Filter.ofJson (.obj [("name", .str "Play")]) = .ok play := by decide +kernel
  have other : Filter.ofJson claiming = .ok { play with id := .int 2, name := "Other" } := by
    decide +kernel
  obtain ⟨-, adds, -⟩ := seeding_only_adds_iff (o := stocked) rfl written rfl (.cons known .nil)
  obtain ⟨-, overwrites, -⟩ :=
    seeding_only_adds_iff (o := stocked) rfl written rfl (.cons other .nil)
  refine ⟨rfl, written, rfl, adds.mpr ?_, fun only => ?_, ?_⟩
  · decide +kernel
  · have none := overwrites.mp only
    exact absurd none (by decide +kernel)
  · have overwritten : twoRows.seeded [{ play with id := .int 2, name := "Other" }] =
        (.ok ["Other"],
        twoRows.updateRows (.int 2) (·.redefined { play with id := .int 2, name := "Other" })) := by
      decide +kernel
    have ends := ends_seed (o := stocked) written.tended rfl (.cons other .nil)
    rw [overwritten] at ends
    exact ends.runs_iff.mpr ⟨rfl, rfl, rfl⟩

end Office

end ChatTriage
