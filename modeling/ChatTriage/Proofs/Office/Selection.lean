import Mathlib.Data.List.Forall2
import ChatTriage.Proofs.Office.Outsiders
import ChatTriage.Proofs.Store.Ordered

/-!
# What the matching stores

The filters that accept a message are counted one after the other. When they have ids of their own,
each count that goes well writes the stats of one row, and none writes anything else, so that in the
end a row has the stats that its own filter was counted with, or is as it was.
-/

namespace ChatTriage.Office

open Store (FilterRow FilterTable)

/-- Whatever else becomes of an office, the table of filters stays as it is. -/
def SparesFilters (o o' : Office) : Prop :=
  o'.filters = o.filters

/-- What counts make of a row: the stats of its filter are one match more than the filter showed, at
the time of its count, if that was stored, and nothing else is changed. -/
inductive Retold (tallied : List (Filter × Desk.Tally)) (r : FilterRow) : FilterRow → Prop where
  | counted {f now} :
    (f, some (now, .ok ())) ∈ tallied →
    f.id = .int r.id →
    Retold tallied r (r.counted ⟨f.stats.matched + 1, some now⟩)
  | left :
    (∀ f now, (f, some (now, .ok ())) ∈ tallied → f.id ≠ .int r.id) →
    Retold tallied r r

variable {zone : Zone} {m : Message} {f : Filter} {filters accepting : List Filter}
    {tallies : List Desk.Tally}
  {tally : Desk.Tally} {o o' : Office} {t : FilterTable} {log : Desk.Log} {r s : FilterRow}
  {tallied : List (Filter × Desk.Tally)}

/-- A count that nothing was stored for makes no difference to any row. -/
lemma Retold.cons_unstored (retold : Retold tallied r s)
    (unstored : ∀ now, tally ≠ some (now, .ok ())) :
    Retold ((f, tally) :: tallied) r s := by
  cases retold with
  | counted stored own => exact .counted (.tail _ stored) own
  | left none =>
    refine .left fun g now member => ?_
    obtain same | later := List.mem_cons.mp member
    · cases same
      exact absurd rfl (unstored now)
    · exact none g now later

/-- The row of the filter that is counted first is not written again. -/
lemma Retold.cons_stored {now : DateTime} (own : f.id = .int r.id)
    (apart : ∀ x ∈ tallied, x.1.id ≠ .int r.id)
    (retold : Retold tallied (r.counted ⟨f.stats.matched + 1, some now⟩) s) :
    Retold ((f, some (now, .ok ())) :: tallied) r s := by
  cases retold with
  | counted stored is => exact absurd is (apart _ stored)
  | left => exact .counted (.head _) own

/-- A row is not written when another filter is counted. -/
lemma Retold.cons_other (other : f.id ≠ .int r.id) (retold : Retold tallied r s) :
    Retold ((f, tally) :: tallied) r s := by
  cases retold with
  | counted stored own => exact .counted (.tail _ stored) own
  | left none =>
    refine .left fun g now member => ?_
    obtain same | later := List.mem_cons.mp member
    · cases same
      exact other
    · exact none g now later

/-- Counting a match stores the stats in the rows with the id of the filter, or leaves the table as
it is. -/
lemma filters_of_tallied {n : Int} {now : DateTime} {answer : Except Fault Unit}
    {stats : FilterStats}
    (serves : ServesAmid SparesFilters o [⟨.now, now⟩, ⟨.storeStats (.int n) stats, answer⟩] o')
    (filters : o.filters = some t) :
    (answer = .ok () ∧ o'.filters = some (t.count (.int n) stats)) ∨
      ∃ e, answer = .error e ∧ o'.filters = some t := by
  cases serves with
  | cons spared asked rest =>
    obtain ⟨-, rfl⟩ := Act.runs_ask_iff.mp asked
    cases rest with
    | @cons _ o₁ _ _ _ _ _ _ sparedStill told last =>
      cases last
      have still : o₁.filters = some t := Eq.trans sparedStill (Eq.trans spared filters)
      obtain ⟨-, stored⟩ := Act.runs_change_iff.mp told
      obtain ⟨e, failed⟩ | ⟨u, cell, table, bound, done⟩ := o₁.updateFilter_ofStats (.int n) stats
      · cases stored.trans failed
        exact .inr ⟨e, rfl, still⟩
      · cases stored.trans done
        cases still.symm.trans table
        rw [Store.Cell.bind_int] at bound
        split at bound
        · cases bound
          exact .inl ⟨rfl, rfl⟩
        · cases bound

/-- Counts of filters with ids of their own write each row at most once. -/
lemma retold_of_tallies (each : Desk.Each Desk.Tallied accepting log tallies)
    (ids : ∀ f ∈ accepting, f.id = .null ∨ ∃ n, f.id = .int n)
    (distinct : accepting.Pairwise fun f g => f.id = .null ∨ f.id ≠ g.id)
    (serves : ServesAmid SparesFilters o log o') (filters : o.filters = some t) :
    ∃ u, o'.filters = some u ∧ u.lastId = t.lastId ∧
      List.Forall₂ (Retold (accepting.zip tallies)) t.rows u.rows := by
  induction each generalizing o t with
  | nil =>
    cases serves
    exact ⟨t, filters, rfl, List.forall₂_same.mpr fun r _ => .left fun f now none =>
      absurd none List.not_mem_nil⟩
  | @cons f accepting log₁ log₂ tally tallies first _ ih =>
    obtain ⟨o₁, counting, rest⟩ := servesAmid_append_iff.mp serves
    obtain ⟨own, ids⟩ := List.forall_mem_cons.mp ids
    obtain ⟨apart, distinct⟩ := List.pairwise_cons.mp distinct
    cases first with
    | unknown =>
      cases counting
      obtain ⟨u, table, lastId, rows⟩ := ih ids distinct rest filters
      exact ⟨u, table, lastId, rows.imp fun r s retold => retold.cons_unstored nofun⟩
    | @tried now answer known =>
      obtain ⟨n, own⟩ := own.resolve_left known
      rw [own] at counting
      obtain ⟨rfl, counted⟩ | ⟨e, rfl, same⟩ := filters_of_tallied counting filters
      · obtain ⟨u, table, lastId, rows⟩ := ih ids distinct rest counted
        refine ⟨u, table, lastId, ?_⟩
        refine (List.forall₂_map_left_iff.mp rows).imp fun r s retold => ?_
        by_cases hit : n = r.id
        · rw [if_pos (Store.Cell.isId_int.mpr hit)] at retold
          subst hit
          refine retold.cons_stored own fun x member is => ?_
          exact (apart x.1 (List.of_mem_zip member).1).elim known fun ne => ne (own.trans is.symm)
        · rw [if_neg fun is => hit (Store.Cell.isId_int.mp is)] at retold
          exact retold.cons_other fun is => hit (Json.int.inj (own.symm.trans is))
      · obtain ⟨u, table, lastId, rows⟩ := ih ids distinct rest same
        exact ⟨u, table, lastId, rows.imp fun r s retold => retold.cons_unstored nofun⟩

/-- The matching selects filters one by one. When the filters have ids of their own, or none, it
always comes to an end, and however the store fails to count matches, it finds the filters that
accept the message, in their order, also beside filters that fail to be asked. Each of them is
counted in turn, if it has an id, and nothing else is asked. While nobody else writes the filters,
each row is afterwards what it was, or it has the stats of the filter with its id, one match more
than the filter showed and at the time of its count, if this filter accepts the message and its
count was stored. -/
theorem matching_isolates (ids : ∀ f ∈ filters, f.id = .null ∨ ∃ n, f.id = .int n)
    (distinct : filters.Pairwise fun f g => f.id = .null ∨ f.id ≠ g.id) :
    (∀ tell, ∃ log r, Dialogue.Told tell [] log ∧
      Desk.Task.Runs (Desk.matchAll zone m filters) log r) ∧
    ∀ log r, Desk.Task.Runs (Desk.matchAll zone m filters) log r → Desk.OnlyStoreMiscounts log →
      r = .ok (filters.filter (Desk.takes zone m)) ∧
      ∃ tallies, Desk.Each Desk.Tallied (filters.filter (Desk.takes zone m)) log tallies ∧
        ∀ o o' t, ServesAmid SparesFilters o log o' → o.filters = some t →
          ∃ u, o'.filters = some u ∧ u.lastId = t.lastId ∧
            List.Forall₂ (Retold ((filters.filter (Desk.takes zone m)).zip tallies)) t.rows
              u.rows := by
  refine ⟨fun tell => ?_, fun log r run miscounts => ⟨Desk.runs_matchAll run miscounts, ?_⟩⟩
  · exact Dialogue.exists_run (ExceptT.run (Desk.matchAll zone m filters)) tell []
  · obtain ⟨tallies, each, -⟩ := Desk.runs_matchAll_iff.mp run
    refine ⟨tallies, each,
      fun o o' t serves table => retold_of_tallies each ?_ (distinct.filter _) serves table⟩
    exact fun f member => ids f (List.mem_filter.mp member).1

namespace Sample

open Desk.Sample (order greeting filing morning)

/-- A filter that cannot be asked: its hours begin with a number. -/
def untimely : Filter :=
  { greeting with id := .int 3, name := "untimely", timeRange := some ⟨.int 9, .str "17:00", []⟩ }

/-- A filter that was never stored. -/
def unstored : Filter :=
  { greeting with id := .null, name := "unstored" }

/-- What is asked about the filters, of which the first cannot be counted. -/
def miscounted : Desk.Log := [
  ⟨.now, morning⟩,
    ⟨.storeStats (.int 1) ⟨1, some morning⟩, .error (.store (.reported "database is locked"))⟩,
  ⟨.now, morning⟩, ⟨.storeStats (.int 2) ⟨1, some morning⟩, .ok ()⟩]

/-- An office in which matches cannot be counted. -/
def uncounting (o : Office) : Office :=
  { o with outages := [(.updateFilter, .store (.reported "database is locked"))] }

/-- The office after the second filter was counted. -/
def counted : Office :=
  (ruled.updateFilter (.int 2) [.ofStats ⟨1, some morning⟩]).2

/-- The office serves what was miscounted. -/
lemma serves_miscounted : ServesAmid SparesFilters ruled miscounted counted := by
  have told (o : Office) : Act.Runs (answer .now) o [⟨.now, morning⟩] morning o :=
    Act.runs_ask_iff.mpr ⟨rfl, rfl⟩
  have goes : (ruled.updateFilter (.int 2) [.ofStats ⟨1, some morning⟩]).1 = .ok () := by
    decide +kernel
  have counts : Act.Runs (answer (.storeStats (.int 2) ⟨1, some morning⟩)) ruled []
      (.ok ()) counted :=
    Act.runs_change_iff.mpr ⟨rfl, Prod.ext goes.symm rfl⟩
  have fails : Act.Runs (answer (.storeStats (.int 1) ⟨1, some morning⟩)) (uncounting ruled) []
      (.error (.store (.reported "database is locked"))) (uncounting ruled) :=
        Act.runs_change_iff.mpr ⟨rfl, rfl⟩
  have jams : SparesFilters ruled (uncounting ruled) := rfl
  have mended : SparesFilters (uncounting ruled) ruled := rfl
  exact .cons rfl (told ruled)
    (.cons jams fails (.cons mended (told ruled) (.cons rfl counts .nil)))

end Sample

open Desk.Sample (order greeting filing morning) in
/-- One filter cannot be counted, one cannot be asked and one has no id; the fourth one is counted
all the same. -/
theorem matching_isolates_mixed :
    ∃ tallies u, Desk.Task.Runs
        (Desk.matchAll .utc order [greeting, Sample.untimely, Sample.unstored, filing])
          Sample.miscounted
        (.ok [greeting, Sample.unstored, filing]) ∧
      ServesAmid SparesFilters Sample.ruled Sample.miscounted Sample.counted ∧
        Sample.counted.filters = some u ∧
      List.Forall₂
        (Retold ([greeting, Sample.unstored, filing].zip tallies)) Sample.rules.rows u.rows ∧
      u.rows.map (·.matched) = [.int 0, .int 1] := by
  have ids : ∀ f ∈ [greeting, Sample.untimely, Sample.unstored, filing], f.id = .null ∨
      ∃ n, f.id = .int n := by
    rintro f (_ | ⟨_, _ | ⟨_, _ | ⟨_, _ | ⟨_, ⟨⟩⟩⟩⟩⟩)
    · exact .inr ⟨1, rfl⟩
    · exact .inr ⟨3, rfl⟩
    · exact .inl rfl
    · exact .inr ⟨2, rfl⟩
  have distinct : [greeting, Sample.untimely, Sample.unstored, filing].Pairwise
      fun f g => f.id = .null ∨ f.id ≠ g.id := by decide
  have accepting : [greeting, Sample.untimely, Sample.unstored, filing].filter
    (Desk.takes .utc order) =
      [greeting, Sample.unstored, filing] := by decide +kernel
  obtain ⟨r, run⟩ : ∃ r, Desk.Task.Runs
      (Desk.matchAll .utc order [greeting, Sample.untimely, Sample.unstored, filing])
        Sample.miscounted r :=
    ⟨_, .ask (.ask (.ask (.ask .done)))⟩
  have miscounts : Desk.OnlyStoreMiscounts Sample.miscounted := by
    rintro id stats e (_ | ⟨_, _ | ⟨_, _ | ⟨_, _ | ⟨_, ⟨⟩⟩⟩⟩⟩)
    rfl
  obtain ⟨found, tallies, -, rows⟩ := (matching_isolates ids distinct).2 _ _ run miscounts
  rw [accepting] at found rows
  subst found
  obtain ⟨u, table, -, retold⟩ := rows _ _ _ Sample.serves_miscounted rfl
  have matched : Sample.counted.filters.map (·.rows.map (·.matched)) = some [.int 0, .int 1] := by
    decide +kernel
  rw [table] at matched
  exact ⟨tallies, u, run, Sample.serves_miscounted, table, retold, Option.some.inj matched⟩

end ChatTriage.Office
