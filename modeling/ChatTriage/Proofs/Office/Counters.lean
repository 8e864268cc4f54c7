import ChatTriage.Proofs.Desk.Sorting
import ChatTriage.Proofs.Office.Intake
import ChatTriage.Proofs.Office.Outcome
import ChatTriage.Proofs.Office.Outsiders
import ChatTriage.Proofs.Store.Queries
import ChatTriage.Proofs.Store.Tended

/-!
# How often filters are counted

A match is counted by writing the number that the rules in force show plus one. These rules are
behind the table once one of their filters was counted, until they are read anew; while the table
cannot be read they stay behind, and a filter that matches again is given the number that it has
already. `tally` says what a run of intakes adds to a counter, and `counted_eq_iff` when that is
every match.
-/

namespace ChatTriage

namespace Store

variable {r s : FilterRow} {t u : FilterTable} {rules matched : List Filter} {behind : Int → Bool}

/-- The number of matches that a row shows. -/
def FilterRow.counter (r : FilterRow) : Except Fault Int :=
  r.matched.toJson.toInt

/-- Rules that were read from a table, some of their filters having been counted since. -/
structure FilterTable.Gave (t : FilterTable) (rules : List Filter)
    (behind : Int → Bool) : Prop where
  distinct : rules.Pairwise fun f g => f.id ≠ g.id
  rows : ∀ f ∈ rules, ∃ r ∈ t.rows, f.id = .int r.id ∧
    r.counter = .ok (f.stats.matched + if behind r.id then 1 else 0)

/-- A table has the rows of another one, with more matches in some of them. -/
structure FilterTable.Raised (t u : FilterTable) (gain : Int → Int) : Prop where
  ids : u.ids = t.ids
  rows : ∀ r ∈ t.rows, ∃ s ∈ u.rows, s.id = r.id ∧ ∀ k, r.counter = .ok k →
    s.counter = .ok (k + gain r.id)

/-- The matches of filters were counted in a table: the row of each shows one more than the filter
does, and the other rows are as they were. -/
structure FilterTable.Counts (t u : FilterTable) (matched : List Filter) : Prop where
  ids : u.ids = t.ids
  rows : ∀ r ∈ t.rows, ∃ s ∈ u.rows, s.id = r.id ∧
    (∀ f ∈ matched, f.id = .int r.id → s.counter = .ok (f.stats.matched + 1)) ∧
    ((∀ f ∈ matched, f.id ≠ .int r.id) → s = r)

/-- An id is among filters when one of them has it. -/
lemma any_own_iff {n : Int} :
    matched.any (·.id = .int n) = true ↔ ∃ f ∈ matched, f.id = .int n := by
  simp only [List.any_eq_true, decide_eq_true_eq]

/-- It is not when none of them has it. -/
lemma any_own_eq_false_iff {n : Int} :
    matched.any (·.id = .int n) = false ↔ ∀ f ∈ matched, f.id ≠ .int n := by
  simp only [List.any_eq_false, decide_eq_true_eq, ne_eq]

namespace FilterTable

/-- A table has its own rows, with nothing gained. -/
lemma Raised.refl (t : FilterTable) : t.Raised t fun _ => 0 :=
  ⟨rfl, fun r member => ⟨r, member, rfl, fun k counter => by rw [counter, Int.add_zero]⟩⟩

/-- What is gained in two steps adds up. -/
lemma Raised.trans {v : FilterTable} {gain more : Int → Int} (first : t.Raised u gain)
    (second : u.Raised v more) : t.Raised v fun n => gain n + more n := by
  refine ⟨second.ids.trans first.ids, fun r member => ?_⟩
  obtain ⟨s, among, same, raised⟩ := first.rows r member
  obtain ⟨w, last, also, again⟩ := second.rows s among
  refine ⟨w, last, also.trans same, fun k counter => ?_⟩
  rw [again _ (raised k counter), same, Int.add_assoc]

/-- The rules that are read from a table show its counters. -/
lemma Ordered.gave_enabled {filters : List Filter} (ordered : t.Ordered)
    (read : loadAll t.enabledRows = .ok filters) :
    t.Gave (filters.filter (·.enabled)) fun _ => false := by
  have ascending : t.enabledRows.Pairwise fun r s => r.id < s.id := ordered.ascending.filter _
  constructor
  · rw [eq_of_loadAll read]
    refine ((lists_loaded ascending).ascending.imp fun {f g} less same => ?_).filter _
    obtain ⟨m, n, first, second, less⟩ := less
    rw [first, second, Json.int.injEq] at same
    omega
  · intro f member
    obtain ⟨r, among, load⟩ := mem_of_loadAll read (List.mem_filter.mp member).1
    refine ⟨r, (List.mem_filter.mp among).1,
      (FilterRow.load_eq_ok_iff_defines.mp load).columns.1, ?_⟩
    obtain ⟨-, -, counted, -⟩ := FilterRow.load_eq_ok_iff.mp load
    rw [FilterRow.counter, counted]
    simp

/-- Rules that were read have whole numbers for ids. -/
lemma Gave.int_of_mem {f : Filter} (gave : t.Gave rules behind) (member : f ∈ rules) :
    ∃ n, f.id = .int n := by
  obtain ⟨r, -, own, -⟩ := gave.rows f member
  exact ⟨r.id, own⟩

/-- The rules have different ids. -/
lemma Gave.unique {f g : Filter} (gave : t.Gave rules behind) (member : f ∈ rules)
    (also : g ∈ rules)
    (same : f.id = g.id) : f = g := by
  have apart : Std.Symm fun f g : Filter => f.id ≠ g.id := ⟨fun f g no => no.symm⟩
  by_contra differ
  exact gave.distinct.forall member also differ same

/-- Rules some of which were counted are behind in these counts. -/
lemma Gave.counts {p : Filter → Bool} (gave : t.Gave rules behind)
    (counts : t.Counts u (rules.filter p)) :
    u.Gave rules fun n => (rules.filter p).any (·.id = .int n) || behind n := by
  refine ⟨gave.distinct, fun f member => ?_⟩
  obtain ⟨r, among, own, shows⟩ := gave.rows f member
  obtain ⟨s, last, same, counted, unchanged⟩ := counts.rows r among
  refine ⟨s, last, same ▸ own, ?_⟩
  simp only [same]
  cases hit : (rules.filter p).any (·.id = .int r.id) with
  | true =>
    obtain ⟨g, selected, also⟩ := any_own_iff.mp hit
    rw [gave.unique member (List.mem_filter.mp selected).1 (own.trans also.symm),
      counted g selected also]
    rfl
  | false => rw [unchanged (any_own_eq_false_iff.mp hit), shows, Bool.false_or]

/-- Counting rules raises the counters that they were level with. -/
lemma Gave.raised {p : Filter → Bool} (gave : t.Gave rules behind) (ordered : t.Ordered)
    (counts : t.Counts u (rules.filter p)) :
    t.Raised u fun n => if (rules.filter p).any (·.id = .int n) && !behind n then 1 else 0 := by
  refine ⟨counts.ids, fun r member => ?_⟩
  obtain ⟨s, last, same, counted, unchanged⟩ := counts.rows r member
  refine ⟨s, last, same, fun k shows => ?_⟩
  cases hit : (rules.filter p).any (·.id = .int r.id) with
  | true =>
    obtain ⟨g, selected, own⟩ := any_own_iff.mp hit
    obtain ⟨r', among, also, level⟩ := gave.rows g (List.mem_filter.mp selected).1
    obtain rfl := ordered.unique member among (Json.int.inj (own.symm.trans also))
    cases level.symm.trans shows
    rw [counted g selected own]
    cases behind r.id <;> simp
  | false =>
    rw [unchanged (any_own_eq_false_iff.mp hit), shows]
    simp

end FilterTable

end Store

namespace Office

variable {c : Desk.Config} {o o₁ o' : Office} {log : Desk.Log} {world : World}
    {t : Store.FilterTable}

/-- An intake with what it has asked so far, and what is left of it. -/
structure Visit where
  message : Message
  log : Desk.Log
  rest : Dialogue Desk.service (Except Fault Desk.Report × Message)

namespace Visit

/-- The filters that the message was carried to. -/
def matched (c : Desk.Config) (v : Visit) : List Filter :=
  (v.log.rules?.getD []).filter (Desk.takes c.zone v.message)

/-- The message was carried to the filter with an id. -/
def hits (c : Desk.Config) (n : Int) (v : Visit) : Bool :=
  (v.matched c).any (·.id = .int n)

end Visit

/-- The table of an office, and what its snapshot shows of it. -/
structure Keeping (o : Office) (t : Store.FilterTable) (behind : Int → Bool) : Prop where
  filters : o.filters = some t
  ordered : t.Ordered
  gave : t.Gave o.snapshot behind

/-- A request that spares the rules changes neither the table of filters nor the snapshot. -/
lemma rules_of_answer {q : Desk.Request} {x : q.Answer} (run : Act.Runs (answer q) o world x o')
    (spares : q.sparesRules = true) : o'.filters = o.filters ∧ o'.snapshot = o.snapshot := by
  have read {α : Type} {f : Office → α} {y : α}
    (run : Act.Runs (do return f (← get)) o world y o') :
      o'.snapshot = o.snapshot := congrArg Office.snapshot (Act.runs_pure_iff.mp run).2.2
  have unwritten : q.writesFilters = false := by cases q <;> first | rfl | cases spares
  refine ⟨(framed_of_answer run).filters unwritten, ?_⟩
  cases q with
  | enabledFilters => exact read run
  | allFilters => exact read run
  | filterNamed name => exact read run
  | createMessage m =>
    have changed := (Act.runs_change_iff.mp run).2
    split at changed <;> cases changed <;> rfl
  | saveMessage m =>
    have changed := (Act.runs_change_iff.mp run).2
    split at changed <;> cases changed <;> rfl
  | now => rw [(Act.runs_ask_iff.mp run).2]
  | available line => rw [same_of_available run]
  | send line destination text =>
    obtain ⟨lines, rfl⟩ := lines_of_send run
    rfl
  | forward line m destination label =>
    obtain ⟨lines, rfl⟩ := lines_of_forward run
    rfl
  | reply text => rw [(Act.runs_ask_iff.mp run).2]
  | _ => cases spares

/-- What spares the rules leaves filters and snapshot alone. -/
lemma rules_of_serves (serves : Serves o log world o') (spares : log.SparesRules) :
    o'.filters = o.filters ∧ o'.snapshot = o.snapshot := by
  induction serves with
  | nil => exact ⟨rfl, rfl⟩
  | cons answered _ ih =>
    obtain ⟨first, rest⟩ := List.forall_mem_cons.mp spares
    obtain ⟨filters, snapshot⟩ := rules_of_answer answered first
    obtain ⟨filters', snapshot'⟩ := ih rest
    exact ⟨filters'.trans filters, snapshot'.trans snapshot⟩

/-- Counting the match of a filter writes the number that it shows plus one into its row. -/
lemma counter_of_counting {f : Filter} {n : Int} {now : DateTime} (serves : Serves o log world o')
    (counting : Desk.Counting f log now) (filters : o.filters = some t) (own : f.id = .int n) :
    o'.filters = some (t.count (.int n) ⟨f.stats.matched + 1, some now⟩) ∧
      o'.snapshot = o.snapshot := by
  obtain rfl := counting
  obtain ⟨o₁, w₁, w₂, -, told, rest⟩ := serves_cons_iff.mp serves
  obtain ⟨-, rfl⟩ := Act.runs_ask_iff.mp told
  obtain ⟨-, stored⟩ := Act.runs_change_iff.mp (serves_one_iff.mp rest)
  obtain ⟨e, failed⟩ | ⟨t', cell, filters', bound, done⟩ :=
    o₁.updateFilter_ofStats f.id ⟨f.stats.matched + 1, some now⟩
  · cases stored.trans failed
  · cases stored.trans done
    cases filters.symm.trans filters'
    rw [own, Store.Cell.bind_int] at bound
    split at bound
    · cases bound
      exact ⟨rfl, rfl⟩
    · cases bound

/-- The matches of filters are counted one after the other, if these are different ones. -/
lemma counts_of_countings {matched : List Filter} {times : List DateTime}
    (each : Desk.Each Desk.Counting matched log times) (serves : Serves o log world o')
    (filters : o.filters = some t) (ordered : t.Ordered) (known : ∀ f ∈ matched, ∃ n, f.id = .int n)
    (distinct : matched.Pairwise fun f g => f.id ≠ g.id) :
    o'.snapshot = o.snapshot ∧ ∃ u, o'.filters = some u ∧ u.Ordered ∧ t.Counts u matched := by
  induction each generalizing o t world with
  | nil =>
    cases serves
    exact ⟨rfl, t, filters, ordered, rfl, fun r member =>
      ⟨r, member, rfl, fun f none => absurd none List.not_mem_nil, fun _ => rfl⟩⟩
  | @cons f matched log₁ log₂ now times counting _ ih =>
    obtain ⟨o₁, w₁, w₂, -, first, rest⟩ := serves_append_iff.mp serves
    obtain ⟨⟨n, own⟩, known⟩ := List.forall_mem_cons.mp known
    obtain ⟨apart, distinct⟩ := List.pairwise_cons.mp distinct
    obtain ⟨filters₁, snapshot₁⟩ := counter_of_counting first counting filters own
    have same (r : Store.FilterRow) : (r.counted ⟨f.stats.matched + 1, some now⟩).id = r.id := rfl
    obtain ⟨snapshot, u, filters', ordered', ids, rows⟩ :=
      ih rest filters₁ (ordered.updateRows same) known distinct
    refine ⟨snapshot.trans snapshot₁, u, filters', ordered',
      ids.trans (Store.FilterTable.ids_updateRows same), fun r member => ?_⟩
    by_cases hit : n = r.id
    · -- the row of this filter, which none of the later ones has
      have later : ∀ g ∈ matched, g.id ≠ .int r.id := fun g among is =>
        apart g among (own.trans (hit ▸ is.symm))
      obtain ⟨s, among, is, -, unchanged⟩ := rows (r.counted ⟨f.stats.matched + 1, some now⟩)
        (List.mem_map.mpr ⟨r, member, if_pos (Store.Cell.isId_int.mpr hit)⟩)
      have written := unchanged later
      refine ⟨s, among, is,
        List.forall_mem_cons.mpr ⟨fun _ => ?_, fun g among is => absurd is (later g among)⟩,
        fun none => absurd (own.trans (hit ▸ rfl)) (none f List.mem_cons_self)⟩
      rw [written]
      rfl
    · have other : f.id ≠ .int r.id := fun is => hit (Json.int.inj (own.symm.trans is))
      obtain ⟨s, among, is, counted, unchanged⟩ := rows r
        (List.mem_map.mpr ⟨r, member, if_neg fun is => hit (Store.Cell.isId_int.mp is)⟩)
      exact ⟨s, among, is, List.forall_mem_cons.mpr ⟨fun is => absurd is other, counted⟩,
        fun none => unchanged (List.forall_mem_cons.mp none).2⟩

variable {m : Message} {rest : Dialogue Desk.service (Except Fault Desk.Report × Message)}
  {behind : Int → Bool} {rules : List Filter}

/-- What the snapshot shows of the table stays so. -/
lemma Keeping.of_spared (keeping : o.Keeping t behind) (serves : Serves o log world o')
    (spares : log.SparesRules) : o'.Keeping t behind := by
  obtain ⟨filters, snapshot⟩ := rules_of_serves serves spares
  exact ⟨filters.trans keeping.filters, keeping.ordered, snapshot ▸ keeping.gave⟩

/-- Reading the rules puts them in force, and they are level with the table if they were read
anew. -/
lemma Keeping.refresh (keeping : o.Keeping t behind)
    (read : Desk.Task.Runs Desk.refresh log (.ok rules))
    (serves : Serves o log world o') :
    o'.Keeping t (fun n => behind n && !log.anew) ∧ o'.snapshot = rules := by
  obtain ⟨filters, rfl, same⟩ | ⟨e, filters, -, rfl, same⟩ | ⟨e, -, -, impossible⟩ :=
    Desk.runs_refresh_iff.mp read
  · cases same
    obtain ⟨o₁, w₁, w₂, -, asked, later⟩ := serves_cons_iff.mp serves
    obtain ⟨-, answered, rfl⟩ := Act.runs_pure_iff.mp asked
    obtain ⟨-, kept⟩ := Dialogue.runs_done_iff.mp (serves_one_iff.mp later)
    cases kept
    have query : Store.enabledFilters o₁.filters = .ok filters := by
      unfold unlessOut at answered
      split at answered
      · cases answered
      · exact answered.symm
    rw [keeping.filters] at query
    have level : (fun n => behind n && !Desk.Log.anew [⟨.enabledFilters, .ok filters⟩,
        ⟨.keepSnapshot (filters.filter (·.enabled)), ()⟩]) = fun _ => false :=
      funext fun n => Bool.and_false _
    rw [level]
    exact ⟨⟨keeping.filters, keeping.ordered, keeping.ordered.gave_enabled query⟩, rfl⟩
  · cases same
    obtain ⟨o₁, w₁, w₂, -, asked, later⟩ := serves_cons_iff.mp serves
    obtain ⟨-, -, rfl⟩ := Act.runs_pure_iff.mp asked
    obtain ⟨-, found, rfl⟩ := Act.runs_pure_iff.mp (serves_one_iff.mp later)
    have still :
      (fun n => behind n && !Desk.Log.anew [⟨.enabledFilters, .error e⟩, ⟨.snapshot, rules⟩]) =
        behind := funext fun n => Bool.and_true _
    rw [still]
    exact ⟨keeping, found.symm⟩
  · cases impossible

/-- Counting some of the rules in force raises the counters that they were level with, and they are
behind in these counts from then on. -/
lemma Keeping.count {p : Filter → Bool} {times : List DateTime} (keeping : o.Keeping t behind)
    (each : Desk.Each Desk.Counting (o.snapshot.filter p) log times)
    (serves : Serves o log world o') :
    ∃ u, o'.Keeping u (fun n => (o.snapshot.filter p).any (·.id = .int n) || behind n) ∧
      t.Raised u fun n => if (o.snapshot.filter p).any (·.id = .int n) &&
        !behind n then 1 else 0 := by
  obtain ⟨filters, ordered, gave⟩ := keeping
  obtain ⟨snapshot, u, filters', ordered', counts⟩ :=
    counts_of_countings each serves filters ordered
    (fun f member => gave.int_of_mem (List.mem_filter.mp member).1) (gave.distinct.filter p)
  exact ⟨u, ⟨filters', ordered', snapshot ▸ gave.counts counts⟩, gave.raised ordered counts⟩

/-- An intake that is over or waits for a channel has counted its filters, unless the rules were
behind. -/
lemma Keeping.progress (keeping : o.Keeping t behind) (progress : Desk.Progress c m log rest)
    (serves : Serves o log world o') (counted : log.Counted) :
    ∃ u, o'.Keeping u (fun n => Visit.hits c n ⟨m, log, rest⟩ || (behind n && !log.anew)) ∧
      t.Raised u fun n => if Visit.hits c n ⟨m, log, rest⟩ &&
        !(behind n && !log.anew) then 1 else 0 := by
  cases progress with
  | @unsorted _ r left spares _ =>
    have none (n : Int) : Visit.hits c n ⟨m, log, .done (r, left)⟩ = false := by
      simp [Visit.hits, Visit.matched, spares.rules?]
    simp only [none, spares.anew, Bool.false_or, Bool.not_false, Bool.and_true, Bool.false_and]
    exact ⟨t, keeping.of_spared serves spares, .refl t⟩
  | @sorted rules log₁ log₂ log₃ rest read accepted last =>
    obtain ⟨o₁, w₁, w₂, -, created, later⟩ := serves_cons_iff.mp serves
    obtain ⟨o₂, w₃, w₄, -, reading, later⟩ := serves_append_iff.mp later
    obtain ⟨o₃, w₅, w₆, -, counting, settling⟩ := serves_append_iff.mp later
    obtain ⟨-, counted⟩ := List.forall_mem_cons.mp counted
    obtain ⟨-, counted⟩ := List.forall_mem_append.mp counted
    -- the rules are spared until they are read, and again once their matches are counted
    have sorting :=
      keeping.of_spared (serves_one_iff.mpr created) (List.forall_mem_singleton.mpr rfl)
    obtain ⟨level, rfl⟩ := sorting.refresh read reading
    have known : ∀ f ∈ o₂.snapshot, f.id ≠ .null := fun f member => by
      obtain ⟨n, own⟩ := level.gave.int_of_mem member
      rw [own]
      nofun
    obtain ⟨times, each⟩ :=
      Desk.runs_matchAll_log known accepted (List.forall_mem_append.mp counted).1
    obtain ⟨u, keeps, raised⟩ := level.count each counting
    have spares : Desk.Log.SparesRules log₃ :=
      Desk.sparesRules_of_finish (m := { m with version := .count 0 }) rfl last
    simp only [Visit.hits, Visit.matched, Desk.rules?_of_sorted read,
      Desk.anew_of_sorted each spares, Option.getD_some]
    exact ⟨u, keeps.of_spared settling spares, raised⟩

/-- Intakes at an office: each is carried on until it is over or waits for a channel, and others may
start or go on while it waits. Between these moments operations of the stores can go out of order
and come back in order. -/
inductive Intakes (c : Desk.Config) (o : Office) : List Visit → Office → Prop where
  | idle :
    Intakes c o [] o
  | disturbed {visits o₁ outages} :
    Intakes c o visits o₁ →
    Intakes c o visits { o₁ with outages }
  | start {visits o₁ o₂ m log world rest} :
    Intakes c o visits o₁ →
    Dialogue.Reaches (intake c m) log rest →
    rest.Pauses (S := Desk.service) (·.isOutward) →
    Serves o₁ log world o₂ →
    Intakes c o (visits ++ [⟨m, log, rest⟩]) o₂
  | resume {earlier later o₁ o₂ m log d more world rest} :
    Intakes c o (earlier ++ ⟨m, log, d⟩ :: later) o₁ →
    Dialogue.Reaches d more rest →
    rest.Pauses (S := Desk.service) (·.isOutward) →
    Serves o₁ more world o₂ →
    Intakes c o (earlier ++ ⟨m, log ++ more, rest⟩ :: later) o₂

/-- How the counter of a filter stands after intakes: how many matches were counted, and whether the
rules in force are behind. -/
structure Tally where
  counted : Nat := 0
  behind : Bool := false
  deriving DecidableEq, Repr

/-- A match is counted unless it was found by rules that are behind. -/
def Tally.after (c : Desk.Config) (n : Int) (s : Tally) (v : Visit) : Tally :=
  let behind := s.behind && !v.log.anew
  ⟨if v.hits c n && !behind then s.counted + 1 else s.counted, v.hits c n || behind⟩

/-- How the counter of the filter with an id stands after intakes, the one that started first
standing first. -/
def tally (c : Desk.Config) (n : Int) (visits : List Visit) : Tally :=
  visits.foldl (Tally.after c n) {}

/-- The rules in force are behind: the filter was matched, and they have not been read anew
since. -/
def Behind (c : Desk.Config) (n : Int) (visits : List Visit) : Prop :=
  ∃ before v after, visits = before ++ v :: after ∧ v.hits c n = true ∧ ∀ w ∈ after,
    w.log.anew = false

/-- A match of the filter is lost: it was found by rules that were behind. -/
def Loses (c : Desk.Config) (n : Int) (visits : List Visit) : Prop :=
  ∃ before v after, visits = before ++ v :: after ∧ Behind c n before ∧ v.hits c n = true ∧
    v.log.anew = false

variable {visits : List Visit} {v : Visit} {n : Int}

/-- One more intake is counted after the others. -/
lemma tally_concat : tally c n (visits ++ [v]) = (tally c n visits).after c n v :=
  List.foldl_append

/-- Something holds of a part of a list and what comes after it: it is the last member, or another
one. -/
lemma split_concat_iff {P : List Visit → Visit → List Visit → Prop} :
    (∃ before u after, visits ++ [v] = before ++ u :: after ∧ P before u after) ↔
      P visits v [] ∨ ∃ before u after, visits = before ++ u :: after ∧
        P before u (after ++ [v]) := by
  constructor
  · rintro ⟨before, u, after, split, holds⟩
    obtain rfl | ⟨after, w, rfl⟩ := List.eq_nil_or_concat after
    · obtain ⟨rfl, last⟩ := List.append_inj' split rfl
      cases last
      exact .inl holds
    · rw [List.concat_eq_append, ← List.cons_append, ← List.append_assoc] at split
      obtain ⟨rfl, last⟩ := List.append_inj' split rfl
      cases last
      exact .inr ⟨before, u, after, rfl, by simpa using holds⟩
  · rintro (holds | ⟨before, u, after, rfl, holds⟩)
    · exact ⟨visits, v, [], rfl, holds⟩
    · exact ⟨before, u, after ++ [v], by simp, holds⟩

/-- The rules are behind after a match, or still are when they are not read anew. -/
lemma behind_concat_iff :
    Behind c n (visits ++ [v]) ↔ v.hits c n = true ∨ Behind c n visits ∧ v.log.anew = false := by
  unfold Behind
  rw [split_concat_iff]
  simp only [List.forall_mem_append, List.forall_mem_singleton, ← and_assoc, exists_and_right]
  simp

/-- A match is lost earlier, or by the last intake. -/
lemma loses_concat_iff :
    Loses c n (visits ++ [v]) ↔
      Loses c n visits ∨ Behind c n visits ∧ v.hits c n = true ∧ v.log.anew = false := by
  unfold Loses
  rw [split_concat_iff (P := fun before u _ => Behind c n before ∧ u.hits c n = true ∧
    u.log.anew = false), or_comm]

/-- The tally tells whether the rules are behind. -/
lemma behind_tally_iff : (tally c n visits).behind = true ↔ Behind c n visits := by
  induction visits using List.reverseRecOn with
  | nil => simp [tally, Behind]
  | append_singleton visits v ih =>
    rw [tally_concat, behind_concat_iff, ← ih]
    simp [Tally.after]

/-- The tally counts a match unless the rules were behind. -/
lemma counted_after {s : Tally} :
    (s.after c n v).counted = s.counted + if v.hits c n &&
    !(s.behind && !v.log.anew) then 1 else 0 := by
  simp only [Tally.after]
  split <;> rfl

/-- Not more matches are counted than there are. -/
lemma counted_le : (tally c n visits).counted ≤ visits.countP (·.hits c n) := by
  induction visits using List.reverseRecOn with
  | nil => exact Nat.le_refl 0
  | append_singleton visits v ih =>
    rw [tally_concat, counted_after, List.countP_append, List.countP_singleton]
    refine Nat.add_le_add ih ?_
    cases v.hits c n with
    | false => exact Nat.le_refl 0
    | true =>
      rw [if_pos rfl]
      split <;> omega

/-- Every match is counted unless one is lost. -/
lemma counted_eq_iff :
    (tally c n visits).counted = visits.countP (·.hits c n) ↔ ¬ Loses c n visits := by
  induction visits using List.reverseRecOn with
  | nil => simp [tally, Loses]
  | append_singleton visits v ih =>
    have most : (tally c n visits).counted ≤ visits.countP (·.hits c n) := counted_le
    rw [tally_concat, counted_after, List.countP_append, List.countP_singleton, loses_concat_iff,
      ← behind_tally_iff, not_or, ← ih]
    cases v.hits c n with
    | false => simp
    | true =>
      cases v.log.anew with
      | true => simp
      | false =>
        cases (tally c n visits).behind with
        | false => simp
        | true =>
          simp
          omega

/-- What is asked once an intake waits for a channel has nothing to do with the rules. -/
lemma spares_of_progress {d : Dialogue Desk.service (Except Fault Desk.Report × Message)}
    {more : Desk.Log}
    (progress : Desk.Progress c m log d) (later : Dialogue.Reaches d more rest) :
    more.SparesRules := by
  cases progress with
  | unsorted _ _ =>
    obtain ⟨rfl, -⟩ := Dialogue.reaches_of_done_iff.mp later
    exact fun x none => absurd none List.not_mem_nil
  | sorted _ _ last =>
    have settling :=
      Desk.sparesRules_of_finish (m := { m with version := .count 0 }) rfl (last.trans later)
    exact fun x member => settling x (List.mem_append_right _ member)

/-- What an intake asks while it settles its message does not change what it was carried to. -/
lemma tally_resumed {earlier later : List Visit}
    {d : Dialogue Desk.service (Except Fault Desk.Report × Message)}
    {more : Desk.Log} (spares : more.SparesRules) :
    tally c n (earlier ++ ⟨m, log ++ more, rest⟩ :: later) =
      tally c n (earlier ++ ⟨m, log, d⟩ :: later) := by
  have hits : Visit.hits c n ⟨m, log ++ more, rest⟩ = Visit.hits c n ⟨m, log, d⟩ := by
    simp only [Visit.hits, Visit.matched, Desk.Log.rules?_append, spares.rules?, Option.or_none]
  have anew : Desk.Log.anew (log ++ more) = log.anew := by
    rw [Desk.Log.anew_append, spares.anew, Bool.or_false]
  have same (s : Tally) : s.after c n ⟨m, log ++ more, rest⟩ = s.after c n ⟨m, log, d⟩ := by
    unfold Tally.after
    rw [hits, anew]
  unfold tally
  rw [List.foldl_append, List.foldl_append, List.foldl_cons, List.foldl_cons, same]

/-- An intake among others has asked what its log shows, and waits for a channel if it is not
over. -/
lemma Intakes.reaches (intakes : Intakes c o visits o') :
    ∀ v ∈ visits, Dialogue.Reaches (intake c v.message) v.log v.rest ∧
      v.rest.Pauses (S := Desk.service) (·.isOutward) := by
  induction intakes with
  | idle => exact fun v none => absurd none List.not_mem_nil
  | disturbed _ ih => exact ih
  | start _ reaches pauses _ ih =>
    exact List.forall_mem_append.mpr ⟨ih, List.forall_mem_singleton.mpr ⟨reaches, pauses⟩⟩
  | resume _ later pauses _ ih =>
    obtain ⟨before, after⟩ := List.forall_mem_append.mp ih
    obtain ⟨⟨first, -⟩, after⟩ := List.forall_mem_cons.mp after
    exact List.forall_mem_append.mpr
      ⟨before, List.forall_mem_cons.mpr ⟨⟨first.trans later, pauses⟩, after⟩⟩

/-- What intakes do to the counters. -/
lemma Keeping.intakes (keeping : o.Keeping t fun _ => false) (intakes : Intakes c o visits o')
    (counted : ∀ v ∈ visits, v.log.Counted) :
    ∃ u, o'.Keeping u (fun n => (tally c n visits).behind) ∧ t.Raised u fun n =>
      (tally c n visits).counted := by
  induction intakes with
  | idle => exact ⟨t, keeping, .refl t⟩
  | disturbed _ ih =>
    obtain ⟨u, ⟨filters, ordered, gave⟩, raised⟩ := ih counted
    exact ⟨u, ⟨filters, ordered, gave⟩, raised⟩
  | start _ reaches pauses serves ih =>
    obtain ⟨earlier, now⟩ := List.forall_mem_append.mp counted
    obtain ⟨u, keeps, raised⟩ := ih earlier
    have asked := List.forall_mem_singleton.mp now
    obtain ⟨w, last, more⟩ :=
      keeps.progress (Desk.reaches_process_waiting reaches pauses asked) serves asked
    simp only [tally_concat]
    refine ⟨w, last, ?_⟩
    have both := raised.trans more
    simpa only [counted_after, Nat.cast_add, Nat.cast_ite, Nat.cast_one, Nat.cast_zero] using both
  | @resume earlier after o₁ o₂ m log d more world rest intakes later pauses serves ih =>
    obtain ⟨before, after'⟩ := List.forall_mem_append.mp counted
    obtain ⟨own, after'⟩ := List.forall_mem_cons.mp after'
    obtain ⟨own, -⟩ := List.forall_mem_append.mp own
    obtain ⟨u, keeps, raised⟩ :=
      ih (List.forall_mem_append.mpr ⟨before, List.forall_mem_cons.mpr ⟨own, after'⟩⟩)
    obtain ⟨reaches, waits⟩ := intakes.reaches _ (List.mem_append_right _ List.mem_cons_self)
    -- its matches were counted before it came to wait
    have spares := spares_of_progress (Desk.reaches_process_waiting reaches waits own) later
    have same (n : Int) : tally c n (earlier ++ ⟨m, log ++ more, rest⟩ :: after) =
        tally c n (earlier ++ ⟨m, log, d⟩ :: after) := tally_resumed spares
    simp only [same]
    exact ⟨u, keeps.of_spared serves spares, raised⟩

/-- The report on a message lists the filters that it was carried to. -/
lemma Visit.reported {report : Desk.Report} {left : Message}
    (reaches : Dialogue.Reaches (intake c m) log (.done (.ok report, left)))
    (counted : log.Counted) :
    report.matched = (Visit.matched c ⟨m, log, .done (.ok report, left)⟩).map (·.name) := by
  cases Desk.reaches_process_waiting reaches Dialogue.pauses_done counted with
  | unsorted spares refused =>
    have none : Visit.matched c ⟨m, log, .done (.ok report, left)⟩ = [] := by
      simp [Visit.matched, spares.rules?]
    rw [none]
    cases report with
    | refused id reason => rfl
    | _ => cases refused _ rfl
  | sorted read _ last =>
    rw [Desk.finish_matched (Dialogue.reaches_done_iff.mp last)]
    simp only [Visit.matched, Desk.rules?_of_sorted read, Option.getD_some]

/-- Intakes at an office whose snapshot shows its table, or is empty. Each filter ends with as many
more matches as were counted, which are all the messages that the reports say were carried to it,
unless one is lost: while the rules cannot be read anew, the first message that a filter accepts is
counted and no other. -/
theorem intakes_raise_counters (keeping : o.Keeping t fun _ => false)
    (intakes : Intakes c o visits o')
    (counted : ∀ v ∈ visits, v.log.Counted) :
    (∃ u, o'.filters = some u ∧ t.Raised u fun n => (tally c n visits).counted) ∧
    (∀ v ∈ visits, ∀ report left, v.rest = .done (.ok report, left) →
      report.matched = (v.matched c).map (·.name)) ∧
    ∀ n, (tally c n visits).counted ≤ visits.countP (·.hits c n) ∧
      ((tally c n visits).counted = visits.countP (·.hits c n) ↔ ¬ Loses c n visits) := by
  refine ⟨?_, fun v member report left ended => ?_, fun n => ⟨counted_le, counted_eq_iff⟩⟩
  · obtain ⟨u, ⟨filters, -, -⟩, raised⟩ := keeping.intakes intakes counted
    exact ⟨u, filters, raised⟩
  · obtain ⟨m, log, rest⟩ := v
    obtain rfl := ended
    exact Visit.reported (intakes.reaches _ member).1 (counted _ member)

namespace Sample

open Desk.Sample

/-- Another message like the first one. -/
def reorder : Message :=
  { order with id := "wamid.2" }

/-- What is asked while it is taken in and the rules cannot be read. -/
def askedAgain : Desk.Log := [
  ⟨.createMessage reorder, .ok ()⟩,
  ⟨.enabledFilters, .error (.store (.reported "down"))⟩,
  ⟨.snapshot, [greeting, filing]⟩,
  ⟨.now, morning⟩,
  ⟨.storeStats (.int 1) ⟨1, some morning⟩, .ok ()⟩,
  ⟨.now, morning⟩,
  ⟨.storeStats (.int 2) ⟨1, some morning⟩, .ok ()⟩,
  ⟨.saveMessage { greeted with id := "wamid.2" }, .ok ()⟩,
  ⟨.saveMessage { greeted with id := "wamid.2", status := .archived, version := .count 1 }, .ok ()⟩]

/-- The second message is taken in as written down. -/
lemma runs_askedAgain : ∃ r m', Desk.Work.Runs (Desk.process quiet) reorder askedAgain r m' :=
  ⟨_, _, .ask (.ask (.ask (.ask (.ask (.ask (.ask (.ask (.ask .done))))))))⟩

/-- The office answers what is asked for both messages, the filters being out of order for the
second. -/
lemma serves_askedAgain : ∃ w₁ o₁ w₂ o₂, Serves ruled asked w₁ o₁ ∧
    Serves { o₁ with outages := [(.enabledFilters, .store (.reported "down"))] }
      askedAgain w₂ o₂ := by
  apply Exists.intro
  apply Exists.intro
  apply Exists.intro
  apply Exists.intro
  apply And.intro
  · apply serves_created (by decide +kernel)
    apply serves_enabled (by decide +kernel)
    apply Serves.cons (q := .keepSnapshot _) .done
    apply Serves.cons (q := .now) (.ask .done)
    apply serves_counted (by decide +kernel)
    apply Serves.cons (q := .now) (.ask .done)
    apply serves_counted (by decide +kernel)
    apply serves_saved (by decide +kernel)
    apply serves_saved (by decide +kernel)
    exact .nil
  · apply serves_created (by decide +kernel)
    apply Serves.cons (q := .enabledFilters) (Act.runs_pure_iff.mpr ⟨rfl, by decide +kernel, rfl⟩)
    apply Serves.cons (q := .snapshot) (Act.runs_pure_iff.mpr ⟨rfl, by decide +kernel, rfl⟩)
    apply Serves.cons (q := .now) (.ask .done)
    apply serves_counted (by decide +kernel)
    apply Serves.cons (q := .now) (.ask .done)
    apply serves_counted (by decide +kernel)
    apply serves_saved (by decide +kernel)
    apply serves_saved (by decide +kernel)
    exact .nil

/-- No store fails while the matches are counted. -/
lemma counted_asked : asked.Counted ∧ askedAgain.Counted := by
  constructor
  all_goals
    intro x member id stats e same
    simp only [asked, askedAgain, List.mem_cons, List.not_mem_nil, or_false] at member
    rcases member with rfl | rfl | rfl | rfl | rfl | rfl | rfl | rfl | rfl <;> cases same

/-- The snapshot shows the table as it is. -/
lemma keeping_ruled : ruled.Keeping Sample.rules fun _ => false where
  filters := rfl
  ordered := ⟨by decide, by decide⟩
  gave := ⟨.nil, fun f none => absurd none List.not_mem_nil⟩

/-- The intakes of both messages. -/
def twice (d₁ d₂ : Dialogue Desk.service (Except Fault Desk.Report × Message)) : List Visit :=
  [⟨order, asked, d₁⟩, ⟨reorder, askedAgain, d₂⟩]

variable (d₁ d₂ : Dialogue Desk.service (Except Fault Desk.Report × Message))

/-- Both messages are carried to the filter. -/
lemma hits_twice :
    Visit.hits quiet 1 ⟨order, asked, d₁⟩ = true ∧
      Visit.hits quiet 1 ⟨reorder, askedAgain, d₂⟩ = true := by
  have first : ((asked.rules?.getD []).filter (Desk.takes quiet.zone order)).any
      (·.id = .int 1) = true := by
    decide +kernel
  have second : ((askedAgain.rules?.getD []).filter (Desk.takes quiet.zone reorder)).any
    (·.id = .int 1) =
      true := by
    decide +kernel
  exact ⟨first, second⟩

/-- That makes two matches. -/
lemma countP_twice : (twice d₁ d₂).countP (·.hits quiet 1) = 2 := by
  obtain ⟨first, second⟩ := hits_twice d₁ d₂
  simp [twice, first, second]

/-- All matches are counted. -/
lemma counted_twice : ∀ v ∈ twice d₁ d₂, v.log.Counted :=
  List.forall_mem_cons.mpr ⟨counted_asked.1, List.forall_mem_singleton.mpr counted_asked.2⟩

/-- The second match is found by rules that are behind. -/
lemma loses_twice : Loses quiet 1 (twice d₁ d₂) := by
  obtain ⟨first, second⟩ := hits_twice d₁ d₂
  exact ⟨[_], _, [], rfl, ⟨[], _, [], rfl, first, fun w none => absurd none List.not_mem_nil⟩,
    second, rfl⟩

/-- So one match is counted. -/
lemma tally_twice : (tally quiet 1 (twice d₁ d₂)).counted = 1 := by
  obtain ⟨first, second⟩ := hits_twice d₁ d₂
  show ((Tally.after quiet 1 {} _).after quiet 1 _).counted = 1
  simp only [Tally.after, first, second]
  rfl

end Sample

open Sample in
/-- The second of two messages that a filter accepts comes while the rules cannot be read, and is
not counted. -/
theorem intakes_raise_counters_in_outage :
    ∃ visits o' u, ruled.Keeping Sample.rules (fun _ => false) ∧ Intakes quiet ruled visits o' ∧
      (∀ v ∈ visits, v.log.Counted) ∧ visits.countP (·.hits quiet 1) = 2 ∧ Loses quiet 1 visits ∧
      o'.filters = some u ∧ ∃ s ∈ u.rows, s.id = 1 ∧ s.counter = .ok 1 := by
  obtain ⟨r₁, m₁, run₁⟩ := runs_asked
  obtain ⟨r₂, m₂, run₂⟩ := runs_askedAgain
  obtain ⟨w₁, o₁, w₂, o₂, serves₁, serves₂⟩ := serves_askedAgain
  have intakes : Intakes quiet ruled (twice (.done (r₁, m₁)) (.done (r₂, m₂))) o₂ :=
    .start (.disturbed
      (.start .idle (Dialogue.reaches_done_iff.mpr run₁) Dialogue.pauses_done serves₁))
      (Dialogue.reaches_done_iff.mpr run₂) Dialogue.pauses_done serves₂
  obtain ⟨⟨u, filters, -, raised⟩, -, -⟩ :=
    intakes_raise_counters keeping_ruled intakes (counted_twice _ _)
  obtain ⟨s, among, same, shows⟩ := raised _ List.mem_cons_self
  have once := shows 0 rfl
  rw [tally_twice] at once
  exact ⟨_, _, u, keeping_ruled, intakes, counted_twice _ _, countP_twice _ _,
    loses_twice _ _, filters, s, among, same, once⟩

end Office

end ChatTriage
