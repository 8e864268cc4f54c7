import Mathlib.Data.List.Chain
import ChatTriage.Proofs.Message.Status
import ChatTriage.Proofs.Office.Versions

/-!
# The statuses of a row

Holders of copies move them along the life of a message, each by what its own copy shows. That the
row nevertheless only moves onward rests on the versions: a save goes through from a copy that
descends from the row it overwrites, and a copy has come onward from the row that it was last in
step with (`Scene.Onward`). One save beyond what the column can count that is lost, and a row can
turn back.
-/

namespace ChatTriage.Office

variable {revises : Message → Message → Prop} {s s' : Scene} {t t' : Store.MessageTable}
    {m n : Message}
  {id : String}

/-- What a holder does to a copy: asks it to move, which may be refused, or changes the notes on
it. -/
inductive Edits (m : Message) : Message → Prop where
  | moved {target changed n} :
    m.advance target = .ok (changed, n) →
    Edits m n
  | refused {target e} :
    m.advance target = .error e →
    Edits m m
  | noted {metadata} :
    Edits m { m with metadata }

/-- An edit revises a message. -/
lemma Edits.keeps (edits : Edits m n) : Revises m n := by
  cases edits with
  | moved advanced =>
    obtain ⟨-, same⟩ := Message.onward_of_advance advanced
    rw [same]
    exact ⟨rfl, rfl⟩
  | refused => exact ⟨rfl, rfl⟩
  | noted => exact ⟨rfl, rfl⟩

/-- An edit moves its status onward. -/
lemma Edits.onward (edits : Edits m n) : m.status.Onward n.status := by
  cases edits with
  | moved advanced => exact (Message.onward_of_advance advanced).1
  | refused => exact .refl
  | noted => exact .refl

/-- Every copy has come onward from the row that it was last in step with, and so had every copy
that was saved. -/
structure Scene.Onward (s : Scene) : Prop where
  copies : ∀ c ∈ s.copies, ∀ r, c.base = some r → r.status.Onward c.message.status
  saves : ∀ save ∈ s.saves, ∀ r, save.base = some r → r.status.Onward save.message.status

/-- One more copy, level with its row. -/
lemma Scene.Onward.hold {o : Office} {r : Store.MessageRow} (onward : s.Onward)
    (level : m.status = r.status) : Scene.Onward ⟨o, s.copies ++ [⟨m, some r⟩], s.saves⟩ := by
  refine ⟨fun c member u base => ?_, onward.saves⟩
  obtain old | last := List.mem_append.mp member
  · exact onward.copies c old u base
  · obtain rfl := List.mem_singleton.mp last
    cases base
    exact level ▸ .refl

/-- As long as revisions lead onward, copies do. -/
lemma Move.onward (leads : ∀ m n, revises m n → m.status.Onward n.status) (onward : s.Onward)
    (move : Move revises t s s') : s'.Onward := by
  cases move with
  | idle => exact onward
  | create => exact onward.hold rfl
  | load _ status _ => exact onward.hold status
  | @revise k copy m held revision =>
    refine ⟨fun c member r base => ?_, onward.saves⟩
    obtain old | rfl := List.mem_or_eq_of_mem_set member
    · exact onward.copies c old r base
    · exact (onward.copies copy (List.mem_of_getElem? held) r base).trans (leads _ _ revision)
  | @save k copy r document version held found level dated next =>
    constructor
    · intro c member u base
      obtain old | rfl := List.mem_or_eq_of_mem_set member
      · exact onward.copies c old u base
      -- the row now has the status of the copy
      · cases base
        exact .refl
    · intro save member u base
      obtain old | last := List.mem_append.mp member
      · exact onward.saves save old u base
      · obtain rfl := List.mem_singleton.mp last
        exact onward.copies copy (List.mem_of_getElem? held) u base

/-- All copies have moved onward. -/
lemma Reached.onward (keeps : ∀ m n, revises m n → Revises m n)
    (leads : ∀ m n, revises m n → m.status.Onward n.status) (reached : Reached revises s) :
    s.Onward := by
  induction reached with
  | start =>
    constructor
    all_goals exact fun x member => absurd member List.not_mem_nil
  | step before step ih =>
    obtain ⟨t, kept⟩ := before.kept keeps
    exact (step.move kept).onward leads ih

/-- The statuses that the row of an id has had, the earliest first: those that saves have
overwritten, and the one that stands there. -/
def Scene.statuses (s : Scene) (id : String) : List Status :=
  (s.savesOf id).filterMap (·.overwritten.map (·.status)) ++
    (s.office.row? id).toList.map (·.status)

/-- The last status is that of the row. -/
lemma Scene.getLast?_statuses {r : Store.MessageRow} (row : s.office.row? id = some r) :
    (s.statuses id).getLast? = some r.status := by
  simp [statuses, row]

/-- What a move comes to for the row of an id: nothing, its creation, or a save over it. -/
lemma Move.row (kept : s.Kept t) (kept' : s'.Kept t') (move : Move revises t s s') (id : String) :
    (t'.row? id = t.row? id ∧ s'.savesOf id = s.savesOf id) ∨
    (t.row? id = none ∧ (∃ r, t'.row? id = some r) ∧ s'.savesOf id = s.savesOf id) ∨
    ∃ save r r', t.row? id = some r ∧ t'.row? id = some r' ∧ r'.status = save.message.status ∧
      save.overwritten = some r ∧ s'.savesOf id = s.savesOf id ++ [save] := by
  have table := kept'.messages
  cases move with
  | idle =>
    cases kept.messages.symm.trans table
    exact .inl ⟨rfl, rfl⟩
  | load =>
    cases kept.messages.symm.trans table
    exact .inl ⟨rfl, rfl⟩
  | revise =>
    cases kept.messages.symm.trans table
    exact .inl ⟨rfl, rfl⟩
  | @create m document free dated =>
    cases table
    rw [Store.MessageTable.row?_add]
    by_cases own : m.id = id
    · subst own
      refine .inr (.inl ⟨free, ⟨.fresh m document, ?_⟩, rfl⟩)
      rw [free]
      simp [Store.MessageRow.fresh]
    · refine .inl ⟨?_, rfl⟩
      simp [Store.MessageRow.fresh, own]
  | @save k copy r document version held found level dated next =>
    cases table
    by_cases own : copy.message.id = id
    · subst own
      exact .inr
        (.inr ⟨⟨copy.message, copy.base, some r⟩, r, r.written copy.message document, found,
        Store.MessageTable.row?_save_own found level, rfl, rfl, by simp [Scene.savesOf]⟩)
    · exact .inl ⟨Store.MessageTable.row?_save_other (Ne.symm own), by simp [Scene.savesOf, own]⟩

/-- The statuses of a row are the one it was created with and those of the saves that went through,
and each lies onward from the one before. -/
structure Scene.Walks (s : Scene) (id : String) : Prop where
  absent : s.office.row? id = none → s.statuses id = []
  stored : ∀ r, s.office.row? id = some r →
    ∃ first, s.statuses id = first :: (s.savesOf id).map (·.message.status)
  chain : (s.statuses id).IsChain Status.Onward

/-- A save that went through adds its status. -/
lemma Scene.statuses_save (save : Save) {r r' : Store.MessageRow} (row : s.office.row? id = some r)
    (row' : s'.office.row? id = some r') (status : r'.status = save.message.status)
    (former : save.overwritten = some r) (saves : s'.savesOf id = s.savesOf id ++ [save]) :
    s'.statuses id = s.statuses id ++ [save.message.status] := by
  simp [statuses, row, row', saves, former, status]

/-- A save that leads onward from the row it overwrites makes the walk longer. -/
lemma Scene.Walks.save {save : Save} {r r' : Store.MessageRow} (walks : s.Walks id)
    (row : s.office.row? id = some r) (row' : s'.office.row? id = some r')
    (status : r'.status = save.message.status) (former : save.overwritten = some r)
    (saves : s'.savesOf id = s.savesOf id ++ [save])
    (onward : r.status.Onward save.message.status) :
    s'.Walks id := by
  have longer := statuses_save save row row' status former saves
  obtain ⟨first, stored⟩ := walks.stored r row
  refine ⟨fun gone => ?_, fun u _ => ⟨first, ?_⟩, ?_⟩
  · rw [row'] at gone
    cases gone
  · rw [longer, stored, saves, List.map_append, List.map_singleton, List.cons_append]
  · rw [longer]
    refine List.isChain_append.mpr ⟨walks.chain, .singleton _, fun a last b next => ?_⟩
    -- the walk so far ends with the row that is overwritten
    rw [getLast?_statuses row] at last
    cases last
    cases next
    exact onward

/-- As long as the row of an id can count its saves, it walks onward. -/
lemma Reached.walks (keeps : ∀ m n, revises m n → Revises m n)
    (leads : ∀ m n, revises m n → m.status.Onward n.status) (reached : Reached revises s)
    (few : (s.savesOf id).length < 2 ^ 63) : s.Walks id := by
  induction reached with
  | @start o messages outages =>
    have none : o.row? id = none := row?_of_messages messages
    have blank : Scene.statuses ⟨o, [], []⟩ id = [] := by simp [Scene.statuses, Scene.savesOf, none]
    refine ⟨fun _ => blank, fun r row => ?_, ?_⟩
    · cases none.symm.trans row
    · rw [blank]
      exact .nil
  | @step s s' before step ih =>
    have walks := ih (Nat.lt_of_le_of_lt (step.savesOf_le id) few)
    obtain ⟨t, kept, sound⟩ := before.sound keeps (Nat.lt_of_le_of_lt (step.savesOf_le id) few)
    obtain ⟨t', kept', sound'⟩ := (before.step step).sound keeps few
    have onward := (before.step step).onward keeps leads
    have rows : s.office.row? id = t.row? id := row?_of_messages kept.messages
    have rows' : s'.office.row? id = t'.row? id := row?_of_messages kept'.messages
    obtain ⟨same, saves⟩ | ⟨free, ⟨r, row⟩, saves⟩ | ⟨save, r, r', row, row', status,
        former, saves⟩ :=
      (step.move kept).row kept kept' id
    · have still : s'.office.row? id = s.office.row? id := rows'.trans (same.trans rows.symm)
      have unchanged : s'.statuses id = s.statuses id := by simp only [Scene.statuses, saves, still]
      exact ⟨unchanged ▸ still ▸ walks.absent, unchanged ▸ still ▸ saves ▸ walks.stored,
        unchanged ▸ walks.chain⟩
    -- a row that is created has not been saved yet
    · have none := saves.trans (sound.absent free).1
      have one : s'.statuses id = [r.status] := by
        simp [Scene.statuses, none, rows', row]
      refine ⟨fun gone => ?_, fun u _ => ⟨r.status, by rw [one, none]; rfl⟩, ?_⟩
      · cases (rows'.trans row).symm.trans gone
      · rw [one]
        exact .singleton _
    · have last : save ∈ s'.savesOf id := by
        rw [saves]
        exact List.mem_append_right _ (List.mem_singleton_self save)
      -- the copy that was saved descends from the row it has overwritten
      have descends := (sound'.descents save last).1.trans former
      exact walks.save (rows.trans row) (rows'.trans row') status former saves
        (onward.saves save (List.mem_filter.mp last).1 r descends)

/-- A row only moves onward as long as it can count its saves. Whatever holders of copies do, the
statuses that the row of an id has had are the one it was created with and those of the saves that
went through; each is the same as the one before or reached from it. So processed and archived are
ends, and no row gets from the processed branch to the filtered one or back. -/
theorem stored_status_moves_onward (reached : Reached Edits s)
    (few : (s.savesOf id).length < 2 ^ 63) :
    (∀ row, s.office.row? id = some row → (s.statuses id).getLast? = some row.status ∧
      ∃ first, s.statuses id = first :: (s.savesOf id).map (·.message.status)) ∧
    (s.statuses id).IsChain Status.Onward ∧
    (s.statuses id).Pairwise fun earlier later =>
      (earlier = .processed → later = .processed) ∧ (earlier = .archived → later = .archived) ∧
      (earlier = .filtered → later = .filtered ∨ later = .archived) := by
  have walks : s.Walks id :=
    reached.walks (fun _ _ edits => edits.keeps) (fun _ _ edits => edits.onward) few
  refine ⟨fun row found => ⟨Scene.getLast?_statuses found, walks.stored row found⟩, walks.chain, ?_⟩
  refine (List.isChain_iff_pairwise.mp walks.chain).imp fun {earlier later} way => ⟨?_, ?_, ?_⟩
  · rintro rfl
    exact way.of_end (.inl rfl)
  · rintro rfl
    exact way.of_end (.inr rfl)
  · rintro rfl
    exact way.of_filtered

namespace Sample

open Desk.Sample

/-- A message with another status. -/
def marked (m : Message) (status : Status) : Message :=
  { m with status }

/-- Two holders have the sample message in their hands. One marks it as filtered and saves it, the
other one marks it as processed. -/
lemma reached_parted :
    ∃ s, Reached Edits s ∧ (s.savesOf "wamid.1").length = 1 ∧
      s.statuses "wamid.1" = [.received, .filtered] ∧
      ∃ copy ∈ s.copies, copy.message = marked order .processed := by
  have start : Reached Edits ⟨{}, [], []⟩ := .start rfl rfl
  have made : ({} : Office).createMessage order =
    (.ok (), { messages := some ⟨[row (.count 0)]⟩ }) := rfl
  have first := start.step (.created (runs_createRow_iff.mpr ⟨.ok (), rfl, made, rfl, rfl⟩))
  have load : getMessage { messages := some ⟨[row (.count 0)]⟩ } "wamid.1" = .ok (some order) := by
    decide +kernel
  have second := first.step (.loaded load)
  have filtered : Edits order (marked order .filtered) := @Edits.moved order .filtered true _ rfl
  have processed : Edits order (marked order .processed) := @Edits.moved order .processed true _ rfl
  have third := second.step (.revised (k := 0) rfl filtered)
  have fourth := third.step
    (.of_level (k := 0) rfl rfl rfl rfl (by decide +kernel) (by decide +kernel) rfl rfl)
  have fifth := fourth.step (.revised (k := 1) rfl processed)
  exact ⟨_, fifth, rfl, rfl, _, .tail _ (.head _), rfl⟩

/-- At the version at which one more save changes nothing every copy is saved. -/
lemma reached_saved {s : Scene} {r : Store.MessageRow} {k : Nat} {copy : Copy} {document : Json}
    (reached : Reached Edits s) (messages : s.office.messages = some ⟨[r]⟩)
    (outages : s.office.outages = [])
    (held : s.copies[k]? = some copy) (named : copy.message.id = "wamid.1")
    (own : r.id = some "wamid.1")
    (row : r.version = stuck) (version : copy.message.version = stuck)
    (stored : copy.message.stored = .ok document) :
    ∃ s' r' c, Reached Edits s' ∧ s'.office.messages = some ⟨[r']⟩ ∧ s'.office.outages = [] ∧
      s'.copies = s.copies.set k c ∧ r'.id = some "wamid.1" ∧ r'.version = stuck ∧
      s'.statuses "wamid.1" = s.statuses "wamid.1" ++ [copy.message.status] := by
  obtain ⟨next, -, level, fits⟩ := stuck_still
  rw [← named] at own
  have only {r : Store.MessageRow} (own : r.id = some copy.message.id) :
      (⟨[r]⟩ : Store.MessageTable).row? copy.message.id = some r := by
    simp [Store.MessageTable.row?, own]
  have after := congrArg some (save_stuck copy.message document own row version)
  have step : Step Edits s _ :=
    .of_level messages outages held (only own) (by rw [row, version, level])
    (by rw [version, fits]) stored (by rw [version, next])
  refine ⟨_, _, _, reached.step step, after, outages, rfl, named ▸ own, row, ?_⟩
  rw [← named]
  exact Scene.statuses_save ⟨copy.message, copy.base, some r⟩
    ((row?_of_messages messages).trans (only own))
    ((row?_of_messages after).trans
      (only (r := { r with status := copy.message.status, document := _ }) own))
    rfl rfl (by simp [Scene.savesOf])

/-- Two holders have the message in their hands then. One marks it as processed, the other one as
filtered, and both save their copies. -/
lemma reached_turned :
    ∃ s before, Reached Edits s ∧ s.statuses "wamid.1" = before ++ [.processed, .filtered] := by
  obtain ⟨⟨office, copies, saves⟩, copy, reached, messages, outages, rfl⟩ := reached_shared
  have processed :
      Edits { order with version := stuck } (marked { order with version := stuck } .processed) :=
    @Edits.moved _ .processed true _ rfl
  have filtered :
      Edits { order with version := stuck } (marked { order with version := stuck } .filtered) :=
    @Edits.moved _ .filtered true _ rfl
  have third :=
    (reached.step (.revised (k := 1) rfl processed)).step (.revised (k := 2) rfl filtered)
  obtain ⟨_, stored⟩ := Message.exists_stored_status ⟨_, stored_order⟩ .processed
  obtain ⟨_, stored'⟩ := Message.exists_stored_status ⟨_, stored_order⟩ .filtered
  obtain ⟨s₁, r₁, c₁, fourth, messages₁, outages₁, copies₁, own, row, once⟩ :=
    reached_saved (k := 1) third messages outages rfl rfl rfl rfl rfl stored
  have held : s₁.copies[2]? =
      some ⟨marked { order with version := stuck } .filtered, some (Sample.row stuck)⟩ := by
    rw [copies₁]
    rfl
  obtain ⟨s₂, r₂, c₂, fifth, -, -, -, -, -, twice⟩ :=
    reached_saved fourth messages₁ outages₁ held rfl own row rfl stored'
  rw [once, List.append_assoc] at twice
  exact ⟨s₂, _, fifth, twice⟩

end Sample

/-- A row has moved onward while somebody's copy of it went another way. -/
theorem stored_status_moves_onward_beside_copy :
    ∃ s copy, Reached Edits s ∧ (s.savesOf "wamid.1").length < 2 ^ 63 ∧ copy ∈ s.copies ∧
      copy.message.id = "wamid.1" ∧ copy.message.status = .processed ∧
      (s.statuses "wamid.1").getLast? = some .filtered ∧
      (s.statuses "wamid.1").IsChain Status.Onward := by
  obtain ⟨s, reached, once, statuses, copy, held, processed⟩ := Sample.reached_parted
  have few : (s.savesOf "wamid.1").length < 2 ^ 63 := by rw [once]; decide
  obtain ⟨-, chain, -⟩ := stored_status_moves_onward reached few
  exact ⟨s, copy, reached, few, held, by rw [processed]; rfl, by rw [processed]; rfl,
    by rw [statuses]; rfl, chain⟩

/-- Beyond the count of the column a row gets from processed to filtered. -/
theorem status_turns_back_beyond_count :
    ¬ ∀ s, Reached Edits s → ∀ id, (s.statuses id).IsChain Status.Onward := by
  intro never
  obtain ⟨s, before, reached, statuses⟩ := Sample.reached_turned
  have chain := never s reached "wamid.1"
  rw [statuses] at chain
  have last := List.isChain_pair.mp (List.isChain_append.mp chain).2.1
  cases last.of_end (.inl rfl)

end ChatTriage.Office
