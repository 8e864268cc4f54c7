import ChatTriage.Proofs.Office.Settled

/-!
# Versions against lost updates

`Scene.Sound` ties the version of every copy of a message to the history of its row: a copy is never
ahead of the row, and one that is level with it descends from what stands in the row. A save goes
through from a copy that is level, and puts all the others behind. This lasts as long as the column
of versions can count the saves. One save beyond that the version is a binary number to which one
cannot be added any more, and saves from the same version go through one after the other.
-/

namespace ChatTriage.Office

variable {revises : Message → Message → Prop} {s s' : Scene} {t : Store.MessageTable} {o' : Office}
  {m m' : Message} {world : World} {id : String}

/-- The versions of an id in a scene tell its history. The row counts the saves; no copy is ahead of
it, and one that is level with it descends from what stands in the row; the saves came from one
version after the other, each from a copy that descends from the row it overwrote. -/
structure Scene.Sound (s : Scene) (t : Store.MessageTable) (id : String) : Prop where
  row : ∀ r, t.row? id = some r → r.version = .count (s.savesOf id).length
  absent : t.row? id = none → s.savesOf id = [] ∧ ∀ c ∈ s.copies, c.message.id ≠ id
  copies : ∀ c ∈ s.copies, c.message.id = id → ∃ k : Nat, c.message.version = .count k ∧
    k ≤ (s.savesOf id).length ∧ (k = (s.savesOf id).length → c.base = t.row? id)
  versions : (s.savesOf id).map (·.message.version) =
    (List.range (s.savesOf id).length).map fun k => .count k
  descents : ∀ save ∈ s.savesOf id, save.base = save.overwritten ∧ save.overwritten.isSome

/-- A save of a copy that is level with its row. -/
lemma Scene.Sound.save {copy : Copy} {r : Store.MessageRow} {document : Json} {version : Version}
    (sound : s.Sound t copy.message.id) (held : copy ∈ s.copies)
    (found : t.row? copy.message.id = some r) (level : r.version.same copy.message.version = true)
    (next : copy.message.version.next = .ok version)
    (copies : ∀ c ∈ s'.copies, c ∈ s.copies ∨
      c = ⟨{ copy.message with version }, some (r.written copy.message document)⟩)
    (saves : s'.savesOf copy.message.id =
      s.savesOf copy.message.id ++ [⟨copy.message, copy.base, some r⟩])
    (few : (s'.savesOf copy.message.id).length < 2 ^ 63) :
    s'.Sound (t.save copy.message document) copy.message.id := by
  have overwritten : (t.save copy.message document).row? copy.message.id =
      some (r.written copy.message document) := Store.MessageTable.row?_save_own found level
  obtain ⟨n, counted, -, descends⟩ := sound.copies copy held rfl
  have counts := sound.row r found
  -- level with the row means that as many saves went through as the copy knows of
  rw [counts, counted, Version.same_count, beq_iff_eq, Int.natCast_inj] at level
  subst level
  rw [counted, Version.next_count, Except.ok.injEq] at next
  subst next
  have length : (s'.savesOf copy.message.id).length = (s.savesOf copy.message.id).length + 1 := by
    rw [saves, List.length_append, List.length_singleton]
  constructor
  · intro u now
    rw [overwritten, Option.some.injEq] at now
    subst now
    -- this is where the count must still fit the column
    rw [length] at few
    show r.version.raised = _
    rw [counts, Store.raised_saves few, length]
  · intro gone
    rw [overwritten] at gone
    cases gone
  · intro c member own
    obtain old | rfl := copies c member
    -- a copy that was level before is behind from now on
    · obtain ⟨k, version, behind, -⟩ := sound.copies c old own
      refine ⟨k, version, by omega, fun ahead => ?_⟩
      omega
    · exact ⟨_ + 1, rfl, Nat.le_of_eq length.symm, fun _ => overwritten.symm⟩
  · rw [length, List.range_succ, List.map_append, saves, List.map_append, sound.versions]
    rw [List.map_singleton, List.map_singleton, counted]
  · intro save member
    rw [saves] at member
    obtain old | last := List.mem_append.mp member
    · exact sound.descents save old
    · obtain rfl := List.mem_singleton.mp last
      exact ⟨(descends rfl).trans found, rfl⟩

/-- A scene in which neither the row nor the saves of an id changed, and the copies of it that are
new are no further than the row. -/
lemma Scene.Sound.other {id : String} {t' : Store.MessageTable} (sound : s.Sound t id)
    (row : t'.row? id = t.row? id) (saves : s'.savesOf id = s.savesOf id)
    (copies : ∀ c ∈ s'.copies, c.message.id = id → c ∈ s.copies ∨
      (∃ d ∈ s.copies, d.message.id = id ∧ d.message.version = c.message.version ∧
        d.base = c.base) ∨
      ∃ r, t.row? id = some r ∧ c.message.version = r.version ∧ c.base = some r) :
    s'.Sound t' id := by
  constructor
  · intro r found
    rw [saves]
    exact sound.row r (row ▸ found)
  · intro gone
    obtain ⟨none, nobody⟩ := sound.absent (row ▸ gone)
    refine ⟨saves.trans none, fun c member own => ?_⟩
    obtain old | ⟨d, old, sameId, -, -⟩ | ⟨r, found, -, -⟩ := copies c member own
    · exact nobody c old own
    · exact nobody d old sameId
    · rw [row, found] at gone
      cases gone
  · intro c member own
    rw [row, saves]
    obtain old | ⟨d, old, sameId, version, base⟩ | ⟨r, found, version, base⟩ := copies c member own
    · exact sound.copies c old own
    · rw [← version, ← base]
      exact sound.copies d old sameId
    · exact ⟨_, version.trans (sound.row r found), Nat.le_refl _, fun _ => base.trans found.symm⟩
  · rw [saves]
    exact sound.versions
  · rw [saves]
    exact sound.descents

/-- A row that is created starts its history. -/
lemma Scene.Sound.create {document : Json} (sound : s.Sound t m.id) (free : t.row? m.id = none)
    (copies : s'.copies = s.copies ++ [⟨{ m with version := .count 0 }, some (.fresh m document)⟩])
    (saves : s'.savesOf m.id = s.savesOf m.id) : s'.Sound (t.add (.fresh m document)) m.id := by
  obtain ⟨none, nobody⟩ := sound.absent free
  have there : (t.add (.fresh m document)).row? m.id = some (.fresh m document) := by
    rw [Store.MessageTable.row?_add, free]
    simp [Store.MessageRow.fresh]
  rw [none] at saves
  constructor
  · intro r found
    rw [there, Option.some.injEq] at found
    subst found
    rw [saves]
    rfl
  · intro gone
    rw [there] at gone
    cases gone
  · intro c member own
    rw [copies] at member
    obtain old | last := List.mem_append.mp member
    · exact absurd own (nobody c old)
    · obtain rfl := List.mem_singleton.mp last
      exact ⟨0, rfl, Nat.zero_le _, fun _ => there.symm⟩
  · rw [saves]
    rfl
  · rw [saves]
    exact fun save member => absurd member List.not_mem_nil

/-- What the versions of an id tell stays true as long as its row can count the saves. -/
lemma Move.sound {id : String} {t' : Store.MessageTable} (keeps : ∀ m n, revises m n → Revises m n)
    (kept : s.Kept t) (kept' : s'.Kept t') (sound : s.Sound t id) (move : Move revises t s s')
    (few : (s'.savesOf id).length < 2 ^ 63) : s'.Sound t' id := by
  have table := kept'.messages
  cases move with
  | idle =>
    cases kept.messages.symm.trans table
    exact sound
  -- in each case the move is about the row of this id or about another one
  | @create m document free stored =>
    cases table
    by_cases own : m.id = id
    · subst own
      exact sound.create free rfl rfl
    · refine sound.other ?_ rfl fun c member mine => ?_
      · rw [Store.MessageTable.row?_add]
        simp [Store.MessageRow.fresh, own]
      · obtain old | last := List.mem_append.mp member
        · exact .inl old
        · obtain rfl := List.mem_singleton.mp last
          exact absurd mine own
  | @load m r found status version =>
    cases kept.messages.symm.trans table
    refine sound.other rfl rfl fun c member mine => ?_
    obtain old | last := List.mem_append.mp member
    · exact .inl old
    · obtain rfl := List.mem_singleton.mp last
      exact .inr (.inr ⟨r, mine ▸ found, version, rfl⟩)
  | @revise k copy m held revision =>
    cases kept.messages.symm.trans table
    refine sound.other rfl rfl fun c member mine => ?_
    obtain old | rfl := List.mem_or_eq_of_mem_set member
    · exact .inl old
    · obtain ⟨sameId, version⟩ := keeps _ _ revision
      exact .inr (.inl ⟨copy, List.mem_of_getElem? held, sameId.symm.trans mine, version.symm, rfl⟩)
  | @save k copy r document version held found level stored next =>
    cases table
    by_cases own : copy.message.id = id
    · subst own
      exact sound.save (List.mem_of_getElem? held) found level next
        (fun c member => List.mem_or_eq_of_mem_set member) (by simp [Scene.savesOf]) few
    · refine sound.other
        (Store.MessageTable.row?_save_other (Ne.symm own)) ?_ fun c member mine => ?_
      · simp [Scene.savesOf, own]
      · obtain old | rfl := List.mem_or_eq_of_mem_set member
        · exact .inl old
        · exact absurd mine own

/-- Behind every scene that is reached, the versions of an id tell its history as long as the row
can count the saves. -/
lemma Reached.sound {id : String} (keeps : ∀ m n, revises m n → Revises m n)
    (reached : Reached revises s)
    (few : (s.savesOf id).length < 2 ^ 63) : ∃ t, s.Kept t ∧ s.Sound t id := by
  induction reached with
  | start messages outages =>
    have start : Reached revises ⟨_, [], []⟩ := .start messages outages
    obtain ⟨t, kept⟩ := start.kept keeps
    cases kept.messages.symm.trans messages
    refine ⟨{}, kept, nofun, fun _ => ⟨rfl, ?_⟩, ?_, rfl, ?_⟩
    all_goals exact fun x member => absurd member List.not_mem_nil
  | step _ step ih =>
    -- the bound on all saves bounds those before the last step
    obtain ⟨t, kept, sound⟩ := ih (Nat.lt_of_le_of_lt (step.savesOf_le id) few)
    obtain ⟨t', kept'⟩ := (step.move kept).kept keeps kept
    exact ⟨t', kept', (step.move kept).sound keeps kept kept' sound few⟩

/-- A copy is saved when it is level with its row. -/
lemma Scene.Sound.runs_save {copy : Copy} {r : Store.MessageRow} {document : Json}
    {result : Except Fault (Except Fault Unit)} (kept : s.Kept t)
    (sound : s.Sound t copy.message.id)
    (held : copy ∈ s.copies) (found : t.row? copy.message.id = some r)
    (stored : copy.message.stored = .ok document)
    (few : (s.savesOf copy.message.id).length + 1 < 2 ^ 63)
    (run : Act.Runs (workOn copy.message Desk.save) s.office world (result, m') o') :
    (result = .ok (.ok ()) ↔ copy.message.version = r.version) ∧
    (result = .ok (.ok ()) →
      m' = { copy.message with version := .count ((s.savesOf copy.message.id).length + 1 : Nat) } ∧
      o'.messages = some (t.save copy.message document) ∧
      r.written copy.message document = ⟨some copy.message.id, copy.message.status,
        .count ((s.savesOf copy.message.id).length + 1 : Nat), .written document⟩) := by
  obtain ⟨k, version, behind, -⟩ := sound.copies copy held rfl
  have counts := sound.row r found
  have fits : copy.message.version.fits = true := by
    rw [version]
    exact Store.fits_count (by omega)
  have level : r.version.same copy.message.version = true ↔ copy.message.version = r.version := by
    rw [counts, version, Version.same_count, beq_iff_eq, Version.count.injEq, eq_comm]
  -- whether some row is copied depends on the one row of the id, as the table is keyed
  have goes : t.rows.any (·.isCopied copy.message) = true ↔ copy.message.version = r.version := by
    rw [kept.keyed.any_isCopied_iff, found, ← level]
    simp
  obtain ⟨answer, -, saved, rfl, rfl⟩ := runs_save_iff.mp run
  rw [(copy.message.kept_isNumber (kept.copies copy held) answer).1]
  constructor
  · constructor
    · intro same
      cases same
      obtain ⟨-, t₁, -, messages, -, -, copied, -⟩ := saveMessage_eq_ok_iff.mp saved
      cases kept.messages.symm.trans messages
      exact goes.mp copied
    · intro same
      have through := saveMessage_eq_ok_iff.mpr
        ⟨kept.outages ▸ rfl, t, document, kept.messages, stored, fits, goes.mpr same, rfl⟩
      rw [through] at saved
      cases saved
      rfl
  · intro same
    cases same
    obtain ⟨-, t₁, document₁, messages, stored₁, -, copied, rfl⟩ := saveMessage_eq_ok_iff.mp saved
    cases kept.messages.symm.trans messages
    cases stored.symm.trans stored₁
    have equal := goes.mp copied
    have next : copy.message.version.next =
        .ok (.count ((s.savesOf copy.message.id).length + 1 : Nat)) := by
      rw [equal, counts]
      rfl
    refine ⟨by rw [Message.kept_ok next], rfl, ?_⟩
    rw [Store.MessageRow.written, counts, Store.raised_saves few, Store.MessageTable.row?_id found]

/-- No update is lost as long as the row of a message can count its saves. Whatever its holders do,
the row counts the saves that went through, these came from the versions from zero on, each once,
and each from a copy that descends from what it overwrote. A copy is saved exactly when it is level
with its row; its status and its contents are then written to that row alone, and both versions are
raised by one. A save that does not go through changes neither the message nor the office. -/
theorem no_lost_update (reached : Reached Revises s) (few : (s.savesOf id).length < 2 ^ 63) :
    (∀ row, s.office.row? id = some row → row.version = .count (s.savesOf id).length) ∧
    (s.savesOf id).map (·.message.version) =
      ((List.range (s.savesOf id).length).map fun k => .count k) ∧
    (∀ save ∈ s.savesOf id, save.base = save.overwritten ∧ save.overwritten.isSome) ∧
    (∀ copy ∈ s.copies, copy.message.id = id → (s.savesOf id).length + 1 < 2 ^ 63 →
      ∃ row, s.office.row? id = some row ∧ ∀ document world r m' o',
        copy.message.stored = .ok document →
        Act.Runs (workOn copy.message Desk.save) s.office world (r, m') o' →
        (r = .ok (.ok ()) ↔ copy.message.version = row.version) ∧
        (r = .ok (.ok ()) →
          m' = { copy.message with version := .count ((s.savesOf id).length + 1 : Nat) } ∧
          o'.row? id = some ⟨some id, copy.message.status, .count ((s.savesOf id).length + 1 : Nat),
            .written document⟩ ∧
          ∀ other, other ≠ id → o'.row? other = s.office.row? other)) ∧
    ∀ m world r m' o', m.version.IsNumber →
      Act.Runs (workOn m Desk.save) s.office world (r, m') o' → r ≠ .ok (.ok ()) →
      m' = m ∧ o' = s.office := by
  obtain ⟨t, kept, sound⟩ := reached.sound (fun _ _ revision => revision) few
  have rows (other : String) : s.office.row? other = t.row? other := row?_of_messages kept.messages
  refine ⟨fun row found => sound.row row (rows id ▸ found), sound.versions, sound.descents, ?_,
    fun m world r m' o' number run failed => unchanged_of_unsaved number run failed⟩
  rintro copy held rfl fewer
  cases found : t.row? copy.message.id with
  | none => exact absurd rfl ((sound.absent found).2 copy held)
  | some row =>
    refine ⟨row, (rows _).trans found, fun document world r m' o' stored run => ?_⟩
    obtain ⟨level, effect⟩ := sound.runs_save kept held found stored fewer run
    refine ⟨level, fun through => ?_⟩
    obtain ⟨raised, messages, written⟩ := effect through
    have same : row.version.same copy.message.version = true := by
      rw [level.mp through, sound.row row found, Version.same_count, beq_self_eq_true]
    refine ⟨raised, ?_, fun other differ => ?_⟩
    · rw [row?_of_messages messages, Store.MessageTable.row?_save_own found same, written]
    · rw [row?_of_messages messages, rows, Store.MessageTable.row?_save_other differ]

/-- A copy that is level with its row can be saved. -/
lemma Step.of_level {k : Nat} {copy : Copy} {r : Store.MessageRow} {document : Json}
    {version : Version}
    (messages : s.office.messages = some t) (outages : s.office.outages = [])
    (held : s.copies[k]? = some copy) (found : t.row? copy.message.id = some r)
    (level : r.version.same copy.message.version = true) (fits : copy.message.version.fits = true)
    (stored : copy.message.stored = .ok document) (next : copy.message.version.next = .ok version) :
    Step revises s ⟨{ s.office with messages := some (t.save copy.message document) },
      s.copies.set k ⟨{ copy.message with version }, some (r.written copy.message document)⟩,
      s.saves ++ [⟨copy.message, copy.base, some r⟩]⟩ := by
  have copied : t.rows.any (·.isCopied copy.message) = true := by
    refine List.any_eq_true.mpr ⟨r, List.mem_of_find?_eq_some found, ?_⟩
    simp [Store.MessageRow.isCopied, Store.MessageTable.row?_id found, level]
  have through := saveMessage_eq_ok_iff.mpr
    ⟨outages ▸ rfl, t, document, messages, stored, fits, copied, rfl⟩
  have run := runs_save_iff.mpr ⟨.ok (), rfl, through, rfl, rfl⟩
  rw [Message.kept_ok next] at run
  have step : Step revises s _ := .saved held run
  rw [row?_of_messages messages, found, row?_of_messages rfl,
    Store.MessageTable.row?_save_own found level] at step
  exact step

namespace Sample

open Desk.Sample

/-- The row of the sample message at a version. -/
def row (version : Version) : Store.MessageRow :=
  ⟨some "wamid.1", .received, version, .written (order.document "2024-01-01T10:00:00+00:00")⟩

/-- The version of a row after one save more than its column can count. -/
def stuck : Version :=
  (Version.count (2 ^ 63 - 1 : Nat)).raised

/-- The sample message at that version, with a tag. -/
def tagged : Message :=
  { order with version := stuck, metadata := order.metadata.addTag (.str "first") }

/-- The save of a message over the only row. -/
lemma save_row {r : Store.MessageRow} (m : Message) (document : Json) (own : r.id = some m.id)
    (level : r.version.same m.version = true) :
    (⟨[r]⟩ : Store.MessageTable).save m document = ⟨[r.written m document]⟩ := by
  simp [Store.MessageTable.save, Store.MessageRow.saved, Store.MessageRow.isCopied, own, level]

/-- A row is saved as often as its column can count. -/
lemma reached_row {n : Nat} (few : n < 2 ^ 63) :
    ∃ s, Reached revises s ∧ s.office.messages = some ⟨[row (.count n)]⟩ ∧ s.office.outages = [] ∧
      ∃ base, s.copies = [⟨{ order with version := .count n }, base⟩] := by
  induction n with
  | zero =>
    have start : Reached revises ⟨{}, [], []⟩ := .start rfl rfl
    have made : ({} : Office).createMessage order =
      (.ok (), { messages := some ⟨[row (.count 0)]⟩ }) := rfl
    have run := runs_createRow_iff.mpr ⟨.ok (), rfl, made, rfl, rfl⟩
    exact ⟨_, start.step (.created run), rfl, rfl, _, rfl⟩
  | succ n ih =>
    obtain ⟨s, reached, messages, outages, base, copies⟩ := ih (by omega)
    -- the one copy is level with the row after every save
    have held : s.copies[0]? = some ⟨{ order with version := .count n }, base⟩ := by
      rw [copies]; rfl
    have level : (Version.count n).same (.count n) = true := by simp
    have step : Step revises s _ := .of_level messages outages held rfl level
      (Store.fits_count (by omega)) stored_order rfl
    refine ⟨_, reached.step step, ?_, outages, _, by rw [copies]; rfl⟩
    rw [save_row _ _ rfl level, Store.MessageRow.written]
    simp only [row, Store.raised_saves few]
    rfl

/-- The message is saved once more than its row can count. -/
lemma reached_stuck :
    ∃ s, Reached revises s ∧ s.office.messages = some ⟨[row stuck]⟩ ∧ s.office.outages = [] ∧
      ∃ copy, s.copies = [copy] := by
  obtain ⟨s, reached, messages, outages, base, copies⟩ := reached_row (n := 2 ^ 63 - 1) (by decide)
  have held : s.copies[0]? = some ⟨{ order with version := .count (2 ^ 63 - 1 : Nat) }, base⟩ := by
    rw [copies]; rfl
  have level : (Version.count (2 ^ 63 - 1 : Nat)).same (.count (2 ^ 63 - 1 : Nat)) = true := by simp
  have step : Step revises s _ := .of_level messages outages held rfl level
    (Store.fits_count (by decide)) stored_order rfl
  refine ⟨_, reached.step step, ?_, outages, _, by rw [copies]; rfl⟩
  rw [save_row _ _ rfl level]
  rfl

/-- At this version one more save changes nothing, so that a row stays level with all of its
copies. -/
lemma stuck_still : stuck.next = .ok stuck ∧ stuck.raised = stuck ∧ stuck.same stuck = true ∧
    stuck.fits = true := by
  decide +kernel

/-- A save leaves a version that is stuck. -/
lemma save_stuck {r : Store.MessageRow} (m : Message) (document : Json) (own : r.id = some m.id)
    (row : r.version = stuck) (copy : m.version = stuck) :
    (⟨[r]⟩ : Store.MessageTable).save m document =
      ⟨[{ r with status := m.status, document := .written document }]⟩ := by
  obtain ⟨-, raised, level, -⟩ := stuck_still
  rw [save_row m document own (by rw [row, copy]; exact level), Store.MessageRow.written, row,
    raised, ← row]

/-- Two holders then load the message. -/
lemma reached_shared :
    ∃ s copy, Reached revises s ∧ s.office.messages = some ⟨[row stuck]⟩ ∧ s.office.outages = [] ∧
      s.copies = [copy, ⟨{ order with version := stuck }, some (row stuck)⟩,
        ⟨{ order with version := stuck }, some (row stuck)⟩] := by
  obtain ⟨s, reached, messages, outages, copy, copies⟩ := reached_stuck
  have load : s.office.getMessage "wamid.1" = .ok (some { order with version := stuck }) := by
    unfold getMessage unlessOut
    rw [messages, outages]
    decide +kernel
  have base : s.office.row? "wamid.1" = some (row stuck) := by
    rw [row?_of_messages messages]
    rfl
  have first : Reached revises _ := reached.step (.loaded load)
  have second := first.step (.loaded load)
  rw [base, copies] at second
  exact ⟨_, copy, second, messages, outages, rfl⟩

/-- One of them puts a tag on the message, and both save their copies. -/
lemma reached_twice :
    ∃ s saves, Reached Revises s ∧ s.saves = saves ++
      [⟨tagged, some (row stuck), some (row stuck)⟩,
        ⟨{ order with version := stuck }, some (row stuck), some { row stuck with
          document := .written (tagged.document "2024-01-01T10:00:00+00:00") }⟩] := by
  obtain ⟨⟨office, copies, saves⟩, copy, reached, messages, outages, rfl⟩ := reached_shared
  obtain ⟨next, -, level, fits⟩ := stuck_still
  have revision : Revises { order with version := stuck } tagged := ⟨rfl, rfl⟩
  -- the copy from before is left alone; the two that are loaded here are the second and the third
  have third := reached.step (.revised (k := 1) rfl revision)
  have fourth := third.step (.of_level (k := 1) messages outages rfl rfl level fits rfl next)
  have after :=
    save_stuck (r := row stuck) tagged (tagged.document "2024-01-01T10:00:00+00:00") rfl rfl rfl
  have fifth :=
    fourth.step (.of_level (k := 2) (congrArg some after) outages rfl rfl level fits rfl next)
  exact ⟨_, saves, fifth, by rw [List.append_assoc]; rfl⟩

/-- Two holders have the message in their hands, and one of them has saved it. -/
lemma reached_stale :
    ∃ s, Reached Revises s ∧ ⟨order, some (row (.count 0))⟩ ∈ s.copies ∧
      (s.savesOf "wamid.1").length = 1 := by
  have start : Reached Revises ⟨{}, [], []⟩ := .start rfl rfl
  have made : ({} : Office).createMessage order =
    (.ok (), { messages := some ⟨[row (.count 0)]⟩ }) := rfl
  have first := start.step (.created (runs_createRow_iff.mpr ⟨.ok (), rfl, made, rfl, rfl⟩))
  have load : getMessage { messages := some ⟨[row (.count 0)]⟩ } "wamid.1" = .ok (some order) := by
    decide +kernel
  have second := first.step (.loaded load)
  have third :=
    second.step (.of_level (k := 0) rfl rfl rfl rfl (by decide +kernel) (by decide +kernel) rfl rfl)
  exact ⟨_, third, .tail _ (.head _), rfl⟩

end Sample

/-- A stale copy is not saved. -/
theorem stale_copy_unsaved :
    ∃ s copy, Reached Revises s ∧ (s.savesOf "wamid.1").length < 2 ^ 63 ∧ copy ∈ s.copies ∧
      ∀ world r m' o', Act.Runs (workOn copy.message Desk.save) s.office world (r, m') o' →
        r ≠ .ok (.ok ()) ∧ m' = copy.message ∧ o' = s.office := by
  obtain ⟨s, reached, held, once⟩ := Sample.reached_stale
  have few : (s.savesOf "wamid.1").length < 2 ^ 63 := by rw [once]; decide
  obtain ⟨counts, -, -, saves, unsaved⟩ := no_lost_update reached few
  obtain ⟨row, found, save⟩ := saves _ held rfl (by rw [once]; decide)
  refine ⟨s, _, reached, few, held, fun world r m' o' run => ?_⟩
  have failed : r ≠ .ok (.ok ()) := by
    intro through
    have level := (save _ world r m' o' rfl run).1.mp through
    rw [counts row found, once] at level
    cases level
  exact ⟨failed, unsaved _ world r m' o' nofun run failed⟩

/-- Beyond the count of the column two copies of one version are both saved, and the second
overwrites what the first one wrote. -/
theorem update_lost_beyond_count :
    ¬ ∀ s, Reached Revises s → ∀ id,
      ((s.savesOf id).Pairwise fun a b => a.message.version ≠ b.message.version) ∧
      ∀ save ∈ s.savesOf id, save.base = save.overwritten := by
  intro never
  obtain ⟨s, saves, reached, history⟩ := Sample.reached_twice
  obtain ⟨distinct, -⟩ := never s reached "wamid.1"
  -- the last two saves of the history came from one version
  unfold Scene.savesOf at distinct
  rw [history, List.filter_append, List.pairwise_append] at distinct
  obtain ⟨-, last, -⟩ := distinct
  exact (List.pairwise_cons.mp last).1 _ List.mem_cons_self rfl

end ChatTriage.Office
