import ChatTriage.Proofs.Desk.Process
import ChatTriage.Proofs.Office.Tables

/-!
# Copies of a stored message

Any number of holders have copies of messages in their hands, each from creating the row or from
loading it, and change and save them in any order. `Reached` are the scenes that this leads to from
an empty table. Beside each copy stands the row that it was last in step with, and beside each save
that went through the row that it overwrote; the two are only kept for the sake of what is said
about them.

`Step.move` says once what a step can do to the table and the copies, and `Reached.kept` what stands
behind every scene.
-/

namespace ChatTriage.Office

/-- The row of an id. -/
def row? (o : Office) (id : String) : Option Store.MessageRow :=
  o.messages.bind (·.row? id)

/-- A copy of a message, and the row that it was last in step with. -/
structure Copy where
  message : Message
  base : Option Store.MessageRow

/-- A save that went through: the message, the row that its copy was last in step with, and the row
that it was written over. -/
structure Save where
  message : Message
  base : Option Store.MessageRow
  overwritten : Option Store.MessageRow

/-- An office, the copies in people's hands, and the saves that went through so far. -/
structure Scene where
  office : Office
  copies : List Copy
  saves : List Save

/-- A revision of a message as its holders make them: whatever they change, it keeps its id and
version. -/
def Revises (m n : Message) : Prop :=
  n.id = m.id ∧ n.version = m.version

/-- Somebody creates a row, loads a message, revises a copy or saves one. -/
inductive Step (revises : Message → Message → Prop) : Scene → Scene → Prop where
  | created {s m m' o' world} :
    Act.Runs (workOn m Desk.createRow) s.office world (.ok (.ok ()), m') o' →
    Step revises s ⟨o', s.copies ++ [⟨m', o'.row? m.id⟩], s.saves⟩
  | uncreated {s m m' o' world e} :
    Act.Runs (workOn m Desk.createRow) s.office world (.ok (.error e), m') o' →
    Step revises s ⟨o', s.copies, s.saves⟩
  | loaded {s m id} :
    s.office.getMessage id = .ok (some m) →
    Step revises s ⟨s.office, s.copies ++ [⟨m, s.office.row? id⟩], s.saves⟩
  | revised {s k copy m} :
    s.copies[k]? = some copy →
    revises copy.message m →
    Step revises s ⟨s.office, s.copies.set k ⟨m, copy.base⟩, s.saves⟩
  | saved {s k copy m' o' world} :
    s.copies[k]? = some copy →
    Act.Runs (workOn copy.message Desk.save) s.office world (.ok (.ok ()), m') o' →
    Step revises s ⟨o', s.copies.set k ⟨m', o'.row? copy.message.id⟩,
      s.saves ++ [⟨copy.message, copy.base, s.office.row? copy.message.id⟩]⟩
  | unsaved {s k copy m' o' world e} :
    s.copies[k]? = some copy →
    Act.Runs (workOn copy.message Desk.save) s.office world (.ok (.error e), m') o' →
    Step revises s ⟨o', s.copies.set k ⟨m', copy.base⟩, s.saves⟩

/-- The scenes that steps lead to from an empty table in an office where nothing is out of order. -/
inductive Reached (revises : Message → Message → Prop) : Scene → Prop where
  | start {o} :
    o.messages = some {} →
    o.outages = [] →
    Reached revises ⟨o, [], []⟩
  | step {s s'} :
    Reached revises s →
    Step revises s s' →
    Reached revises s'

variable {o o' : Office} {m m' : Message} {world : World}

/-- A copy is created at the office. -/
lemma runs_createRow_iff {r : Except Fault (Except Fault Unit)} :
    Act.Runs (workOn m Desk.createRow) o world (r, m') o' ↔
      ∃ result, world = [] ∧ o.createMessage m = (result, o') ∧ r = .ok result ∧
        m' = m.listed result := by
  rw [runs_workOn_iff]
  constructor
  · rintro ⟨log, run, serves⟩
    obtain ⟨result, rfl, rfl, rfl⟩ := Desk.runs_createRow_iff.mp run
    obtain ⟨rfl, created⟩ := answer_createMessage_iff.mp (serves_one_iff.mp serves)
    exact ⟨result, rfl, created, rfl, rfl⟩
  · rintro ⟨result, rfl, created, rfl, rfl⟩
    exact ⟨[⟨.createMessage m, result⟩], Desk.runs_createRow_iff.mpr ⟨result, rfl, rfl, rfl⟩,
      serves_one_iff.mpr (answer_createMessage_iff.mpr ⟨rfl, created⟩)⟩

/-- A copy is saved at the office. -/
lemma runs_save_iff {r : Except Fault (Except Fault Unit)} :
    Act.Runs (workOn m Desk.save) o world (r, m') o' ↔
      ∃ result, world = [] ∧ o.saveMessage m = (result, o') ∧ r = .ok (m.kept result).1 ∧
        m' = (m.kept result).2 := by
  rw [runs_workOn_iff]
  constructor
  · rintro ⟨log, run, serves⟩
    obtain ⟨result, rfl, rfl, rfl⟩ := Desk.runs_save_iff.mp run
    obtain ⟨rfl, saved⟩ := answer_saveMessage_iff.mp (serves_one_iff.mp serves)
    exact ⟨result, rfl, saved, rfl, rfl⟩
  · rintro ⟨result, rfl, saved, rfl, rfl⟩
    exact ⟨[⟨.saveMessage m, result⟩], Desk.runs_save_iff.mpr ⟨result, rfl, rfl, rfl⟩,
      serves_one_iff.mpr (answer_saveMessage_iff.mpr ⟨rfl, saved⟩)⟩

/-- What stands behind every scene: the stores are in order, the table is keyed and was written by
the desk, and the versions in it and in people's hands are numbers. -/
structure Scene.Kept (s : Scene) (t : Store.MessageTable) : Prop where
  messages : s.office.messages = some t
  outages : s.office.outages = []
  keyed : t.Keyed
  written : t.Written
  rows : ∀ r ∈ t.rows, r.version.IsNumber
  copies : ∀ c ∈ s.copies, c.message.version.IsNumber

/-- What a step comes to in terms of the table. -/
inductive Move (revises : Message → Message → Prop) (t : Store.MessageTable) :
    Scene → Scene → Prop where
  | idle {s} :
    Move revises t s s
  | create {s m document} :
    t.row? m.id = none →
    m.stored = .ok document →
    Move revises t s ⟨{ s.office with messages := some (t.add (.fresh m document)) },
      s.copies ++ [⟨{ m with version := .count 0 }, some (.fresh m document)⟩], s.saves⟩
  | load {s m r} :
    t.row? m.id = some r →
    m.status = r.status →
    m.version = r.version →
    Move revises t s ⟨s.office, s.copies ++ [⟨m, some r⟩], s.saves⟩
  | revise {s k copy m} :
    s.copies[k]? = some copy →
    revises copy.message m →
    Move revises t s ⟨s.office, s.copies.set k ⟨m, copy.base⟩, s.saves⟩
  | save {s k copy r document version} :
    s.copies[k]? = some copy →
    t.row? copy.message.id = some r →
    r.version.same copy.message.version = true →
    copy.message.stored = .ok document →
    copy.message.version.next = .ok version →
    Move revises t s ⟨{ s.office with messages := some (t.save copy.message document) },
      s.copies.set k ⟨{ copy.message with version }, some (r.written copy.message document)⟩,
      s.saves ++ [⟨copy.message, copy.base, some r⟩]⟩

/-- A row is found in the table of the office. -/
lemma row?_of_messages {t : Store.MessageTable} {id : String} (messages : o.messages = some t) :
    o.row? id = t.row? id := by
  unfold row?
  rw [messages]
  rfl

/-- A message that is loaded from a table the desk wrote belongs to a row with its id. -/
lemma row_of_getMessage {t : Store.MessageTable} {id : String} (messages : o.messages = some t)
    (written : t.Written) (loaded : o.getMessage id = .ok (some m)) :
    m.id = id ∧ ∃ r, t.row? id = some r ∧ m.status = r.status ∧ m.version = r.version := by
  unfold getMessage unlessOut at loaded
  split at loaded
  · cases loaded
  · rw [messages] at loaded
    obtain ⟨r, found, read⟩ := Store.exists_row_of_getMessage loaded
    obtain ⟨k, date, own, status, document⟩ := written r (List.mem_of_find?_eq_some found)
    obtain ⟨sameId, sameStatus, version⟩ := r.load_eq document read
    have named := Store.MessageTable.row?_id found
    rw [own, Option.some.injEq] at named
    exact ⟨sameId.trans named, r, found, sameStatus.trans status.symm, version⟩

/-- A step has one of five effects. -/
lemma Step.move {revises : Message → Message → Prop} {s s' : Scene} {t : Store.MessageTable}
    (kept : s.Kept t) (step : Step revises s s') : Move revises t s s' := by
  cases step with
  | created run =>
    obtain ⟨result, -, created, same, rfl⟩ := runs_createRow_iff.mp run
    cases same
    obtain ⟨-, t₁, document, messages, stored, free, rfl⟩ := createMessage_eq_ok_iff.mp created
    cases kept.messages.symm.trans messages
    -- the row that the new copy is in step with is the fresh one
    rw [row?_of_messages rfl, Store.MessageTable.row?_add, free]
    simp only [Option.none_or, Store.MessageRow.fresh, if_true]
    exact .create free stored
  | uncreated run =>
    obtain ⟨result, -, refused, same, -⟩ := runs_createRow_iff.mp run
    cases same
    rw [same_of_createMessage refused]
    exact .idle
  | loaded loaded =>
    obtain ⟨rfl, r, found, status, version⟩ := row_of_getMessage kept.messages kept.written loaded
    rw [row?_of_messages kept.messages, found]
    exact .load found status version
  | revised held revision => exact .revise held revision
  | @saved _ copy _ _ _ held run =>
    obtain ⟨result, -, saved, same, rfl⟩ := runs_save_iff.mp run
    have number := kept.copies copy (List.mem_of_getElem? held)
    obtain ⟨version, next, -⟩ := number.next
    rw [Except.ok.injEq, (copy.message.kept_isNumber number result).1] at same
    subst same
    obtain ⟨-, t₁, document, messages, stored, -, copied, rfl⟩ := saveMessage_eq_ok_iff.mp saved
    cases kept.messages.symm.trans messages
    -- the save counts the rows that it copied, of which there is one at most
    obtain ⟨r, found, level⟩ := kept.keyed.any_isCopied_iff.mp copied
    rw [row?_of_messages kept.messages, found, row?_of_messages rfl,
      Store.MessageTable.row?_save_own found level, Message.kept_ok next]
    exact .save held found level stored next
  | @unsaved k copy _ _ _ _ held run =>
    obtain ⟨result, -, refused, same, rfl⟩ := runs_save_iff.mp run
    have number := kept.copies copy (List.mem_of_getElem? held)
    rw [Except.ok.injEq, (copy.message.kept_isNumber number result).1] at same
    subst same
    rw [same_of_saveMessage refused, Message.kept_error]
    obtain ⟨inside, rfl⟩ := List.getElem?_eq_some_iff.mp held
    rw [List.set_getElem_self]
    exact .idle

/-- A number is raised to a number. -/
lemma isNumber_raised {v : Version} (number : v.IsNumber) : v.raised.IsNumber := by
  cases v with
  | count n =>
    cases fits : Store.fits (n + 1) <;>
      simp [Version.raised, Version.cell, Store.Cell.plusOne, Store.Cell.amount,
        Version.ofCell?, fits, Version.IsNumber]
  -- a sum of numbers is not a text, whatever rounding does to it
  | real x =>
    unfold Version.raised Version.cell Store.Cell.plusOne Store.Cell.amount Store.Cell.ofDouble
    simp only
    split <;> (intro text impossible; cases impossible)
  | word text => exact absurd rfl (number text)

variable {revises : Message → Message → Prop} {s s' : Scene} {t : Store.MessageTable}

/-- Every step leaves behind what it found. -/
lemma Move.kept (keeps : ∀ m n, revises m n → Revises m n) (kept : s.Kept t)
    (move : Move revises t s s') : ∃ t', s'.Kept t' := by
  cases move with
  | idle => exact ⟨t, kept⟩
  | @create m document free stored =>
    refine ⟨_, rfl, kept.outages, kept.keyed.add ?_, kept.written.add stored, ?_, ?_⟩
    · rintro id own
      cases own
      exact free
    · intro r member
      obtain old | last := List.mem_append.mp member
      · exact kept.rows r old
      · obtain rfl := List.mem_singleton.mp last
        exact nofun
    · intro c member
      obtain old | last := List.mem_append.mp member
      · exact kept.copies c old
      · obtain rfl := List.mem_singleton.mp last
        exact nofun
  | @load m r found status version =>
    refine ⟨t, kept.messages, kept.outages, kept.keyed, kept.written, kept.rows, ?_⟩
    intro c member
    obtain old | last := List.mem_append.mp member
    · exact kept.copies c old
    · obtain rfl := List.mem_singleton.mp last
      exact version ▸ kept.rows r (List.mem_of_find?_eq_some found)
  | @revise k copy m held revision =>
    refine ⟨t, kept.messages, kept.outages, kept.keyed, kept.written, kept.rows, ?_⟩
    intro c member
    obtain old | rfl := List.mem_or_eq_of_mem_set member
    · exact kept.copies c old
    · exact (keeps _ _ revision).2 ▸ kept.copies copy (List.mem_of_getElem? held)
  -- only here versions in the table and in the hands of a holder change both
  | @save k copy r document version held found level stored next =>
    have number := kept.copies copy (List.mem_of_getElem? held)
    refine ⟨_, rfl, kept.outages, kept.keyed.save, kept.written.save stored, ?_, ?_⟩
    · intro u member
      obtain ⟨v, old, rfl⟩ := List.mem_map.mp member
      unfold Store.MessageRow.saved
      split
      · exact isNumber_raised (kept.rows v old)
      · exact kept.rows v old
    · intro c member
      obtain old | rfl := List.mem_or_eq_of_mem_set member
      · exact kept.copies c old
      · obtain ⟨w, sameNext, counts⟩ := number.next
        cases next.symm.trans sameNext
        exact counts

/-- Behind every scene that is reached there is such a table. -/
lemma Reached.kept (keeps : ∀ m n, revises m n → Revises m n) (reached : Reached revises s) :
    ∃ t, s.Kept t := by
  induction reached with
  | start messages outages =>
    refine ⟨{}, messages, outages, .nil, ?_, ?_, ?_⟩
    all_goals exact fun x member => absurd member List.not_mem_nil
  | step _ step ih =>
    obtain ⟨t, kept⟩ := ih
    exact (step.move kept).kept keeps kept

/-- The saves of an id that went through, the earliest first. -/
def Scene.savesOf (s : Scene) (id : String) : List Save :=
  s.saves.filter (·.message.id = id)

/-- Saves that went through stay in the history. -/
lemma Step.savesOf_le (step : Step revises s s') (id : String) :
    (s.savesOf id).length ≤ (s'.savesOf id).length := by
  cases step <;> simp [Scene.savesOf]

/-- A save that does not go through changes neither the message nor the office. -/
lemma unchanged_of_unsaved {r : Except Fault (Except Fault Unit)} (number : m.version.IsNumber)
    (run : Act.Runs (workOn m Desk.save) o world (r, m') o') (failed : r ≠ .ok (.ok ())) :
    m' = m ∧ o' = o := by
  obtain ⟨result, -, unsaved, rfl, rfl⟩ := runs_save_iff.mp run
  cases result with
  | error e => exact ⟨rfl, same_of_saveMessage unsaved⟩
  | ok u =>
    rw [(m.kept_isNumber number _).1] at failed
    exact absurd rfl failed

end ChatTriage.Office
