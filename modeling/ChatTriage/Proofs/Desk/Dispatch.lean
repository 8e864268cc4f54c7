import ChatTriage.Desk.Dispatch
import ChatTriage.Proofs.Desk.Run

/-!
# Runs of a dispatch

What the desk asks while it carries out filters, what it is told, and what it notes. `Carried` is
the account of one filter, `Served` that of a list of them: each filter has its message saved once,
its answer tried and every route that forwards asked, whatever the steps before came to. `Abandoned`
is the account of filters that are broken off, for which there is one way only: the route on which
the sender would be answered does not tell whether it is open. `runs_filters_ok_iff` and
`runs_filters_error_iff` say that there are no other runs.
-/

namespace ChatTriage

/-- A version that saves can count on. -/
def Version.IsNumber (v : Version) : Prop :=
  ∀ text, v ≠ .word text

/-- A number is followed by a number. -/
lemma Version.IsNumber.next {v : Version} (number : v.IsNumber) :
    ∃ w, v.next = .ok w ∧ w.IsNumber := by
  cases v with
  | count n => exact ⟨_, rfl, nofun⟩
  | real x => exact ⟨_, rfl, nofun⟩
  | word s => exact absurd rfl (number s)

namespace Message

variable {m : Message}

/-- A message that filters have been put on: filtered, and perhaps archived since. -/
def IsMatched (m : Message) : Prop :=
  m.status = .filtered ∨ m.status = .archived

/-- How a save ends, and the message afterwards, when the store gives an answer. -/
def kept (m : Message) (answer : Except Fault Unit) : Except Fault Unit × Message :=
  match answer with
  | .ok () =>
    match m.version.next with
    | .ok version => (.ok (), { m with version })
    | .error e => (.error e, m)
  | .error e => (.error e, m)

/-- A save that goes through raises the version. -/
lemma kept_ok {version : Version} (next : m.version.next = .ok version) :
    m.kept (.ok ()) = (.ok (), { m with version }) := by
  simp only [kept, next]

/-- One that fails leaves the message. -/
@[simp] lemma kept_error (e : Fault) : m.kept (.error e) = (.error e, m) := rfl

/-- A save changes nothing but the version. -/
lemma kept_eq (m : Message) (answer : Except Fault Unit) :
    ∃ version, (m.kept answer).2 = { m with version } := by
  cases answer with
  | error e => exact ⟨m.version, rfl⟩
  | ok u =>
    cases next : m.version.next with
    | ok version => exact ⟨version, by rw [kept_ok next]⟩
    | error e => exact ⟨m.version, by simp only [kept, next]⟩

/-- A saved message is still matched. -/
lemma kept_isMatched (matched : m.IsMatched) (answer : Except Fault Unit) :
    (m.kept answer).2.IsMatched := by
  obtain ⟨version, e⟩ := m.kept_eq answer
  rw [e]
  exact matched

/-- A message with a number for its version has one after a save, and only the store can have
failed. -/
lemma kept_isNumber (number : m.version.IsNumber) (answer : Except Fault Unit) :
    (m.kept answer).1 = answer ∧ (m.kept answer).2.version.IsNumber := by
  obtain ⟨version, next, counts⟩ := number.next
  cases answer with
  | ok u => rw [kept_ok next]; exact ⟨rfl, counts⟩
  | error e => exact ⟨rfl, number⟩

/-- The message with the notes of actions on it, archived if they ask for it. -/
def carry (m : Message) (a : FilterActions) : Message :=
  { m.annotate a with status := if a.archive then .archived else m.status }

/-- A message that was carried to a filter is still matched. -/
lemma carry_isMatched (matched : m.IsMatched) (a : FilterActions) : (m.carry a).IsMatched := by
  cases archived : a.archive with
  | true => exact .inr (by simp [carry, archived])
  | false => simpa [carry, archived, IsMatched] using matched

/-- A message that filters have been put on is archived without fail. -/
lemma applyActions_eq (matched : m.IsMatched) (a : FilterActions) :
    m.applyActions a = (m.carry a, none) := by
  cases archived : a.archive with
  | false =>
    have same : m.carry a = m.annotate a := by simp [carry, archived, annotate]
    simp [applyActions, archived, same]
  | true =>
    have target : m.carry a = { m.annotate a with status := .archived } := by simp [carry, archived]
    -- an archived message stays where it is, which is no failure either
    obtain filtered | done := matched
    · have move : (m.annotate a).status.move .archived = .go := by
        simp only [annotate, filtered]; rfl
      simp only [applyActions, archived, advance, move, target, if_true]
    · have move : (m.annotate a).status.move .archived = .stay := by simp only [annotate, done]; rfl
      have same : m.annotate a = { m.annotate a with status := .archived } := by
        simp only [annotate, done]
      simp only [applyActions, archived, advance, move, target, if_true, ← same]

end Message

namespace Desk

/-- What an answer to a delivery says that went wrong, if anything did. -/
def failureOf (answer : Except Fault Delivery) : Option String :=
  match answer with
  | .ok _ => none
  | .error e => some e.text

/-- What is noted about a save, by how it ended; a fault that no store reports is not noted. -/
def noted : Except Fault Unit → Except Fault (Option String)
  | .ok () => .ok none
  | .error (.conflict _) => .ok none
  | .error e => if e.isStore then .ok (some e.text) else .error e

/-- A failure of a store is noted. -/
lemma noted_of_isStore {e : Fault} (store : e.isStore = true) :
    ∃ note, noted (.error e) = .ok note := by
  cases e <;> first | exact ⟨_, rfl⟩ | cases store

/-- The sender of a message is answered, or what kept that from happening is noted. -/
inductive Replied (c : Config) (m : Message) (text : String) : Log → SideEffect → Prop where
  | nowhere :
    c.routeNamed? m.metadata.source = none →
    Replied c m text [] ⟨.autoReply, m.sender.phone, some "channel unavailable"⟩
  | closed {route} :
    c.routeNamed? m.metadata.source = some route →
    Replied c m text [⟨.available route, .ok false⟩]
      ⟨.autoReply, m.sender.phone, some "channel unavailable"⟩
  | tried {route} (answer : Except Fault Delivery) :
    c.routeNamed? m.metadata.source = some route →
    Replied c m text [⟨.available route, .ok true⟩, ⟨.send route m.sender.phone text, answer⟩]
      ⟨.autoReply, m.sender.phone, failureOf answer⟩

/-- The answers that a filter has given to the sender: one, if it asks for one. -/
inductive Replies (c : Config) (m : Message) (f : Filter) : Log → List SideEffect → Prop where
  | none :
    f.actions.autoReply.enabled = false →
    Replies c m f [] []
  | one {log effect} :
    f.actions.autoReply.enabled = true →
    Replied c m f.actions.autoReply.message log effect →
    Replies c m f log [effect]

/-- An attempt to forward a message to a destination is noted. -/
inductive Forwarded (route : Nat) (channel : String) (m : Message) (label : String) :
    String → Log → SideEffect → Prop where
  | tried {destination} (answer : Except Fault Delivery) :
    Forwarded route channel m label destination
      [⟨.forward route m destination (some label), answer⟩]
      ⟨.forward channel, destination, failureOf answer⟩

/-- A route is asked whether it is open, and passed over if it is not or does not tell. On an open
route every destination is tried. -/
inductive Routed (m : Message) (f : Filter) : Route × Nat → Log → List SideEffect → Prop where
  | opened {r route log effects} :
    Each (Forwarded route r.name m f.name) (destinations r f) log effects →
    Routed m f (r, route) (⟨.available route, .ok true⟩ :: log) effects
  | closed {r route} :
    Routed m f (r, route) [⟨.available route, .ok false⟩] []
  | silent {r route} (e : Fault) :
    Routed m f (r, route) [⟨.available route, .error e⟩] []

/-- The routes that forward, with their places. -/
def Config.forwarding (c : Config) : List (Route × Nat) :=
  c.routes.zipIdx.filter (·.1.forwards)

/-- One filter is carried out: its notes are put on the message, the message is saved, the sender is
answered and every route that forwards is asked, in this order and whatever the store and the
channels answer. -/
inductive Carried (c : Config) (f : Filter) (m : Message) :
    Log → FilterOutcome → Message → Prop where
  | mk {answer note replied forwarded replies forwards} :
    noted ((m.carry f.actions).kept answer).1 = .ok note →
    Replies c ((m.carry f.actions).kept answer).2 f replied replies →
    Each (Routed ((m.carry f.actions).kept answer).2 f) c.forwarding forwarded forwards →
    Carried c f m (⟨.saveMessage (m.carry f.actions), answer⟩ :: (replied ++ forwarded))
      ⟨f.name, note, replies ++ forwards.flatten⟩ ((m.carry f.actions).kept answer).2

/-- Filters are carried out one after the other, each with an outcome of its own. -/
inductive Served (c : Config) :
    List Filter → Message → Log → List FilterOutcome → Message → Prop where
  | nil {m : Message} :
    Served c [] m [] [] m
  | cons {f filters m m₁ m' log₁ log₂ outcome outcomes} :
    Carried c f m log₁ outcome m₁ →
    Served c filters m₁ log₂ outcomes m' →
    Served c (f :: filters) m (log₁ ++ log₂) (outcome :: outcomes) m'

/-- A filter asks for an answer on a route that does not tell whether it is open. Its message is
saved; the rest of its steps is left undone. -/
inductive Unanswered (c : Config) (f : Filter) (m : Message) : Log → Fault → Message → Prop where
  | mk {answer note route fault} :
    noted ((m.carry f.actions).kept answer).1 = .ok note →
    f.actions.autoReply.enabled = true →
    c.routeNamed? ((m.carry f.actions).kept answer).2.metadata.source = some route →
    Unanswered c f m
      [⟨.saveMessage (m.carry f.actions), answer⟩, ⟨.available route, .error fault⟩] fault
      ((m.carry f.actions).kept answer).2

/-- Filters are carried out up to one whose route does not tell whether it is open; those after it
are left undone. -/
inductive Abandoned (c : Config) :
    List Filter → Message → Log → Fault → Message → Prop where
  | here {f filters m log fault m'} :
    Unanswered c f m log fault m' →
    Abandoned c (f :: filters) m log fault m'
  | later {f filters m m₁ m' log₁ log₂ outcome fault} :
    Carried c f m log₁ outcome m₁ →
    Abandoned c filters m₁ log₂ fault m' →
    Abandoned c (f :: filters) m (log₁ ++ log₂) fault m'

variable {c : Config} {m m' : Message} {f : Filter} {filters : List Filter} {log : Log}

/-- A save asks once and keeps what it was answered. -/
lemma runs_save_iff {r : Except Fault (Except Fault Unit)} :
    Work.Runs save m log r m' ↔
      ∃ answer, log = [⟨.saveMessage m, answer⟩] ∧ r = .ok (m.kept answer).1 ∧
        m' = (m.kept answer).2 := by
  unfold save
  rw [Work.runs_get_bind_iff, Work.runs_ask_bind_iff]
  refine exists_congr fun answer => log_ends_iff fun rest => ?_
  cases answer with
  | error e => exact Work.runs_pure_iff
  | ok u =>
    cases next : m.version.next with
    | ok version =>
      simp only [Message.kept_ok next]
      exact Work.runs_set_bind_iff.trans Work.runs_pure_iff
    | error e =>
      simp only [Message.kept, next]
      exact Work.runs_pure_iff

/-- After a save nothing is asked any more, and what is told about it depends on how it ended. -/
lemma runs_save_bind_iff {α : Type} {tell : Except Fault Unit → Except Fault α}
    {r : Except Fault α} :
    Work.Runs (save >>= fun saved => ExceptT.mk (pure (tell saved))) m log r m' ↔
      ∃ answer, log = [⟨.saveMessage m, answer⟩] ∧ r = tell (m.kept answer).1 ∧
        m' = (m.kept answer).2 := by
  -- a save tells its failures as a result, and never fails itself
  rw [Work.runs_bind_of_sure]
  · constructor
    · rintro ⟨saved, m₁, log₁, log₂, rfl, run, rest⟩
      obtain ⟨answer, rfl, e, rfl⟩ := runs_save_iff.mp run
      cases e
      obtain ⟨rfl, rfl, rfl⟩ := Work.runs_result_iff.mp rest
      exact ⟨answer, rfl, rfl, rfl⟩
    · rintro ⟨answer, rfl, rfl, rfl⟩
      exact ⟨_, _, _, [], rfl, runs_save_iff.mpr ⟨answer, rfl, rfl, rfl⟩,
        Work.runs_result_iff.mpr ⟨rfl, rfl, rfl⟩⟩
  · intro log e m₁ run
    obtain ⟨answer, -, impossible, -⟩ := runs_save_iff.mp run
    cases impossible

/-- What `persist` does after the save is to note how it ended. -/
lemma persist_eq : persist = save >>= fun saved => ExceptT.mk (pure (noted saved)) := by
  refine congrArg (save >>= ·) (funext fun saved => ?_)
  cases saved with
  | ok u => rfl
  | error e => cases e <;> rfl

/-- So does a save after a filter, which notes what failed. -/
lemma runs_persist_iff {r : Except Fault (Option String)} :
    Work.Runs persist m log r m' ↔
      ∃ answer, log = [⟨.saveMessage m, answer⟩] ∧ r = noted (m.kept answer).1 ∧
        m' = (m.kept answer).2 := by
  rw [persist_eq]
  exact runs_save_bind_iff

/-- The sender is answered, or it does not come to that because the route does not tell whether it
is open. -/
lemma runs_autoReply_iff {text : String} {r : Except Fault SideEffect} :
    Task.Runs (autoReply c m text) log r ↔
      (∃ effect, r = .ok effect ∧ Replied c m text log effect) ∨
      ∃ route fault, r = .error fault ∧ c.routeNamed? m.metadata.source = some route ∧
        log = [⟨.available route, .error fault⟩] := by
  unfold autoReply
  constructor
  · intro run
    cases found : c.routeNamed? m.metadata.source with
    | none =>
      rw [found] at run
      obtain ⟨rfl, rfl⟩ := Task.runs_pure_iff.mp run
      exact .inl ⟨_, rfl, .nowhere found⟩
    | some route =>
      rw [found] at run
      obtain ⟨usable, rest, rfl, told⟩ := Task.runs_ask_bind_iff.mp run
      obtain fault | _ | _ := usable
      -- nothing catches this fault, unlike that of the delivery below
      · obtain ⟨rfl, rfl⟩ := Task.runs_throw_iff.mp told
        exact .inr ⟨route, fault, rfl, rfl, rfl⟩
      · obtain ⟨rfl, rfl⟩ := Task.runs_pure_iff.mp told
        exact .inl ⟨_, rfl, .closed found⟩
      · obtain ⟨answer, rest, rfl, sent⟩ := Task.runs_ask_bind_iff.mp told
        cases answer with
        | ok delivery =>
          obtain ⟨rfl, rfl⟩ := Task.runs_pure_iff.mp sent
          exact .inl ⟨_, rfl, .tried (.ok delivery) found⟩
        | error e =>
          obtain ⟨rfl, rfl⟩ := Task.runs_pure_iff.mp sent
          exact .inl ⟨_, rfl, .tried (.error e) found⟩
  · rintro (⟨effect, rfl, replied⟩ | ⟨route, fault, rfl, found, rfl⟩)
    · cases replied with
      | nowhere found =>
        rw [found]
        exact Task.runs_pure_iff.mpr ⟨rfl, rfl⟩
      | closed found =>
        rw [found]
        exact Task.runs_ask_bind_iff.mpr ⟨_, _, rfl, Task.runs_pure_iff.mpr ⟨rfl, rfl⟩⟩
      | tried answer found =>
        rw [found]
        refine Task.runs_ask_bind_iff.mpr ⟨_, _, rfl, Task.runs_ask_bind_iff.mpr ⟨_, _, rfl, ?_⟩⟩
        cases answer <;> exact Task.runs_pure_iff.mpr ⟨rfl, rfl⟩
    · rw [found]
      exact Task.runs_ask_bind_iff.mpr ⟨_, _, rfl, Task.runs_throw_iff.mpr ⟨rfl, rfl⟩⟩

/-- Forwarding to one destination has one of the effects of `Forwarded`. -/
lemma runs_forwardOne_iff {route : Nat} {channel label destination : String}
    {r : Except Fault SideEffect} :
    Task.Runs (forwardOne route channel m label destination) log r ↔
      ∃ effect, r = .ok effect ∧ Forwarded route channel m label destination log effect := by
  have told : Task.Runs (forwardOne route channel m label destination) log r ↔
      ∃ answer, log = [⟨.forward route m destination (some label), answer⟩] ∧
        r = .ok ⟨.forward channel, destination, failureOf answer⟩ := by
    unfold forwardOne
    rw [Task.runs_ask_bind_iff]
    refine exists_congr fun answer => log_ends_iff fun rest => ?_
    cases answer <;> exact Task.runs_pure_iff
  rw [told]
  constructor
  · rintro ⟨answer, rfl, rfl⟩
    exact ⟨_, rfl, .tried answer⟩
  · rintro ⟨effect, rfl, forwarded⟩
    cases forwarded with
    | tried answer => exact ⟨answer, rfl, rfl⟩

/-- Forwarding on a route has the effects of `Routed`. -/
lemma runs_forwardOn_iff {route : Nat} {way : Route} {r : Except Fault (List SideEffect)} :
    Task.Runs (forwardOn route way m f) log r ↔
      ∃ effects, r = .ok effects ∧ Routed m f (way, route) log effects := by
  have all {log : Log} {r : Except Fault (List SideEffect)} :
      Task.Runs ((destinations way f).mapM (forwardOne route way.name m f.name)) log r ↔
        ∃ effects, r = .ok effects ∧
          Each (Forwarded route way.name m f.name) (destinations way f) log effects :=
    Task.runs_mapM_iff fun destination log r => runs_forwardOne_iff
  unfold forwardOn
  constructor
  · intro run
    obtain ⟨usable, rest, rfl, told⟩ := Task.runs_ask_bind_iff.mp run
    obtain fault | _ | _ := usable
    -- a route that does not tell is passed over like a closed one
    · obtain ⟨rfl, rfl⟩ := Task.runs_pure_iff.mp told
      exact ⟨_, rfl, .silent fault⟩
    · obtain ⟨rfl, rfl⟩ := Task.runs_pure_iff.mp told
      exact ⟨_, rfl, .closed⟩
    · obtain ⟨effects, rfl, forwarded⟩ := all.mp told
      exact ⟨effects, rfl, .opened forwarded⟩
  · rintro ⟨effects, rfl, routed⟩
    cases routed with
    | opened forwarded =>
      exact Task.runs_ask_bind_iff.mpr ⟨_, _, rfl, all.mpr ⟨effects, rfl, forwarded⟩⟩
    | closed => exact Task.runs_ask_bind_iff.mpr ⟨_, _, rfl, Task.runs_pure_iff.mpr ⟨rfl, rfl⟩⟩
    | silent e => exact Task.runs_ask_bind_iff.mpr ⟨_, _, rfl, Task.runs_pure_iff.mpr ⟨rfl, rfl⟩⟩

/-- Forwarding never fails as a whole. -/
lemma runs_forwardAll_iff {r : Except Fault (List SideEffect)} :
    Task.Runs (forwardAll c m f) log r ↔
      ∃ forwards, r = .ok forwards.flatten ∧ Each (Routed m f) c.forwarding log forwards := by
  have all {log : Log} {r : Except Fault (List (List SideEffect))} :
      Task.Runs (c.forwarding.mapM fun way => forwardOn way.2 way.1 m f) log r ↔
        ∃ forwards, r = .ok forwards ∧ Each (Routed m f) c.forwarding log forwards :=
    Task.runs_mapM_iff fun i log r => runs_forwardOn_iff
  have eq : forwardAll c m f =
      (c.forwarding.mapM fun way => forwardOn way.2 way.1 m f) >>= fun effects =>
        pure effects.flatten := rfl
  rw [eq, Task.runs_bind_pure_iff]
  constructor
  · rintro ⟨x, run, rfl⟩
    obtain ⟨forwards, rfl, routed⟩ := all.mp run
    exact ⟨forwards, rfl, routed⟩
  · rintro ⟨forwards, rfl, routed⟩
    exact ⟨_, all.mpr ⟨forwards, rfl, routed⟩, rfl⟩

/-- The step of a filter in which the sender is answered. -/
def replying (c : Config) (m : Message) (f : Filter) : Work (List SideEffect) :=
  if f.actions.autoReply.enabled then
    (fun e => [e]) <$> Task.toWork (autoReply c m f.actions.autoReply.message)
  else pure []

/-- Answering has the effects of `Replies`, or the route does not tell whether it is open. -/
lemma runs_replying_iff {r : Except Fault (List SideEffect)} :
    Work.Runs (replying c m f) m log r m' ↔
      m' = m ∧ ((∃ effects, r = .ok effects ∧ Replies c m f log effects) ∨
        ∃ route fault, r = .error fault ∧ f.actions.autoReply.enabled = true ∧
          c.routeNamed? m.metadata.source = some route ∧
            log = [⟨.available route, .error fault⟩]) := by
  unfold replying
  cases enabled : f.actions.autoReply.enabled with
  | false =>
    rw [if_neg Bool.false_ne_true, Work.runs_pure_iff]
    constructor
    · rintro ⟨rfl, rfl, rfl⟩
      exact ⟨rfl, .inl ⟨[], rfl, .none enabled⟩⟩
    · rintro ⟨rfl, ⟨effects, rfl, replies⟩ | ⟨route, fault, -, impossible, -⟩⟩
      · cases replies with
        | none => exact ⟨rfl, rfl, rfl⟩
        | one asked => rw [enabled] at asked; cases asked
      · cases impossible
  | true =>
    rw [if_pos rfl, map_eq_pure_bind, Work.runs_bind_pure_iff]
    constructor
    · rintro ⟨x, run, rfl⟩
      obtain ⟨reply, rfl⟩ := Work.runs_toWork_iff.mp run
      obtain ⟨effect, rfl, replied⟩ | ⟨route, fault, rfl, found, rfl⟩ := runs_autoReply_iff.mp reply
      · exact ⟨rfl, .inl ⟨_, rfl, .one enabled replied⟩⟩
      · exact ⟨rfl, .inr ⟨route, fault, rfl, rfl, found, rfl⟩⟩
    · rintro ⟨rfl, ⟨effects, rfl, replies⟩ | ⟨route, fault, rfl, -, found, rfl⟩⟩
      · cases replies with
        | none unasked => rw [enabled] at unasked; cases unasked
        | @one log effect _ replied =>
          have reply := runs_autoReply_iff.mpr (.inl ⟨effect, rfl, replied⟩)
          exact ⟨.ok effect, Work.runs_toWork_iff.mpr ⟨reply, rfl⟩, rfl⟩
      · have reply : Task.Runs (autoReply c m' f.actions.autoReply.message) _ (.error fault) :=
          runs_autoReply_iff.mpr (.inr ⟨route, fault, rfl, found, rfl⟩)
        exact ⟨.error fault, Work.runs_toWork_iff.mpr ⟨reply, rfl⟩, rfl⟩

/-- The notes of a filter are put on a message without a word to anybody. -/
lemma runs_applyNotes_bind_iff {β : Type} {next : List SideEffect → Work β} (matched : m.IsMatched)
    {r : Except Fault β} :
    Work.Runs (applyNotes f >>= next) m log r m' ↔
      Work.Runs (next []) (m.carry f.actions) log r m' := by
  unfold applyNotes
  rw [bind_assoc, Work.runs_get_bind_iff, Message.applyActions_eq matched, bind_assoc]
  exact Work.runs_set_bind_iff

/-- The last step of a filter: forwarding, after which its outcome is there. -/
lemma runs_outcome_iff {note : Option String} {replies : List SideEffect}
    {r : Except Fault FilterOutcome} :
    Work.Runs (do
      let forwards ← Task.toWork (forwardAll c m f)
      return ⟨f.name, note, replies ++ forwards⟩) m log r m' ↔
    ∃ forwards, r = .ok ⟨f.name, note, replies ++ forwards.flatten⟩ ∧ m' = m ∧
      Each (Routed m f) c.forwarding log forwards := by
  rw [Work.runs_bind_pure_iff]
  constructor
  · rintro ⟨x, run, rfl⟩
    obtain ⟨all, rfl⟩ := Work.runs_toWork_iff.mp run
    obtain ⟨forwards, rfl, routed⟩ := runs_forwardAll_iff.mp all
    exact ⟨forwards, rfl, rfl, routed⟩
  · rintro ⟨forwards, rfl, rfl, routed⟩
    have all := runs_forwardAll_iff.mpr ⟨forwards, rfl, routed⟩
    exact ⟨_, Work.runs_toWork_iff.mpr ⟨all, rfl⟩, rfl⟩

/-- The steps of a filter, one after the other. -/
lemma runFilter_eq : runFilter c f = (do
    let notes ← applyNotes f
    let note ← persist
    let m ← get
    let replies ← replying c m f
    let forwards ← Task.toWork (forwardAll c m f)
    return ⟨f.name, note, notes ++ replies ++ forwards⟩) := by
  unfold runFilter replying
  cases f.actions.autoReply.enabled <;> rfl

/-- A filter ends with its outcome, unless the route does not tell whether it is open or no store
reports the failed save. -/
lemma runs_runFilter_iff (matched : m.IsMatched) {r : Except Fault FilterOutcome} :
    Work.Runs (runFilter c f) m log r m' ↔
      (∃ outcome, r = .ok outcome ∧ Carried c f m log outcome m') ∨
      (∃ fault, r = .error fault ∧ Unanswered c f m log fault m') ∨
      ∃ answer fault, r = .error fault ∧ noted ((m.carry f.actions).kept answer).1 = .error fault ∧
        log = [⟨.saveMessage (m.carry f.actions), answer⟩] ∧
        m' = ((m.carry f.actions).kept answer).2 := by
  rw [runFilter_eq, runs_applyNotes_bind_iff matched, Work.runs_bind_iff]
  constructor
  · rintro (⟨e, saving, rfl⟩ | ⟨note, n, log₁, log₂, rfl, saving, later⟩)
    · obtain ⟨answer, rfl, unsaved, rfl⟩ := runs_persist_iff.mp saving
      exact .inr (.inr ⟨answer, e, rfl, unsaved.symm, rfl, rfl⟩)
    · obtain ⟨answer, rfl, saved, rfl⟩ := runs_persist_iff.mp saving
      rw [Work.runs_get_bind_iff] at later
      obtain ⟨e, asking, rfl⟩ | ⟨replies, n, log₃, log₄, rfl, asking, last⟩ :=
        Work.runs_bind_iff.mp later
      · obtain ⟨rfl, ⟨_, impossible, -⟩ | ⟨route, fault, same, enabled, found, rfl⟩⟩ :=
          runs_replying_iff.mp asking
        · cases impossible
        · cases same
          exact .inr (.inl ⟨e, rfl, .mk saved.symm enabled found⟩)
      · obtain ⟨rfl, ⟨_, same, replied⟩ | ⟨_, _, impossible, -⟩⟩ := runs_replying_iff.mp asking
        · cases same
          rw [List.nil_append] at last
          obtain ⟨forwards, rfl, rfl, routed⟩ := runs_outcome_iff.mp last
          rw [List.singleton_append]
          exact .inl ⟨_, rfl, .mk saved.symm replied routed⟩
        · cases impossible
  -- conversely, each account puts the run together step by step
  · rintro (⟨outcome, rfl, carried⟩ | ⟨fault, rfl, unanswered⟩ | ⟨answer, fault, rfl,
      unsaved, rfl, rfl⟩)
    · cases carried with
      | @mk answer note replied forwarded replies forwards saved answered routed =>
        have saving := runs_persist_iff.mpr ⟨answer, rfl, saved.symm, rfl⟩
        have asking := runs_replying_iff.mpr ⟨rfl, .inl ⟨replies, rfl, answered⟩⟩
        refine .inr ⟨note, _, [_], _, rfl, saving, Work.runs_get_bind_iff.mpr ?_⟩
        refine Work.runs_bind_iff.mpr (.inr ⟨replies, _, replied, forwarded, rfl, asking, ?_⟩)
        exact runs_outcome_iff.mpr ⟨forwards, rfl, rfl, routed⟩
    · cases unanswered with
      | @mk answer note route _ saved enabled found =>
        have saving := runs_persist_iff.mpr ⟨answer, rfl, saved.symm, rfl⟩
        have asking := runs_replying_iff.mpr ⟨rfl, .inr ⟨route, fault, rfl, enabled, found, rfl⟩⟩
        refine .inr ⟨note, _, [_], _, rfl, saving, Work.runs_get_bind_iff.mpr ?_⟩
        exact Work.runs_bind_iff.mpr (.inl ⟨fault, asking, rfl⟩)
    · exact .inl ⟨_, runs_persist_iff.mpr ⟨_, rfl, unsaved.symm, rfl⟩, rfl⟩

/-- The stores behind the desk report what goes wrong with a save as a failure of theirs. -/
def OnlyStoreFails (log : Log) : Prop :=
  ∀ n e, (⟨.saveMessage n, .error e⟩ : Exchange service) ∈ log → e.isStore = true

/-- If nothing but stores fails, nothing else fails in the end. -/
lemma OnlyStoreFails.right {log₁ log₂ : Log} (fails : OnlyStoreFails (log₁ ++ log₂)) :
    OnlyStoreFails log₂ :=
  fun n e member => fails n e (List.mem_append_right log₁ member)

/-- A save that only the store can fail is always noted. -/
lemma noted_kept {answer : Except Fault Unit} (number : m.version.IsNumber)
    (fails : OnlyStoreFails [⟨.saveMessage m, answer⟩]) :
    ∃ note, noted (m.kept answer).1 = .ok note := by
  rw [(m.kept_isNumber number answer).1]
  cases answer with
  | ok u => exact ⟨none, rfl⟩
  | error e => exact noted_of_isStore (fails m e (List.mem_singleton.mpr rfl))

/-- A message that was carried to a filter is still matched. -/
lemma Carried.isMatched {outcome : FilterOutcome} (carried : Carried c f m log outcome m')
    (matched : m.IsMatched) : m'.IsMatched := by
  cases carried with
  | mk => exact Message.kept_isMatched (Message.carry_isMatched matched _) _

/-- Its version is still a number. -/
lemma Carried.isNumber {outcome : FilterOutcome} (carried : Carried c f m log outcome m')
    (number : m.version.IsNumber) : m'.version.IsNumber := by
  cases carried with
  | @mk answer =>
    exact ((m.carry f.actions).kept_isNumber number answer).2

/-- The outcomes come in the order of the filters, one for each. -/
lemma Served.names {outcomes : List FilterOutcome} (served : Served c filters m log outcomes m') :
    outcomes.map (·.filterName) = filters.map (·.name) := by
  induction served with
  | nil => rfl
  | cons carried _ ih =>
    cases carried with
    | mk => rw [List.map_cons, List.map_cons, ih]

/-- Filters that are all carried out have one outcome each. -/
lemma runs_filters_ok_iff (matched : filters ≠ [] → m.IsMatched) {outcomes : List FilterOutcome} :
    Work.Runs (filters.mapM (runFilter c)) m log (.ok outcomes) m' ↔
      Served c filters m log outcomes m' := by
  -- each filter leaves the message matched, which is what the next one needs
  induction filters generalizing m log outcomes with
  | nil =>
    rw [List.mapM_nil, Work.runs_pure_iff]
    constructor
    · rintro ⟨rfl, same, rfl⟩
      cases same
      exact .nil
    · intro served
      cases served
      exact ⟨rfl, rfl, rfl⟩
  | cons f filters ih =>
    replace matched := matched (List.cons_ne_nil f filters)
    rw [List.mapM_cons, Work.runs_bind_iff]
    constructor
    · rintro (⟨_, -, impossible⟩ | ⟨outcome, n, log₁, log₂, rfl, first, later⟩)
      · cases impossible
      · obtain ⟨_, same, carried⟩ | ⟨_, impossible, -⟩ | ⟨_, _, impossible, -⟩ :=
          (runs_runFilter_iff matched).mp first
        · cases same
          obtain ⟨_ | others, rest, same⟩ := Work.runs_bind_pure_iff.mp later
          · cases same
          · cases same
            exact .cons carried ((ih fun _ => carried.isMatched matched).mp rest)
        · cases impossible
        · cases impossible
    · intro served
      cases served with
      | @cons _ _ _ n _ log₁ log₂ outcome others carried served =>
        have first := (runs_runFilter_iff matched).mpr (.inl ⟨outcome, rfl, carried⟩)
        have rest := (ih fun _ => carried.isMatched matched).mpr served
        exact .inr ⟨outcome, n, log₁, log₂, rfl, first, Work.runs_bind_pure_iff.mpr ⟨_, rest, rfl⟩⟩

/-- When only the store can fail a save, there is one way only in which filters are broken off. -/
lemma runs_filters_error_iff (matched : filters ≠ [] → m.IsMatched) (number : m.version.IsNumber)
    (fails : OnlyStoreFails log) {fault : Fault} :
    Work.Runs (filters.mapM (runFilter c)) m log (.error fault) m' ↔
      Abandoned c filters m log fault m' := by
  induction filters generalizing m log with
  | nil =>
    rw [List.mapM_nil, Work.runs_pure_iff]
    constructor
    · rintro ⟨-, impossible, -⟩
      cases impossible
    · intro abandoned
      cases abandoned
  | cons f filters ih =>
    replace matched := matched (List.cons_ne_nil f filters)
    rw [List.mapM_cons, Work.runs_bind_iff]
    constructor
    · rintro (⟨e, first, same⟩ | ⟨outcome, n, log₁, log₂, rfl, first, later⟩)
      · cases same
        obtain ⟨_, impossible, -⟩ | ⟨_, same, unanswered⟩ | ⟨answer, _, same, unsaved, rfl, -⟩ :=
          (runs_runFilter_iff matched).mp first
        · cases impossible
        · cases same
          exact .here unanswered
        -- only a fault that is not the store's could end a filter at its save
        · obtain ⟨note, saved⟩ := noted_kept (m := m.carry f.actions) number fails
          rw [saved] at unsaved
          cases unsaved
      · obtain ⟨_, same, carried⟩ | ⟨_, impossible, -⟩ | ⟨_, _, impossible, -⟩ :=
          (runs_runFilter_iff matched).mp first
        · cases same
          obtain ⟨_ | _, rest, same⟩ := Work.runs_bind_pure_iff.mp later
          · cases same
            have settled :=
              ih (fun _ => carried.isMatched matched) (carried.isNumber number) fails.right
            exact .later carried (settled.mp rest)
          · cases same
        · cases impossible
        · cases impossible
    · intro abandoned
      cases abandoned with
      | here unanswered =>
        exact .inl
          ⟨fault, (runs_runFilter_iff matched).mpr (.inr (.inl ⟨fault, rfl, unanswered⟩)), rfl⟩
      | @later _ _ _ n _ log₁ log₂ outcome _ carried abandoned =>
        have first := (runs_runFilter_iff matched).mpr (.inl ⟨outcome, rfl, carried⟩)
        have settled :=
          ih (fun _ => carried.isMatched matched) (carried.isNumber number) fails.right
        refine .inr ⟨outcome, n, log₁, log₂, rfl, first, Work.runs_bind_pure_iff.mpr ?_⟩
        exact ⟨.error fault, settled.mpr abandoned, rfl⟩

end Desk

end ChatTriage
