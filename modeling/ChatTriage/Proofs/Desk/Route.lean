import ChatTriage.Proofs.Desk.Phases
import ChatTriage.Proofs.Desk.Process

/-!
# The ways of a message

A message that reaches the desk takes one of two ways. If an operator gives a command in it
(`Commands`), the command is carried out and the operator hears once what it came to (`Heard`): by
the confirmation that the desk sends after an update, or by the reply. Every other message is taken
in, and nobody is replied to.
-/

namespace ChatTriage

/-- A text is there, be it empty. -/
lemma Json.str_orElse_blank (s : String) : (Json.str s).orElse (.str "") = .str s := by
  by_cases empty : s = ""
  · rw [empty]
    rfl
  · simp [orElse, truthy, empty]

/-- A message has a text, or nothing in its place. -/
def Message.Textual (m : Message) : Prop :=
  m.content.text = .null ∨ ∃ s, m.content.text = .str s

/-- What a message asks for is read from any text, and from none. -/
lemma Message.Textual.asks {m : Message} (textual : m.Textual) :
    ∃ intent, Command.Intent.ofJson m.text = .ok intent := by
  have reads (s : String) : ∃ intent, Command.Intent.ofJson (.str s) = .ok intent := by
    unfold Command.Intent.ofJson
    rw [Json.str_orElse_blank]
    exact ⟨_, rfl⟩
  unfold Message.text
  obtain none | ⟨s, text⟩ := textual
  · rw [none]
    exact reads ""
  · rw [text, Json.str_orElse_blank]
    exact reads s

namespace Desk

namespace Request

/-- The request writes a message or counts a match. -/
def isIntake : Request → Bool
  | .createMessage _ | .saveMessage _ | .storeStats _ _ => true
  | _ => false

/-- The request says something to somebody. -/
def speaks : Request → Bool
  | .send _ _ _ | .forward _ _ _ _ | .reply _ => true
  | _ => false

/-- Dealing with the rules takes no message in. -/
lemma isIntake_of_isRuling {q : Request} (ruling : q.isRuling = true) : q.isIntake = false := by
  cases q <;> first | rfl | cases ruling

/-- What takes no message in writes none. -/
lemma writesMessages_of_isIntake {q : Request} (spared : q.isIntake = false) :
    q.writesMessages = false := by
  cases q <;> first | rfl | cases spared

/-- Dealing with the rules tells nobody anything. -/
lemma speaks_of_isRuling {q : Request} (ruling : q.isRuling = true) : q.speaks = false := by
  cases q <;> first | rfl | cases ruling

end Request

variable {α : Type} {c : Config} {m m' : Message} {reply : String → Task Unit}
    {text : String} {log : Log}
  {intent : Command.Intent} {result : CommandResult}

/-- An operator gives a command in a direct message. -/
structure Commands (c : Config) (m : Message) (intent : Command.Intent) : Prop where
  direct : m.metadata.group = none
  operator : c.isAdmin m = true
  asks : Command.Intent.ofJson m.text = .ok intent
  known : intent ≠ .unknown

/-- Nothing that was asked writes a message, counts a match or says anything. -/
def Log.Silent (log : Log) : Prop :=
  ∀ x ∈ log, x.request.isIntake = false ∧ x.request.speaks = false

/-- The route that a message names as its source. -/
def Config.Names (c : Config) (m : Message) (route : Nat) : Prop :=
  ∃ way, c.routes[route]? = some way ∧ m.metadata.source.orElse (.str "") = .str way.name

/-- What is asked to confirm something to the sender of a message: if its source names a route,
whether that is open, and if it is, that the sender be told there. -/
inductive Confirms (c : Config) (m : Message) (text : String) : Log → Prop where
  | nowhere :
    Confirms c m text []
  | closed {route} :
    c.Names m route →
    Confirms c m text [⟨.available route, .ok false⟩]
  | sent {route answer} :
    c.Names m route →
    Confirms c m text [⟨.available route, .ok true⟩, ⟨.send route m.sender.phone text, answer⟩]

/-- An update was carried out. -/
def Updated (intent : Command.Intent) (result : CommandResult) : Prop :=
  intent = .update ∧ result.success = true

/-- A command is carried out, and the operator hears once what it came to: by a confirmation if it
was an update that was carried out, and by the reply otherwise. -/
inductive Heard (c : Config) (reply : String → Task Unit) (m : Message) (intent : Command.Intent) :
    Log → Prop where
  | confirmed {result ruling told} :
    Updated intent result →
    Task.Runs (handleCommand c m) (ruling ++ told) (.ok result) →
    ruling.Silent →
    Confirms c m result.message told →
    Heard c reply m intent (ruling ++ told)
  | replied {result carried told outcome} :
    ¬ Updated intent result →
    Task.Runs (handleCommand c m) carried (.ok result) →
    carried.Silent →
    Task.Runs (reply result.message) told outcome →
    Heard c reply m intent (carried ++ told)

/-- Nothing is silent. -/
lemma silent_nil : Log.Silent [] :=
  fun _ member => absurd member List.not_mem_nil

/-- Silence may follow silence. -/
lemma Log.Silent.append {log₁ log₂ : Log} (first : log₁.Silent) (second : log₂.Silent) :
    Log.Silent (log₁ ++ log₂) :=
  List.forall_mem_append.mpr ⟨first, second⟩

/-- What deals with the rules is silent. -/
lemma Log.silent_of_isRuling (ruling : ∀ x ∈ log, x.request.isRuling = true) : log.Silent :=
  fun x member =>
    ⟨Request.isIntake_of_isRuling (ruling x member), Request.speaks_of_isRuling (ruling x member)⟩

/-- The last route with a name has the name. -/
lemma Config.routes_of_lastRouteNamed? {name : String} {route : Nat}
    (found : c.lastRouteNamed? name = some route) :
    ∃ way, c.routes[route]? = some way ∧ way.name = name := by
  obtain ⟨back, index, rfl⟩ := Option.map_eq_some_iff.mp found
  obtain ⟨bound, same, -⟩ := List.findIdx?_eq_some_iff_getElem.mp index
  rw [List.length_reverse] at bound
  refine ⟨c.routes[c.routes.length - 1 - back], List.getElem?_eq_getElem (by omega), ?_⟩
  rwa [List.getElem_reverse, beq_iff_eq] at same

/-- A sender is answered on the route that the message names. -/
lemma names_of_confirmationRoute {route : Nat} (found : confirmationRoute c m = .ok (some route)) :
    c.Names m route := by
  unfold confirmationRoute at found
  split at found
  · rename_i name source
    obtain ⟨way, there, rfl⟩ := c.routes_of_lastRouteNamed? (Except.ok.inj found)
    exact ⟨way, there, source⟩
  · split at found <;> cases found

/-- A confirmation says one thing at most, and nothing if it fails. -/
lemma Confirming.confirms {r : Except Fault Unit} (confirming : Confirming c m text log r) :
    (∃ e, r = .error e ∧ log.Silent) ∨ (r = .ok () ∧ Confirms c m text log) := by
  cases confirming with
  | unnamed => exact .inl ⟨_, rfl, silent_nil⟩
  | nowhere => exact .inr ⟨rfl, .nowhere⟩
  | untold => exact .inl ⟨_, rfl, List.forall_mem_singleton.mpr ⟨rfl, rfl⟩⟩
  | closed named => exact .inr ⟨rfl, .closed (names_of_confirmationRoute named)⟩
  | sent named => exact .inr ⟨rfl, .sent (names_of_confirmationRoute named)⟩

/-- How a command ends: an update is carried out and confirmed, or nothing is said. -/
inductive Handled (c : Config) (m : Message) (intent : Command.Intent) :
    Log → Except Fault CommandResult → Prop where
  | confirmed {result ruling told} :
    Updated intent result →
    ruling.Silent →
    Confirms c m result.message told →
    Handled c m intent (ruling ++ told) (.ok result)
  | silent {log r} :
    Log.Silent log →
    (∀ result, r = .ok result → ¬ Updated intent result) →
    Handled c m intent log r

/-- A confirmation takes no message in. -/
lemma Confirms.isIntake (confirms : Confirms c m text log) :
    ∀ x ∈ log, x.request.isIntake = false := by
  cases confirms <;> simp [Request.isIntake]

/-- Carrying a command out writes no message and counts no match. -/
lemma Handled.isIntake {r : Except Fault CommandResult} (handled : Handled c m intent log r) :
    ∀ x ∈ log, x.request.isIntake = false := by
  cases handled with
  | confirmed _ silent confirms =>
    exact List.forall_mem_append.mpr ⟨fun x member => (silent x member).1, confirms.isIntake⟩
  | silent silent _ => exact fun x member => (silent x member).1

/-- A command that is no update is handled in silence. -/
lemma Handled.unchanged {result : CommandResult} {log : Log} (silent : log.Silent)
    (refused : intent ≠ .update) : Handled c m intent log (.ok result) :=
  .silent silent fun _ _ updated => refused updated.1

/-- What is told of an update is told to its sender. -/
lemma runs_telling_of_update {ruling told : Log} {r : Except Fault CommandResult}
    (silent : ruling.Silent)
    (run : Task.Runs (telling c m result) told r) : Handled c m .update (ruling ++ told) r := by
  obtain ⟨failed, rfl, rfl⟩ | ⟨success, _, confirming, rfl⟩ := runs_telling_iff.mp run
  · refine .silent (silent.append silent_nil) fun _ same updated => ?_
    cases same
    cases failed.symm.trans updated.2
  · obtain ⟨e, rfl, quiet⟩ | ⟨rfl, confirms⟩ := (runs_confirm confirming).confirms
    · exact .silent (silent.append quiet) nofun
    · exact .confirmed ⟨rfl, success⟩ silent confirms

/-- A command is handled as `Handled` says. -/
lemma runs_carrying {r : Except Fault CommandResult} (run : Task.Runs (carrying c m intent) log r) :
    Handled c m intent log r := by
  cases intent with
  | help =>
    obtain ⟨rfl, rfl⟩ := Task.runs_pure_iff.mp run
    exact .unchanged silent_nil nofun
  | list =>
    have ruling := ((listFilters_within (P := (·.isRuling)) rfl).runs run).1
    exact .silent (Log.silent_of_isRuling ruling) fun _ _ updated => nomatch updated.1
  | update =>
    obtain ⟨e, updating, rfl⟩ | ⟨result, ruling, told, rfl, updating, last⟩ :=
      Task.runs_bind_iff.mp run
    · exact .silent (Log.silent_of_isRuling (updateFilter_within.runs updating).1) nofun
    · exact runs_telling_of_update
        (Log.silent_of_isRuling (updateFilter_within.runs updating).1) last
  | unknown =>
    obtain ⟨rfl, rfl⟩ := Task.runs_pure_iff.mp run
    exact .unchanged silent_nil nofun

/-- So is a message that asks for one. -/
lemma runs_handleCommand_of_asks (asks : Command.Intent.ofJson m.text = .ok intent)
    {r : Except Fault CommandResult} (run : Task.Runs (handleCommand c m) log r) :
    ∃ result, r = .ok result ∧ Handled c m intent log r := by
  obtain ⟨outcome, handled, rfl⟩ := runs_handleCommand_iff.mp run
  refine ⟨_, rfl, ?_⟩
  obtain ⟨-, rfl, rfl⟩ | ⟨-, ⟨e, failed, -⟩ | ⟨_, same, carried⟩⟩ := runs_handle_iff.mp handled
  · refine .silent silent_nil fun _ same updated => ?_
    cases same
    cases updated.2
  · cases asks.symm.trans failed
  cases asks.symm.trans same
  cases runs_carrying carried with
  | confirmed updated silent confirms => exact .confirmed updated silent confirms
  | silent silent unchanged =>
    refine .silent silent fun _ same updated => ?_
    cases same
    obtain ⟨result, rfl, success⟩ := succeeds_resultOf.mp updated.2
    exact unchanged result rfl updated

/-- What follows a command: the operator gets its result, unless an update was carried out. -/
def relay (reply : String → Task Unit) (intent : Command.Intent) (result : CommandResult) :
    Work Unit := do
  if intent ≠ .update || !result.success then
    let _ ← Task.toWork (attempt (reply result.message))

/-- Whether the reply fails does not matter. -/
lemma runs_relay_iff {r : Except Fault Unit} :
    Work.Runs (relay reply intent result) m log r m' ↔
      r = .ok () ∧ m' = m ∧ ((Updated intent result ∧ log = []) ∨
        (¬ Updated intent result ∧ ∃ outcome, Task.Runs (reply result.message) log outcome)) := by
  unfold relay
  by_cases updated : Updated intent result
  · have quiet : (decide (intent ≠ .update) || !result.success) = false := by
      rw [updated.1, updated.2]
      rfl
    rw [quiet, if_neg Bool.false_ne_true, Work.runs_pure_iff]
    simp only [updated, true_and, not_true_eq_false, false_and, or_false]
    tauto
  · have relays : (decide (intent ≠ .update) || !result.success) = true := by
      simpa [Updated, imp_iff_not_or] using updated
    rw [if_pos relays, Work.runs_bind_pure_iff]
    simp only [updated, not_false_eq_true, true_and, false_and, false_or]
    constructor
    · rintro ⟨x, replied, rfl⟩
      obtain ⟨attempted, rfl⟩ := Work.runs_toWork_iff.mp replied
      obtain ⟨outcome, rfl, heard⟩ := Task.runs_attempt_iff.mp attempted
      exact ⟨rfl, rfl, outcome, heard⟩
    · rintro ⟨rfl, rfl, outcome, replied⟩
      have attempted := Task.runs_attempt_iff.mpr ⟨outcome, rfl, replied⟩
      exact ⟨.ok outcome, Work.runs_toWork_iff.mpr ⟨attempted, rfl⟩, rfl⟩

/-- A command is answered once, and the message is left alone. -/
lemma runs_route_of_commands (commands : Commands c m intent) {r : Except Fault Unit} :
    Work.Runs (route c reply) m log r m' ↔ r = .ok () ∧ m' = m ∧ Heard c reply m intent log := by
  have opens : (m.metadata.group.isNone && decide (intent ≠ .unknown) && c.isAdmin m) = true := by
    rw [commands.direct, commands.operator, decide_eq_true commands.known]
    rfl
  unfold route
  rw [Work.runs_get_bind_iff, commands.asks, Work.Runs, Work.run_ok_bind, opens, if_pos rfl,
    ← Work.Runs]
  change Work.Runs (Task.toWork (handleCommand c m) >>= relay reply intent) m log r m' ↔ _
  constructor
  · intro run
    obtain ⟨e, handled, rfl⟩ | ⟨result, m₁, log₁, log₂, rfl, handled, later⟩ :=
      Work.runs_bind_iff.mp run
    · obtain ⟨handled, -⟩ := Work.runs_toWork_iff.mp handled
      obtain ⟨_, impossible, -⟩ := runs_handleCommand_of_asks commands.asks handled
      cases impossible
    obtain ⟨carried, rfl⟩ := Work.runs_toWork_iff.mp handled
    obtain ⟨_, -, ways⟩ := runs_handleCommand_of_asks commands.asks carried
    obtain ⟨rfl, rfl, ⟨updated, rfl⟩ | ⟨refused, outcome, replied⟩⟩ := runs_relay_iff.mp later
    · refine ⟨rfl, rfl, ?_⟩
      rw [List.append_nil]
      cases ways with
      | confirmed _ silent confirms => exact .confirmed updated carried silent confirms
      | silent _ refused => exact absurd updated (refused result rfl)
    · refine ⟨rfl, rfl, ?_⟩
      cases ways with
      | confirmed updated => exact absurd updated refused
      | silent silent => exact .replied refused carried silent replied
  · rintro ⟨rfl, rfl, answered⟩
    cases answered with
    | @confirmed result ruling told updated handled silent confirms =>
      refine Work.runs_bind_iff.mpr (.inr ⟨result, m', ruling ++ told, [], (List.append_nil _).symm,
        Work.runs_toWork_iff.mpr ⟨handled, rfl⟩, ?_⟩)
      exact runs_relay_iff.mpr ⟨rfl, rfl, .inl ⟨updated, rfl⟩⟩
    | @replied result carried told outcome refused handled silent replied =>
      refine Work.runs_bind_iff.mpr (.inr ⟨result, m', carried, told, rfl,
        Work.runs_toWork_iff.mpr ⟨handled, rfl⟩, ?_⟩)
      exact runs_relay_iff.mpr ⟨rfl, rfl, .inr ⟨refused, outcome, replied⟩⟩

/-- Every other message with a readable text is taken in, and the reply makes no difference. -/
lemma runs_route_of_others (asks : Command.Intent.ofJson m.text = .ok intent)
    (other : ¬ Commands c m intent)
    {r : Except Fault Unit} :
    Work.Runs (route c reply) m log r m' ↔
      ∃ report, Work.Runs (process c) m log report m' ∧ r = report.map fun _ => () := by
  have closed : (m.metadata.group.isNone && decide (intent ≠ .unknown) && c.isAdmin m) = false := by
    rw [Bool.eq_false_iff]
    intro opens
    simp only [Bool.and_eq_true, decide_eq_true_eq, Option.isNone_iff_eq_none] at opens
    exact other ⟨opens.1.1, opens.2, asks, opens.1.2⟩
  unfold route
  rw [Work.runs_get_bind_iff, asks, Work.Runs, Work.run_ok_bind, closed, if_neg Bool.false_ne_true,
    ← Work.Runs, Work.runs_bind_pure_iff]

/-- A message whose text is no text is not routed. -/
lemma runs_route_of_textless {e : Fault} (asks : Command.Intent.ofJson m.text = .error e)
    {r : Except Fault Unit} :
    Work.Runs (route c reply) m log r m' ↔ log = [] ∧ r = .error e ∧ m' = m := by
  unfold route
  rw [Work.runs_get_bind_iff, asks]
  exact Work.runs_result_iff (x := .error e)

/-- A message that asks for nothing that its sender may have: it has a text, or none, and gives no
command. -/
structure Ordinary (c : Config) (m : Message) : Prop where
  textual : m.Textual
  plain : ∀ intent, ¬ Commands c m intent

/-- A message is routed whatever becomes of its copy. -/
lemma runs_routeMessage_iff {r : Except Fault Unit} :
    Task.Runs (routeMessage c reply m) log r ↔ ∃ m', Work.Runs (route c reply) m log r m' := by
  constructor
  · intro run
    obtain ⟨⟨x, m'⟩, log₁, log₂, rfl, routed, last⟩ := Dialogue.runs_bind_iff.mp run
    obtain ⟨rfl, rfl⟩ := Dialogue.runs_done_iff.mp last
    rw [List.append_nil]
    exact ⟨m', routed⟩
  · rintro ⟨m', routed⟩
    rw [← List.append_nil log]
    exact Dialogue.Runs.bind routed .done

/-- An ordinary message is taken in. -/
lemma Ordinary.runs_routeMessage_iff (ordinary : Ordinary c m) {r : Except Fault Unit} :
    Task.Runs (routeMessage c reply m) log r ↔
      ∃ report m', Work.Runs (process c) m log report m' ∧ r = report.map fun _ => () := by
  obtain ⟨intent, asks⟩ := ordinary.textual.asks
  simp only [Desk.runs_routeMessage_iff, runs_route_of_others asks (ordinary.plain intent)]
  exact exists_comm

end Desk

end ChatTriage
