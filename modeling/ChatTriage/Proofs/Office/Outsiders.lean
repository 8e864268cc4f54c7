import ChatTriage.Proofs.Desk.Scope
import ChatTriage.Proofs.Office.Outcome
import ChatTriage.Proofs.Office.Turns
import ChatTriage.Proofs.Store.Definitions

/-!
# Messages of outsiders

Whoever is not on the list of operators, or writes in a group, gives no commands: a message from
outside is taken in like any other, whatever it says. It can make filters count matches, and changes
nothing else about them; and nobody is answered.
-/

namespace ChatTriage

namespace Desk

variable {c : Config} {m : Message} {reply : String → Task Unit} {log : Log}

/-- A message that gives no commands: its sender may not, or it was written in a group. -/
def Config.isOutside (c : Config) (m : Message) : Bool :=
  !c.isAdmin m || m.metadata.group.isSome

/-- A message from outside is taken in, unless its text is of a kind that no command is read
from. -/
lemma routeMessage_of_outside (outside : c.isOutside m = true) :
    routeMessage c reply m = ExceptT.mk (do
      let (outcome, _) ← StateT.run (ExceptT.run (do
        let _ ← (ExceptT.mk (pure (Command.Intent.ofJson m.text)) : Work Command.Intent)
        let _ ← process c)) m
      return outcome) := by
  have closed (intent : Command.Intent) :
      (m.metadata.group.isNone && decide (intent ≠ .unknown) && c.isAdmin m) = false := by
    unfold Config.isOutside at outside
    cases admin : c.isAdmin m with
    | false => rw [Bool.and_false]
    | true =>
      rw [admin, Bool.not_true, Bool.false_or] at outside
      rw [Option.isNone_eq_false_iff.mpr outside]
      simp
  unfold routeMessage route
  rw [Work.run_get_bind]
  simp only [closed, Bool.false_eq_true, if_false]

/-- Nothing that is asked for a message from outside is asked for an operator. -/
lemma routeMessage_within (outside : c.isOutside m = true) :
    Task.Within (·.isOrder = false) (routeMessage c reply m) := by
  rw [routeMessage_of_outside outside]
  have taken : Work.Within m.id (·.isOrder = false) (process c) :=
    process_within.mono fun q => Request.isOrder_of_takesIn
  have routed : Work.Within m.id (·.isOrder = false) (do
      let _ ← (ExceptT.mk (pure (Command.Intent.ofJson m.text)) : Work Command.Intent)
      let _ ← process c) :=
    .bind .result fun _ => .bind taken fun _ => .pure
  exact Dialogue.Within.bind (routed m rfl) fun _ _ => .done trivial

/-- A message from outside with a text is taken in as it would be by itself. -/
lemma runs_routeMessage {intent : Command.Intent} {report : Report} {m' : Message}
    (outside : c.isOutside m = true) (read : Command.Intent.ofJson m.text = .ok intent)
    (run : Work.Runs (process c) m log (.ok report) m') :
    Task.Runs (routeMessage c reply m) log (.ok ()) := by
  rw [routeMessage_of_outside outside, read, Work.run_ok_bind]
  generalize process c = taking at run ⊢
  have taken : Work.Runs (do let _ ← taking) m log (.ok ()) m' :=
    Work.runs_bind_iff.mpr
      (.inr ⟨report, m', log, [], by simp, run, Work.runs_pure_iff.mpr ⟨rfl, rfl, rfl⟩⟩)
  rw [← List.append_nil log]
  exact Dialogue.Runs.bind taken .done

/-- A command of somebody who may not give any is refused before anything is asked. -/
lemma runs_handle_of_stranger (stranger : c.isAdmin m = false) {r : Except Fault CommandResult} :
    Task.Runs (handle c m) log r ↔ log = [] ∧ r = .ok (.refused unauthorized) := by
  unfold handle
  rw [stranger]
  exact Task.runs_pure_iff

end Desk

namespace Office

variable {c : Desk.Config} {o o' : Office} {world : World} {turns : List Turn}

/-- What the table of filters holds apart from the stats. -/
def definitions (o : Office) : Option (List Store.FilterRow) :=
  o.filters.map (·.definitions)

/-- Storing stats fails and changes nothing, or writes them into the rows with an id. -/
lemma updateFilter_ofStats (o : Office) (id : Json) (stats : FilterStats) :
    (∃ e, o.updateFilter id [.ofStats stats] = (.error e, o)) ∨
    ∃ t cell, o.filters = some t ∧ Store.Cell.bind Store.filterUpdateFault 3 id = .ok cell ∧
      o.updateFilter id [.ofStats stats] =
        (.ok (), { o with filters := some (t.count cell stats) }) := by
  unfold updateFilter unlessOut
  cases o.outages.lookup .updateFilter with
  | some f => exact .inl ⟨f, rfl⟩
  | none =>
    cases stored : Store.updateFilter o.filters id [.ofStats stats] with
    | error e => exact .inl ⟨e, rfl⟩
    | ok filters =>
      cases table : o.filters with
      | none =>
        rw [table] at stored
        cases stored
      | some t =>
        rw [table, Store.updateFilter_ofStats] at stored
        obtain ⟨_, -, rest⟩ := bind_eq_ok_iff.mp stored
        obtain ⟨cell, bound, last⟩ := bind_eq_ok_iff.mp rest
        cases last
        exact .inr ⟨t, cell, rfl, bound, rfl⟩

/-- Only an order changes a definition. -/
lemma definitions_of_answer {q : Desk.Request} {x : q.Answer}
    (run : Act.Runs (answer q) o world x o')
    (ordered : q.isOrder = false) : o'.definitions = o.definitions := by
  unfold definitions
  cases writes : q.writesFilters with
  | false => rw [(framed_of_answer run).filters writes]
  | true =>
    cases q with
    | storeFilter f => cases ordered
    | storeStats id stats =>
      obtain ⟨-, same⟩ := Act.runs_change_iff.mp run
      obtain ⟨e, failed⟩ | ⟨t, cell, filters, -, stored⟩ := o.updateFilter_ofStats id stats
      · cases same.trans failed
        rfl
      · cases same.trans stored
        rw [filters, Option.map_some, Option.map_some, Store.definitions_count]
    | _ => cases writes

/-- Programs that take turns ask what is allowed when each of them does. -/
lemma Turns.within {α : Type} {P : Desk.Request → Prop} {ds ds' : List (Dialogue Desk.service α)}
    (run : Turns o ds turns o' ds') (each : ∀ d ∈ ds, Dialogue.Within P (fun _ => True) d) :
    ∀ t ∈ turns, P t.exchange.request := by
  induction run with
  | nil => exact fun t member => absurd member List.not_mem_nil
  | cons asks _ _ ih =>
    cases each _ (List.mem_of_getElem? asks) with
    | ask allowed later =>
      refine List.forall_mem_cons.mpr ⟨allowed, ih fun d member => ?_⟩
      obtain old | rfl := List.mem_or_eq_of_mem_set member
      · exact each d old
      · exact later _

/-- Turns none of which is an order keep the definitions. -/
lemma Turns.definitions {α : Type} {ds ds' : List (Dialogue Desk.service α)}
    (run : Turns o ds turns o' ds') (orderless : ∀ t ∈ turns, t.exchange.request.isOrder = false) :
    o'.definitions = o.definitions := by
  induction run with
  | nil => rfl
  | cons _ answered _ ih =>
    obtain ⟨first, rest⟩ := List.forall_mem_cons.mp orderless
    exact (ih rest).trans (definitions_of_answer answered first)

/-- Only operators edit filters. Messages from outside, whatever they say and however many are
routed at an office, leave all of the filters but their stats as it was, and nobody is answered: no
turn asks for an answer, and what would answer makes no difference to any of them. A command of
somebody who may not give any is refused without anything being asked. -/
theorem outsiders_edit_nothing {reply : String → Desk.Task Unit} {messages : List Message}
    {ends : List (Dialogue Desk.service (Except Fault Unit))}
    (outside : ∀ m ∈ messages, c.isAdmin m = false ∨ m.metadata.group.isSome = true)
    (run : Turns o (messages.map fun m => ExceptT.run (Desk.routeMessage c reply m))
      turns o' ends) :
    (o'.definitions = o.definitions ∧ (∀ t ∈ turns, ∀ text, t.exchange.request ≠ .reply text) ∧
      ∀ m ∈ messages, ∀ reply', Desk.routeMessage c reply' m = Desk.routeMessage c reply m) ∧
    ∀ m, c.isAdmin m = false → ∀ log r,
      Desk.Task.Runs (Desk.handle c m) log r ↔ log = [] ∧ r = .ok (.refused Desk.unauthorized) := by
  have isOutside (m : Message) (member : m ∈ messages) : c.isOutside m = true := by
    unfold Desk.Config.isOutside
    obtain stranger | grouped := outside m member
    · rw [stranger]
      rfl
    · rw [grouped, Bool.or_true]
  have orderless : ∀ t ∈ turns, t.exchange.request.isOrder = false := by
    refine run.within (P := fun q => q.isOrder = false) fun d member => ?_
    obtain ⟨m, among, rfl⟩ := List.mem_map.mp member
    exact Desk.routeMessage_within (isOutside m among)
  refine ⟨⟨run.definitions orderless, fun t member text asked => ?_, fun m member reply' => ?_⟩,
    fun m stranger log r => Desk.runs_handle_of_stranger stranger⟩
  · have ordered := orderless t member
    rw [asked] at ordered
    cases ordered
  · rw [Desk.routeMessage_of_outside (isOutside m member),
      Desk.routeMessage_of_outside (isOutside m member)]

namespace Sample

open Desk.Sample

/-- A command, from somebody who may not give any. -/
def edict : Message :=
  { order with content := { type := .text, text := .str "update filter greeting active false" } }

/-- An office with the filter that the command is about. -/
def guarded : Office :=
  { filters := some ⟨rules.rows.take 1, 2⟩ }

/-- What is asked while the message is taken in. -/
def endured : Desk.Log := [
  ⟨.createMessage edict, .ok ()⟩,
  ⟨.enabledFilters, .ok [greeting]⟩,
  ⟨.keepSnapshot [greeting], ()⟩,
  ⟨.now, morning⟩,
  ⟨.storeStats (.int 1) ⟨1, some morning⟩, .ok ()⟩,
  ⟨.saveMessage { greeted with content := edict.content }, .ok ()⟩]

/-- The edict is taken in as a message. -/
lemma runs_endured :
    ∃ report m', Desk.Work.Runs (Desk.process quiet) edict endured (.ok report) m' :=
  ⟨_, _, .ask (.ask (.ask (.ask (.ask (.ask .done)))))⟩

/-- The office serves that. -/
lemma serves_endured : ∃ world o', Serves guarded endured world o' := by
  apply Exists.intro
  apply Exists.intro
  apply serves_created (by decide +kernel)
  apply serves_enabled (by decide +kernel)
  apply Serves.cons (q := .keepSnapshot _) .done
  apply Serves.cons (q := .now) (.ask .done)
  apply serves_counted (by decide +kernel)
  apply serves_saved (by decide +kernel)
  exact .nil

end Sample

open Sample in
/-- A command of somebody who may not give any makes the filter that it is about count a match, and
leaves it enabled. -/
theorem outsiders_edit_nothing_by_edict :
    (∀ m ∈ [edict], quiet.isAdmin m = false ∨ m.metadata.group.isSome = true) ∧
    ∃ turns o' ends,
      Turns guarded
        ([edict].map fun m => ExceptT.run (Desk.routeMessage quiet Desk.replyDirectly m))
        turns o' ends ∧
      o'.definitions = guarded.definitions ∧ ∀ t ∈ turns, ∀ text, t.exchange.request ≠
        .reply text := by
  have outside : ∀ m ∈ [edict], quiet.isAdmin m = false ∨ m.metadata.group.isSome = true :=
    List.forall_mem_singleton.mpr (.inl (by decide +kernel))
  have read : Command.Intent.ofJson edict.text = .ok .update := by decide +kernel
  obtain ⟨report, m', run⟩ := runs_endured
  obtain ⟨world, o', serves⟩ := serves_endured
  have routed :
    Act.Runs (Dialogue.run answer (ExceptT.run (Desk.routeMessage quiet Desk.replyDirectly edict)))
      guarded world (.ok ()) o' :=
    runs_run_iff.mpr ⟨_, Desk.runs_routeMessage (by decide +kernel) read run, serves⟩
  have call :
    ([edict].map fun m => ExceptT.run (Desk.routeMessage quiet Desk.replyDirectly m))[0]? =
      some (ExceptT.run (Desk.routeMessage quiet Desk.replyDirectly edict)) := rfl
  obtain ⟨turns, -, taken⟩ := Turns.of_run call routed
  obtain ⟨⟨same, unanswered, -⟩, -⟩ := outsiders_edit_nothing outside taken
  exact ⟨outside, turns, o', _, taken, same, unanswered⟩

end Office

end ChatTriage
