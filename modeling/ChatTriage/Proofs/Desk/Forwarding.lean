import ChatTriage.Proofs.Desk.Dispatch
import ChatTriage.Proofs.Dialogue.Concurrent

/-!
# Forwarding on all routes at once

The routes that forward a message are under way together: each is asked whether it is open and, if
it is, has its destinations tried one after the other, while the others do the same at their own
pace. `movesOn` is what a route sees of this. In whatever order the routes move on, each sees what
it would see by itself, and what is noted in the end stands in the order of the routes.
-/

namespace ChatTriage.Desk

open Dialogue (Move Stand Concurrent movesOf spell)

/-- The route that a request is about, if it is about one. -/
def Request.route? : Request → Option Nat
  | .available route | .send route _ _ | .forward route _ _ _ => some route
  | _ => none

/-- Forwarding a message on each of the routes that forward. -/
def Config.forwardings (c : Config) (m : Message) (f : Filter) :
    List (Stand service (Except Fault (List SideEffect))) :=
  c.forwarding.map fun way => .going (ExceptT.run (forwardOn way.2 way.1 m f))

/-- The moves that a route sees. -/
def movesOn (route : Nat) (moves : List (Nat × Move service)) : List (Move service) :=
  moves.filterMap fun m => if Request.route? m.2.request = some route then some m.2 else none

/-- A route tells whether it is open. -/
def check? : Move service → Option (Except Fault Bool)
  | .hears ⟨.available _, answer⟩ => some answer
  | _ => none

/-- A message is given to a route to be forwarded to a destination, with a label. -/
def call? : Move service → Option (Message × String × Option String)
  | .asks (.forward _ m destination label) => some (m, destination, label)
  | _ => none

/-- A route tells what became of a message for a destination. -/
def delivery? : Move service → Option (String × Except Fault Delivery)
  | .hears ⟨.forward _ _ destination _, answer⟩ => some (destination, answer)
  | _ => none

/-- What a route tells when it is asked whether it is open. -/
def checks (route : Nat) (moves : List (Nat × Move service)) : List (Except Fault Bool) :=
  (movesOn route moves).filterMap check?

/-- What a route is given to forward. -/
def calls (route : Nat) (moves : List (Nat × Move service)) :
    List (Message × String × Option String) :=
  (movesOn route moves).filterMap call?

/-- What a route tells about what it was given. -/
def deliveries (route : Nat) (moves : List (Nat × Move service)) :
    List (String × Except Fault Delivery) :=
  (movesOn route moves).filterMap delivery?

/-- The destinations that are tried on a route, by what it tells when it is asked whether it is
open. -/
def tried (r : Route) (f : Filter) : Except Fault Bool → List String
  | .ok true => destinations r f
  | _ => []

/-- What is noted about what became of a message for a destination. -/
def effectOn (r : Route) (delivery : String × Except Fault Delivery) : SideEffect :=
  ⟨.forward r.name, delivery.1, failureOf delivery.2⟩

variable {c : Config} {m : Message} {f : Filter} {log : Log} {effects : List SideEffect}
    {way : Route × Nat}
  {moves : List (Nat × Move service)} {results : List (Except Fault (List SideEffect))} {k : Nat}

/-- Every request has some answer. -/
lemma answer_nonempty (q : Request) : Nonempty q.Answer := by
  cases q with
  | snapshot => exact ⟨[]⟩
  | keepSnapshot => exact ⟨()⟩
  | now => exact ⟨⟨⟨0, by decide⟩, none⟩⟩
  | _ => exact ⟨.error (.runtime "")⟩

/-- Destinations are tried in their order, and what is noted is what was told. -/
lemma forwarded_views {r : Route} {route : Nat} {targets : List String}
    (forwarded : Each (Forwarded route r.name m f.name) targets log effects) :
    (spell log).filterMap check? = [] ∧
      (spell log).filterMap call? = targets.map (fun target => (m, target, some f.name)) ∧
      ((spell log).filterMap delivery?).map (·.1) = targets ∧
      effects = ((spell log).filterMap delivery?).map (effectOn r) ∧
      (∀ x ∈ log, Request.route? x.request = some route) ∧ log.length = targets.length := by
  induction forwarded with
  | nil => exact ⟨rfl, rfl, rfl, rfl, fun x member => absurd member List.not_mem_nil, rfl⟩
  | cons first _ ih =>
    obtain ⟨checks, calls, targets, effects, routes, count⟩ := ih
    cases first with
    | tried answer =>
      refine ⟨checks, congrArg _ calls, congrArg _ targets, congrArg _ effects, ?_,
        congrArg _ count⟩
      exact List.forall_mem_cons.mpr ⟨rfl, routes⟩

/-- What a route sees when its own forwarding is all there is. -/
lemma Routed.views (routed : Routed m f way log effects) :
    (∃ usable, (spell log).filterMap check? = [usable] ∧
      (spell log).filterMap call? =
        (tried way.1 f usable).map (fun target => (m, target, some f.name)) ∧
      ((spell log).filterMap delivery?).map (·.1) = tried way.1 f usable) ∧
      effects = ((spell log).filterMap delivery?).map (effectOn way.1) ∧
      (∀ x ∈ log, Request.route? x.request = some way.2) ∧
      log.length ≤ f.actions.forwardTo.length + 2 := by
  cases routed with
  | @opened r route log effects forwarded =>
    obtain ⟨checks, calls, targets, effects, routes, count⟩ := forwarded_views forwarded
    refine ⟨⟨.ok true, congrArg _ checks, calls, targets⟩, effects, ?_, ?_⟩
    · exact List.forall_mem_cons.mpr ⟨rfl, routes⟩
    · have own : (destinations r f).length ≤ f.actions.forwardTo.length + 1 := by
        unfold destinations
        rw [List.length_append]
        cases r.broadcast with
        | none => simp
        | some d => by_cases empty : d.isEmpty <;> simp [empty]; omega
      rw [List.length_cons, count]
      omega
  | closed => exact ⟨⟨.ok false, rfl, rfl, rfl⟩, rfl, List.forall_mem_singleton.mpr rfl, by simp⟩
  | silent e => exact ⟨⟨.error e, rfl, rfl, rfl⟩, rfl, List.forall_mem_singleton.mpr rfl, by simp⟩

/-- Each route forwards once. -/
lemma forwarding_place {j : Nat} {other : Route × Nat} (place : c.forwarding[k]? = some way)
    (there : c.forwarding[j]? = some other) (same : other.2 = way.2) : j = k := by
  have distinct : (c.forwarding.map (·.2)).Nodup := by
    have all : (c.routes.zipIdx.map (·.2)).Nodup := by
      rw [List.zipIdx_map_snd]
      exact List.nodup_range'
    exact all.sublist (List.filter_sublist.map _)
  have own : (c.forwarding.map (·.2))[k]? = some way.2 := by rw [List.getElem?_map, place]; rfl
  have others : (c.forwarding.map (·.2))[j]? = some way.2 := by
    rw [List.getElem?_map, there, ← same]; rfl
  obtain ⟨inside, -⟩ := List.getElem?_eq_some_iff.mp others
  exact (List.getElem?_inj inside distinct).mp (others.trans own.symm)

/-- When all is over, each route has been asked as it would have been by itself, and never
failed. -/
lemma Concurrent.routed (course : Concurrent (c.forwardings m f) moves (results.map .ended))
    (place : c.forwarding[k]? = some way) :
    ∃ log effects, movesOf k moves = spell log ∧ results[k]? = some (.ok effects) ∧
      Routed m f way log effects := by
  have stands : (c.forwardings m f)[k]? =
      some (.going (ExceptT.run (forwardOn way.2 way.1 m f))) := by
    rw [Config.forwardings, List.getElem?_map, place]
    rfl
  obtain ⟨s, ends, own⟩ := course.alone stands
  rw [List.getElem?_map] at ends
  obtain ⟨result, ended, rfl⟩ := Option.map_eq_some_iff.mp ends
  obtain ⟨log, spelled, run⟩ := Dialogue.moves_to_ended_iff.mp own
  obtain ⟨effects, rfl, routed⟩ := runs_forwardOn_iff.mp run
  exact ⟨log, effects, spelled, ended, routed⟩

/-- Each move is seen by the route whose forwarding it belongs to. -/
lemma Concurrent.route_of_mem (course : Concurrent (c.forwardings m f) moves (results.map .ended))
    {x : Nat × Move service} (member : x ∈ moves) :
    ∃ other, c.forwarding[x.1]? = some other ∧ Request.route? x.2.request = some other.2 := by
  have inside := course.place_lt x member
  rw [Config.forwardings, List.length_map] at inside
  have place := List.getElem?_eq_getElem inside
  obtain ⟨log, effects, spelled, -, routed⟩ := Concurrent.routed course place
  have own := Dialogue.mem_movesOf member
  rw [spelled] at own
  obtain ⟨-, -, routes, -⟩ := routed.views
  exact ⟨_, place,
    Dialogue.request_of_mem_spell (P := fun q => Request.route? q = some _) routes _ own⟩

/-- A route sees the moves of its own forwarding. -/
lemma Concurrent.movesOn_eq (course : Concurrent (c.forwardings m f) moves (results.map .ended))
    (place : c.forwarding[k]? = some way) : movesOn way.2 moves = movesOf k moves := by
  refine List.filterMap_congr fun x member => ?_
  obtain ⟨other, there, about⟩ := Concurrent.route_of_mem course member
  have own : Request.route? x.2.request = some way.2 ↔ x.1 = k := by
    rw [about]
    constructor
    · intro same
      exact forwarding_place place there (Option.some.inj same)
    · rintro rfl
      rw [Option.some.inj (there.symm.trans place)]
  rw [if_congr own rfl rfl]

/-- A route that does not forward sees nothing. -/
lemma Concurrent.movesOn_nil (course : Concurrent (c.forwardings m f) moves (results.map .ended))
    {r : Route}
    {route : Nat} (known : c.routes[route]? = some r) (idle : r.forwards = false) :
    movesOn route moves = [] := by
  refine List.filterMap_eq_nil_iff.mpr fun x member => if_neg fun about => ?_
  obtain ⟨other, there, same⟩ := Concurrent.route_of_mem course member
  obtain ⟨listed, forwards⟩ := List.mem_filter.mp (List.mem_of_getElem? there)
  have here := List.mem_zipIdx_iff_getElem?.mp listed
  rw [← Option.some.inj (about.symm.trans same), known] at here
  rw [← Option.some.inj here, idle] at forwards
  cases forwards

/-- A route that forwards sees what it would see by itself, and what is noted of it is what it
told. -/
lemma Concurrent.seen (course : Concurrent (c.forwardings m f) moves (results.map .ended))
    (place : c.forwarding[k]? = some way) :
    ∃ log, movesOn way.2 moves = spell log ∧
      results[k]? = some (.ok ((deliveries way.2 moves).map (effectOn way.1))) ∧
      Routed m f way log ((deliveries way.2 moves).map (effectOn way.1)) := by
  obtain ⟨log, effects, spelled, ended, routed⟩ := Concurrent.routed course place
  have seen : movesOn way.2 moves = spell log := (Concurrent.movesOn_eq course place).trans spelled
  obtain ⟨-, noted, -⟩ := routed.views
  rw [deliveries, seen, ← noted]
  exact ⟨log, rfl, ended, routed⟩

/-- What is noted stands in the order of the routes, and no route fails. -/
lemma Concurrent.results_eq (course : Concurrent (c.forwardings m f) moves (results.map .ended)) :
    results =
      (c.forwarding.map fun way => (deliveries way.2 moves).map (effectOn way.1)).map .ok := by
  refine List.ext_getElem? fun k => ?_
  rw [List.map_map, List.getElem?_map]
  cases place : c.forwarding[k]? with
  | none =>
    have count := course.length
    rw [Config.forwardings, List.length_map, List.length_map] at count
    rw [List.getElem?_eq_none_iff] at place
    rw [Option.map_none, List.getElem?_eq_none_iff, count]
    exact place
  | some way =>
    obtain ⟨log, -, ended, -⟩ := Concurrent.seen course place
    exact ended

/-- A desk that asks one route after the other, and is told the same, notes the same. -/
lemma Concurrent.runs_forwardAll
    (course : Concurrent (c.forwardings m f) moves (results.map .ended)) :
    Task.Runs (forwardAll c m f)
      (c.forwarding.flatMap fun way => (movesOn way.2 moves).filterMap Move.heard?)
      (.ok (c.forwarding.map fun way => (deliveries way.2 moves).map
        (effectOn way.1)).flatten) := by
  refine runs_forwardAll_iff.mpr ⟨_, rfl, Each.of_forall fun way member => ?_⟩
  obtain ⟨k, place⟩ := List.mem_iff_getElem?.mp member
  obtain ⟨log, seen, -, routed⟩ := Concurrent.seen course place
  rw [seen, Dialogue.heard_spell]
  exact routed

/-- However far the routes have got, they have made few moves. -/
lemma Concurrent.few {ss : List (Stand service (Except Fault (List SideEffect)))}
    (course : Concurrent (c.forwardings m f) moves ss) :
    moves.length ≤ c.forwarding.length * (2 * (f.actions.forwardTo.length + 2)) := by
  have few : ∀ s ∈ c.forwardings m f, ∀ own s', Stand.Moves s own s' →
      own.length ≤ 2 * (f.actions.forwardTo.length + 2) := by
    intro s member own s' run
    obtain ⟨way, -, rfl⟩ := List.mem_map.mp member
    refine Dialogue.moves_length_le answer_nonempty (fun log r ends => ?_) run
    obtain ⟨effects, -, routed⟩ := runs_forwardOn_iff.mp ends
    exact routed.views.2.2.2
  have bound := course.length_le few
  rwa [Config.forwardings, List.length_map] at bound

/-- Forwarding tries what the routes have it try, in whatever order the routes move on. However far
they got, they have made few moves, and unless all are over some route can move. When all are over,
each route that forwards was asked once whether it is open; if it said so, it was given the message
for its own destination, if it has one, and then for those of the filter, in this order and with the
filter's name, and it told of each what became of it; otherwise, and if it does not forward, it was
given nothing. What is returned has, route by route in their order, one effect for each of these
destinations, which is well if the route did not fail there; and a desk that asks one route after
the other, and is told the same, returns the same. -/
theorem forwarding_follows_plan (c : Config) (m : Message) (f : Filter) :
    (∀ moves ss, Concurrent (c.forwardings m f) moves ss →
      moves.length ≤ c.forwarding.length * (2 * (f.actions.forwardTo.length + 2)) ∧
      ((∃ results : List (Except Fault (List SideEffect)), ss = results.map .ended) ∨
        ∃ move ss', Concurrent ss [move] ss')) ∧
    ∀ moves (results : List (Except Fault (List SideEffect))),
      Concurrent (c.forwardings m f) moves (results.map .ended) →
      (∀ r route, c.routes[route]? = some r → r.forwards = true →
        ∃ usable, checks route moves = [usable] ∧
          calls route moves = (tried r f usable).map (fun target => (m, target, some f.name)) ∧
          (deliveries route moves).map (·.1) = tried r f usable) ∧
      (∀ r route, c.routes[route]? = some r → r.forwards = false → movesOn route moves = []) ∧
      ∃ effects : List (List SideEffect), results = effects.map .ok ∧
        effects.flatten =
          c.forwarding.flatMap (fun way => (deliveries way.2 moves).map (effectOn way.1)) ∧
        Task.Runs (forwardAll c m f)
          (c.forwarding.flatMap fun way => (movesOn way.2 moves).filterMap Move.heard?)
            (.ok effects.flatten) := by
  constructor
  · intro moves ss course
    exact ⟨Concurrent.few course, Dialogue.ended_or_moves answer_nonempty ss⟩
  intro moves results course
  refine ⟨fun r route known forwards => ?_, fun r route known idle => ?_, ?_⟩
  · have listed : (r, route) ∈ c.forwarding :=
      List.mem_filter.mpr ⟨List.mem_zipIdx_iff_getElem?.mpr known, forwards⟩
    obtain ⟨k, place⟩ := List.mem_iff_getElem?.mp listed
    obtain ⟨log, seen, -, routed⟩ := Concurrent.seen course place
    obtain ⟨views, -⟩ := routed.views
    rw [checks, calls, deliveries, seen]
    exact views
  · exact Concurrent.movesOn_nil course known idle
  · exact ⟨_, Concurrent.results_eq course, rfl, Concurrent.runs_forwardAll course⟩

namespace Sample

/-- A desk with three routes: one with a destination of its own, one without, and one that does not
forward. -/
def switchboard : Config :=
  { routes := [⟨"cloud", true, some "everyone"⟩, ⟨"mail", false, none⟩, ⟨"session", true, none⟩]
    admins := ⟨[]⟩, zone := .utc }

/-- A filter with two destinations. -/
def circular : Filter where
  id := .int 1
  name := "circular"
  description := ""
  authors := []
  keywords := []
  keywordMode := .any
  messageTypes := []
  timeRange := none
  actions :=
    { markImportant := false, setPriority := none, addTags := [], autoReply := ⟨false, ""⟩
      forwardTo := ["anna", "bruno"], archive := false }
  enabled := true
  stats := {}

/-- A message to be forwarded. -/
def notice : Message where
  id := "wamid.7"
  sender := { phone := "+393470000001" }
  content := { type := .text, text := .str "closed today" }
  timestamp := none
  metadata := { source := .str "cloud" }

/-- What a route that forwards reports. -/
def sent (channel destination : String) : Delivery :=
  ⟨channel, .str destination, .null⟩

/-- The two routes that forward move on in turns, and the second fails on its first destination. -/
def turns : List (Nat × Move service) := [
  (1, .asks (.available 2)), (0, .asks (.available 0)),
  (0, .hears ⟨.available 0, .ok true⟩), (0, .asks (.forward 0 notice "everyone" (some "circular"))),
  (1, .hears ⟨.available 2, .ok true⟩), (1, .asks (.forward 2 notice "anna" (some "circular"))),
  (1, .hears ⟨.forward 2 notice "anna" (some "circular"), .error (.runtime "no answer")⟩),
  (1, .asks (.forward 2 notice "bruno" (some "circular"))),
  (1, .hears ⟨.forward 2 notice "bruno" (some "circular"), .ok (sent "session" "bruno")⟩),
  (0, .hears ⟨.forward 0 notice "everyone" (some "circular"), .ok (sent "cloud" "everyone")⟩),
  (0, .asks (.forward 0 notice "anna" (some "circular"))),
  (0, .hears ⟨.forward 0 notice "anna" (some "circular"), .ok (sent "cloud" "anna")⟩),
  (0, .asks (.forward 0 notice "bruno" (some "circular"))),
  (0, .hears ⟨.forward 0 notice "bruno" (some "circular"), .ok (sent "cloud" "bruno")⟩)]

end Sample

/-- The second route is through before the first has forwarded anything, and its effects come last
all the same. -/
theorem forwarding_follows_plan_turns :
    ∃ results : List (Except Fault (List SideEffect)),
      Concurrent (Sample.switchboard.forwardings Sample.notice Sample.circular) Sample.turns
        (results.map .ended) ∧
      ∃ effects : List (List SideEffect), results = effects.map .ok ∧ effects.flatten = [
        ⟨.forward "cloud", "everyone", none⟩, ⟨.forward "cloud", "anna", none⟩,
          ⟨.forward "cloud", "bruno", none⟩,
        ⟨.forward "session", "anna", some "no answer"⟩, ⟨.forward "session", "bruno", none⟩] := by
  obtain ⟨results, course⟩ : ∃ results : List (Except Fault (List SideEffect)),
      Concurrent (Sample.switchboard.forwardings Sample.notice Sample.circular) Sample.turns
        (results.map .ended) := by
    refine ⟨[.ok [⟨.forward "cloud", "everyone", none⟩, ⟨.forward "cloud", "anna", none⟩,
      ⟨.forward "cloud", "bruno", none⟩], .ok [⟨.forward "session", "anna", some "no answer"⟩,
      ⟨.forward "session", "bruno", none⟩]], ?_⟩
    refine .cons rfl .asks (.cons rfl .asks (.cons rfl .hears (.cons rfl .asks ?_)))
    refine .cons rfl .hears
      (.cons rfl .asks (.cons rfl .hears (.cons rfl .asks (.cons rfl .hears ?_))))
    exact .cons rfl .hears
      (.cons rfl .asks (.cons rfl .hears (.cons rfl .asks (.cons rfl .hears .nil))))
  obtain ⟨-, -, effects, same, noted, -⟩ :=
    (forwarding_follows_plan Sample.switchboard Sample.notice Sample.circular).2 _ _ course
  refine ⟨results, course, effects, same, noted.trans ?_⟩
  rfl

end ChatTriage.Desk
