import ChatTriage.Proofs.Desk.Route
import ChatTriage.Proofs.Inbound.Cloud

/-!
# Runs of an ingestion

The messages of a delivery are routed while its places are read, one after the other. `Routes` says
how far this gets: it ends at the first place without a message and at the first message whose
routing fails, and whatever comes after that is lost.
-/

namespace ChatTriage.Desk

open Inbound (Batch)
open Inbound.Cloud (Place places)

variable {c : Config} {log : Log} {messages : List Message} {results : List (Except Fault Message)}

/-- How a message of a delivery is answered. -/
def cloudReply (c : Config) (m : Message) : String → Task Unit :=
  replyOn (c.routeNamed? (.str "cloud")) m.sender.phone

/-- The routing of a message of a delivery: what was asked for it, and how it ended. -/
structure Call where
  message : Message
  log : Log
  outcome : Except Fault Unit

/-- The message of a call was routed as it says. -/
def Call.Runs (c : Config) (call : Call) : Prop :=
  Task.Runs (routeMessage c (cloudReply c call.message) call.message) call.log call.outcome

/-- What was asked in calls. -/
def asked (calls : List Call) : Log :=
  calls.flatMap (·.log)

/-- The calls that are made for what is found at the places of a delivery, and how they end. -/
inductive Routes (c : Config) :
    List (Except Fault Message) → List Call → Except Fault Unit → Prop where
  | done :
    Routes c [] [] (.ok ())
  | missing {e results} :
    Routes c (.error e :: results) [] (.error e)
  | failed {m log e results} :
    Call.Runs c ⟨m, log, .error e⟩ →
    Routes c (.ok m :: results) [⟨m, log, .error e⟩] (.error e)
  | routed {m log results calls ending} :
    Call.Runs c ⟨m, log, .ok ()⟩ →
    Routes c results calls ending →
    Routes c (.ok m :: results) (⟨m, log, .ok ()⟩ :: calls) ending

/-- Routes messages one after the other. -/
def routeAll (c : Config) : List Message → Task Unit
  | [] => pure ()
  | m :: messages => do
    routeMessage c (cloudReply c m) m
    routeAll c messages

/-- An ingestion routes the messages and then ends as the delivery does. -/
lemma ingest_eq {stop : Option Fault} : ingest c messages stop = routeAll c messages >>= fun _ =>
    match stop with
    | some e => throw e
    | none => pure messages.length := by
  have loop : routeAll c messages = forIn messages PUnit.unit fun m _ => do
      routeMessage c (cloudReply c m) m
      return .yield PUnit.unit := by
    induction messages with
    | nil => rfl
    | cons m messages ih =>
      rw [List.forIn_cons, routeAll, ih]
      simp only [bind_assoc, pure_bind]
  rw [loop]
  unfold ingest
  rfl

/-- The messages of a batch are routed as far as they go, and the fault that ended the batch comes
after. -/
lemma runs_routeAll_bind_iff {n : Nat} {r : Except Fault Nat} :
    Task.Runs (routeAll c (Batch.concat .single results).messages >>= fun _ =>
        match (Batch.concat .single results).stop with
        | some e => throw e
        | none => pure n) log r ↔
      ∃ calls ending, Routes c results calls ending ∧ log = asked calls ∧
        r = ending.map fun _ => n := by
  induction results generalizing log with
  | nil =>
    refine Task.runs_pure_iff.trans ⟨?_, ?_⟩
    · rintro ⟨rfl, rfl⟩
      exact ⟨[], .ok (), .done, rfl, rfl⟩
    · rintro ⟨calls, ending, routes, rfl, rfl⟩
      cases routes
      exact ⟨rfl, rfl⟩
  | cons result results ih =>
    cases result with
    | error e =>
      refine Task.runs_throw_iff.trans ⟨?_, ?_⟩
      · rintro ⟨rfl, rfl⟩
        exact ⟨[], .error e, .missing, rfl, rfl⟩
      · rintro ⟨calls, ending, routes, rfl, rfl⟩
        cases routes
        exact ⟨rfl, rfl⟩
    | ok m =>
      change Task.Runs (routeAll c (m :: (Batch.concat .single results).messages) >>= _) log r ↔ _
      rw [routeAll, bind_assoc, Task.runs_bind_iff]
      constructor
      · rintro (⟨e, routed, rfl⟩ | ⟨⟨⟩, log₁, log₂, rfl, routed, later⟩)
        · refine ⟨[⟨m, log, .error e⟩], .error e, .failed routed, ?_, rfl⟩
          exact (List.append_nil log).symm
        · obtain ⟨calls, ending, routes, rfl, rfl⟩ := ih.mp later
          exact ⟨⟨m, log₁, .ok ()⟩ :: calls, ending, .routed routed routes, rfl, rfl⟩
      · rintro ⟨calls, ending, routes, rfl, rfl⟩
        cases routes with
        | @failed _ log e _ failed =>
          refine .inl ⟨e, ?_, rfl⟩
          rw [asked, List.flatMap_singleton]
          exact failed
        | @routed _ log _ calls _ routed routes =>
          exact .inr ⟨(), log, asked calls, rfl, routed, ih.mpr ⟨calls, ending, routes, rfl, rfl⟩⟩

/-- An ingestion routes what is found at the places of a delivery. -/
lemma runs_ingest_iff {body : Json} {r : Except Fault Nat} :
    Task.Runs
      (ingest c (Inbound.Cloud.messages body).messages (Inbound.Cloud.messages body).stop) log r ↔
      ∃ calls ending, Routes c ((places body).map Place.message) calls ending ∧ log = asked calls ∧
        r = ending.map fun _ => (Inbound.Cloud.messages body).messages.length := by
  rw [ingest_eq, Inbound.Cloud.messages_eq]
  exact runs_routeAll_bind_iff

/-- The messages of a delivery that is mapped as a whole are routed one after the other. -/
lemma runs_ingest_of_mapped {body : Json} {r : Except Fault Nat}
    (mapped : (Inbound.Cloud.messages body).stop = none) :
    Task.Runs
      (ingest c (Inbound.Cloud.messages body).messages (Inbound.Cloud.messages body).stop) log r ↔
      ∃ calls ending, Routes c ((Inbound.Cloud.messages body).messages.map .ok) calls ending ∧
        log = asked calls ∧
        r = ending.map fun _ => (Inbound.Cloud.messages body).messages.length := by
  have whole : (places body).map Place.message =
      (Inbound.Cloud.messages body).messages.map .ok := by
    rw [Inbound.Cloud.messages_eq] at mapped ⊢
    exact Batch.eq_of_stop_none mapped
  rw [runs_ingest_iff, whole]

namespace Routes

variable {calls : List Call} {ending : Except Fault Unit}

/-- Every call routes its message. -/
lemma runs (routes : Routes c results calls ending) : ∀ call ∈ calls, call.Runs c := by
  induction routes with
  | done => exact fun _ member => absurd member List.not_mem_nil
  | missing => exact fun _ member => absurd member List.not_mem_nil
  | failed failed => exact List.forall_mem_singleton.mpr failed
  | routed routed _ ih => exact List.forall_mem_cons.mpr ⟨routed, ih⟩

/-- The calls are made in the order of the places, one for each, from the first place on. -/
lemma inOrder (routes : Routes c results calls ending) :
    calls.map (fun call => Except.ok call.message) <+: results := by
  induction routes with
  | done => exact List.nil_prefix
  | missing => exact List.nil_prefix
  | failed => exact List.cons_prefix_cons.mpr ⟨rfl, List.nil_prefix⟩
  | routed _ _ ih => exact List.cons_prefix_cons.mpr ⟨rfl, ih⟩

/-- A place is reached when there is a message at every place before it and none of their routings
failed. -/
lemma reaches_iff {before after : List (Except Fault Message)} {m : Message}
    (routes : Routes c results calls ending) (split : results = before ++ .ok m :: after) :
    before.length < calls.length ↔
      (∀ result ∈ before, ∃ n, result = .ok n) ∧ ∀ call ∈ calls.take before.length,
        call.outcome = .ok () := by
  induction routes generalizing before with
  | done => simp at split
  | missing =>
    cases before with
    | nil => cases split
    | cons result before =>
      cases split
      simp
  | failed =>
    cases before with
    | nil => simp
    | cons result before =>
      cases split
      simp
  | routed _ _ ih =>
    cases before with
    | nil => simp
    | cons result before =>
      cases split
      have later := ih rfl
      simp [later]

/-- The call that is made for a place is one for the message that is there. -/
lemma message_at {before after : List (Except Fault Message)} {m : Message}
    (routes : Routes c results calls ending) (split : results = before ++ .ok m :: after)
    (reached : before.length < calls.length) : calls[before.length].message = m := by
  obtain ⟨rest, whole⟩ := routes.inOrder
  have there : results[before.length]? = some (.ok calls[before.length].message) := by
    rw [← whole, List.getElem?_append_left (by rwa [List.length_map]), List.getElem?_map,
      List.getElem?_eq_getElem reached]
    rfl
  rw [split, List.getElem?_append_right (Nat.le_refl _), Nat.sub_self] at there
  cases there
  rfl

end Routes

/-- A message that an item of a delivery describes is lost when anything before it in the delivery
cannot be mapped. The messages of a delivery are routed in order, each once, and an ingestion always
comes to an end; but it ends at the first place at which no message is found, and at the first
message whose routing fails. So a message that can be mapped by itself is routed just when there is
a message at every place before it and none of their routings failed. -/
theorem ingest_ends_at_fault {body : Json} :
    (∀ tell past, ∃ log r, Dialogue.Told tell past log ∧
      Task.Runs (ingest c (Inbound.Cloud.messages body).messages (Inbound.Cloud.messages body).stop)
        log r) ∧
    (∀ log r,
      Task.Runs
        (ingest c (Inbound.Cloud.messages body).messages (Inbound.Cloud.messages body).stop) log r ↔
      ∃ calls ending, Routes c ((places body).map Place.message) calls ending ∧ log = asked calls ∧
        r = ending.map fun _ => (Inbound.Cloud.messages body).messages.length) ∧
    ∀ calls ending, Routes c ((places body).map Place.message) calls ending →
      (∀ call ∈ calls, call.Runs c) ∧
      calls.map (fun call => Except.ok call.message) <+: (places body).map Place.message ∧
      ∀ before item after m, places body = before ++ .ok item :: after → item.message = .ok m →
        (calls[before.length]?.map Call.message = some m ↔
          (∀ place ∈ before, ∃ n, Place.message place = .ok n) ∧
            ∀ call ∈ calls.take before.length, call.outcome = .ok ()) := by
  refine ⟨fun tell past => ?_, fun log r => runs_ingest_iff, fun calls ending routes =>
    ⟨routes.runs, routes.inOrder, fun before item after m split mapped => ?_⟩⟩
  · obtain ⟨log, r, told, run⟩ := Dialogue.exists_run (ExceptT.run (ingest c _ _)) tell past
    exact ⟨log, r, told, run⟩
  have results : (places body).map Place.message =
      before.map Place.message ++ .ok m :: after.map Place.message := by
    rw [split, List.map_append, List.map_cons, ← mapped]
    rfl
  have reached := routes.reaches_iff results
  rw [List.length_map, List.forall_mem_map] at reached
  rw [← reached]
  constructor
  · intro called
    by_contra unreached
    rw [List.getElem?_eq_none (Nat.le_of_not_lt unreached)] at called
    cases called
  · intro lower
    rw [List.getElem?_eq_getElem lower]
    have message := routes.message_at results
    simp only [List.length_map] at message
    exact congrArg some (message lower)

namespace Sample

open Inbound.Cloud (Item)

/-- An item about a greeting, with an id and a time. -/
def item (id time : String) : Json :=
  .obj [("id", .str id), ("from", .str "+393470000001"), ("timestamp", .str time),
    ("type", .str "text"), ("text", .obj [("body", .str "hello world")])]

/-- A delivery of items in one change. -/
def delivery (items : List Json) : Json :=
  .obj [("object", .str "whatsapp_business_account"), ("entry", .arr [.obj [("changes", .arr [.obj [
    ("field", .str "messages"), ("value", .obj [("messages", .arr items)])]])]])]

/-- Two items, the first of which has no time. -/
def untimely : List Json :=
  [item "wamid.1" "soon", item "wamid.2" "1704103200"]

/-- What is found at a place of that delivery. -/
def untimelyItem (id time : String) : Inbound.Cloud.Item :=
  ⟨item id time, .obj [("messages", .arr untimely)]⟩

end Sample

open Sample in
/-- The message of the second item is lost, although it can be mapped by itself: nothing is asked at
all. -/
theorem ingest_ends_at_fault_untimely :
    let e : Fault := .value (.integer (.invalid "soon"))
    places (delivery untimely) =
        [.ok (untimelyItem "wamid.1" "soon")] ++ .ok (untimelyItem "wamid.2" "1704103200") :: [] ∧
      (untimelyItem "wamid.1" "soon").message = .error e ∧
      (untimelyItem "wamid.2" "1704103200").message = .ok { order with id := "wamid.2" } ∧
      ∀ log r, Task.Runs (ingest desk (Inbound.Cloud.messages (delivery untimely)).messages
        (Inbound.Cloud.messages (delivery untimely)).stop) log r → log = [] ∧ r = .error e := by
  intro e
  have found : places (delivery untimely) =
      [.ok (untimelyItem "wamid.1" "soon")] ++
        .ok (untimelyItem "wamid.2" "1704103200") :: [] := rfl
  have unmapped : (untimelyItem "wamid.1" "soon").message = .error e := by decide +kernel
  refine ⟨found, unmapped, by decide +kernel, fun log r run => ?_⟩
  obtain ⟨-, runs, -⟩ := @ingest_ends_at_fault desk (delivery untimely)
  obtain ⟨calls, ending, routes, rfl, rfl⟩ := (runs log r).mp run
  rw [found, List.singleton_append, List.map_cons, Inbound.Cloud.Place.message_ok,
    unmapped] at routes
  cases routes
  exact ⟨rfl, rfl⟩

end ChatTriage.Desk
