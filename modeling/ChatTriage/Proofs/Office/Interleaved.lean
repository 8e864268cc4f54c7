import ChatTriage.Proofs.Office.Orders
import ChatTriage.Proofs.Office.Serial
import ChatTriage.Proofs.Office.Steady

/-!
# Interleaved calls

Calls that were under way together leave the office as if each had been carried out before the next
one started, and come to the same ends. Only the clock tells the difference: when they are carried
out one after the other it is asked at other times, which the dates of the last matches show.
-/

namespace ChatTriage.Office

open Store (FilterTable)

variable {α : Type} {c : Desk.Config} {ch : Channels} {o o' p p' : Office} {t : FilterTable}

/-- An office is like itself. -/
lemma Alike.refl (outages : o.outages = []) (table : o.filters = some t) (loads : t.Loads) :
    Alike o o :=
  ⟨⟨outages, outages⟩, rfl, t, t, table, table, loads, loads, rfl⟩

/-- Paired results that are equal are the same. -/
lemma Paired.eq {x y : Except Fault α} (paired : Paired Eq x y) : x = y := by
  cases paired with
  | ok same => rw [same]
  | error => rfl

/-- A call comes to the same end in alike offices. -/
lemma Call.program_alongside (call : Call) : Alongside ch Eq (call.program c) (call.program c) := by
  cases call with
  | intake m =>
    refine (Desk.process_steady m).bind ?_
    rintro ⟨r, left⟩ ⟨r', _⟩ ⟨paired, same⟩
    cases same
    cases paired.eq
    exact .done rfl
  | order m =>
    refine Alongside.bind Desk.handleCommand_steady fun r r' paired => ?_
    cases paired.eq
    exact .done rfl

/-- Calls that are carried out one after the other come to the same ends in alike offices. -/
lemma InOrder.alongside {calls : List Call} {as bs : List Ending} (alike : Alike o p)
    (here : InOrder ch o (calls.map (·.program c)) as o')
    (there : InOrder ch p (calls.map (·.program c)) bs p') : Alike o' p' ∧ as = bs := by
  induction calls generalizing o p as bs with
  | nil =>
    obtain ⟨rfl, rfl⟩ := inOrder_nil_iff.mp here
    obtain ⟨rfl, rfl⟩ := inOrder_nil_iff.mp there
    exact ⟨alike, rfl⟩
  | cons call calls ih =>
    obtain ⟨o₁, a, as, rfl, first, others⟩ := inOrder_cons_iff.mp here
    obtain ⟨p₁, b, bs, rfl, firstToo, othersToo⟩ := inOrder_cons_iff.mp there
    obtain ⟨still, rfl⟩ := call.program_alongside o p alike a o₁ b p₁ first firstToo
    obtain ⟨last, rfl⟩ := ih still others othersToo
    exact ⟨last, rfl⟩

/-- Calls can be put one after the other. However calls were left waiting for channels and gone on
with until all of them were over, in the order in which they started they can be carried out one
after the other and come to the same ends and leave the same office; and whenever they are carried
out so, they come to these ends and leave the same messages and the same filters, with the same
numbers of matches: only the dates of the last matches are told by the clock. -/
theorem interleaved_calls_serialize {flights : List Flight} {endings : List Ending}
    (staged : o.Staged)
    (outages : o.outages = []) (table : o.filters = some t) (loads : t.Loads)
    (underway : Underway c ch o flights o') (ended : flights.map (·.rest) = endings.map .done) :
    InOrder ch o (flights.map (·.call.program c)) endings o' ∧
    ∀ others p, InOrder ch o (flights.map (·.call.program c)) others p →
      others = endings ∧ p.messages = o'.messages ∧
        p.filters.map (·.undated) = o'.filters.map (·.undated) := by
  obtain ⟨-, -, in_order⟩ := underway.in_order staged
  have serial : InOrder ch o (flights.map (·.call.program c)) endings o' :=
    in_order _ _ (ended ▸ inOrder_ended endings)
  refine ⟨serial, fun others p again => ?_⟩
  have calls : flights.map (·.call.program c) = (flights.map (·.call)).map (·.program c) := by
    rw [List.map_map]
    rfl
  rw [calls] at serial again
  obtain ⟨⟨-, messages, t', u', here, there, -, -, same⟩, rfl⟩ :=
    InOrder.alongside (.refl outages table loads) again serial
  refine ⟨rfl, messages, ?_⟩
  rw [here, there, Option.map_some, Option.map_some, same]

namespace Sample

open Desk.Sample

/-- Channels that are open and deliver everything. -/
def obliging : Channels where
  isOpen := fun _ => true
  send := fun _ _ _ => .ok ()
  forward := fun _ _ _ _ => .ok ()

/-- The filter as the operator's command finds it. -/
def used : Filter :=
  { work with id := .int 1, stats := ⟨1, some morning⟩ }

/-- What is asked for a message until it is to be forwarded. -/
def sorted : Desk.Log := [
  ⟨.createMessage order, .ok ()⟩,
  ⟨.enabledFilters, .ok [{ work with id := .int 1 }]⟩,
  ⟨.keepSnapshot [{ work with id := .int 1 }], ()⟩,
  ⟨.now, morning⟩,
  ⟨.storeStats (.int 1) ⟨1, some morning⟩, .ok ()⟩,
  ⟨.saveMessage { order with status := .filtered }, .ok ()⟩]

/-- What is asked to carry out the command, which is confirmed with a text. -/
def switched (text : String) : Desk.Log := [
  ⟨.filterNamed "Work", .ok (some used)⟩,
  ⟨.storeFilter { used with enabled := false }, .ok { used with enabled := false }⟩,
  ⟨.enabledFilters, .ok []⟩,
  ⟨.keepSnapshot [], ()⟩,
  ⟨.available 0, .ok true⟩,
  ⟨.send 0 order.sender.phone text, .ok ⟨"cloud", .str order.sender.phone, .null⟩⟩]

/-- The intake comes to where it asks the channel. -/
lemma reaches_sorted : ∃ next ending,
    Dialogue.Reaches ((Call.intake order).program staffed) sorted
      (.ask (S := Desk.service) (.available 0) next) ∧
    Dialogue.Reaches (.ask (S := Desk.service) (.available 0) next) [⟨.available 0, .ok true⟩]
      (.done ending) :=
  ⟨_, _, .ask (.ask (.ask (.ask (.ask (.ask .here))))), .ask .here⟩

/-- The command comes to its end. -/
lemma reaches_switched : ∃ text ending,
    Dialogue.Reaches ((Call.order switch).program staffed) (switched text) (.done ending) :=
  ⟨_, _, .ask (.ask (.ask (.ask (.ask (.ask .here)))))⟩

/-- The channel tells what was asked of it. -/
lemma tells_sorted : ∀ x ∈ sorted, obliging.Tells x := by
  have legible : morning.Legible := by
    refine DateTime.legible_iff.mpr fun offset same => ?_
    cases same
    exact .inl rfl
  simp only [sorted, List.forall_mem_cons]
  exact ⟨trivial, trivial, trivial, legible, trivial, trivial,
    fun x member => absurd member List.not_mem_nil⟩

/-- It tells what the command asked of it. -/
lemma tells_switched {text : String} : ∀ x ∈ switched text, obliging.Tells x := by
  simp only [switched, List.forall_mem_cons]
  exact ⟨trivial, trivial, trivial, trivial, rfl, rfl,
    fun x member => absurd member List.not_mem_nil⟩

/-- An office serves the question whether a channel is open. -/
lemma serves_available {o o' : Office} {route : Nat} {name : String} {x : Except Fault Bool}
    {log : Desk.Log}
    {world : World} (line : o.lines[route]? = some (.stage name)) (rest : Serves o log world o') :
    Serves o (⟨.available route, x⟩ :: log) ([⟨.stageAvailable route, x⟩] ++ world) o' := by
  have answered : Act.Runs (available route) o [⟨.stageAvailable route, x⟩] x o := by
    unfold available
    rw [Act.runs_get_bind_iff, line]
    exact .ask .done
  exact .cons (q := .available route) answered rest

/-- It serves a text that is sent. -/
lemma serves_sent {o o' : Office} {route : Nat} {name destination text : String}
    {x : Except Fault Desk.Delivery} {log : Desk.Log} {world : World}
    (line : o.lines[route]? = some (.stage name)) (rest : Serves o log world o') :
    Serves o (⟨.send route destination text, x⟩ :: log)
      ([⟨.stageSend route (.str destination) (.str text), x⟩] ++ world) o' := by
  have answered : Act.Runs (send route (.str destination) (.str text)) o
      [⟨.stageSend route (.str destination) (.str text), x⟩] x o := by
    unfold send
    rw [Act.runs_get_bind_iff, line]
    exact .ask .done
  exact .cons (q := .send route destination text) answered rest

/-- The command comes while the message waits to be forwarded. -/
lemma serves_sorted (text : String) :
    ∃ world o',
      Serves manned (sorted ++ (switched text ++ [⟨.available 0, .ok true⟩])) world o' := by
  apply Exists.intro
  apply Exists.intro
  apply serves_created (by decide +kernel)
  apply serves_enabled (by decide +kernel)
  apply Serves.cons (q := .keepSnapshot _) .done
  apply Serves.cons (q := .now) (.ask .done)
  apply serves_counted (by decide +kernel)
  apply serves_saved (by decide +kernel)
  apply serves_found (by decide +kernel)
  apply serves_stored (by decide +kernel)
  apply serves_enabled (by decide +kernel)
  apply Serves.cons (q := .keepSnapshot _) .done
  apply serves_available rfl
  apply serves_sent rfl
  apply serves_available rfl
  exact .nil

end Sample

open Desk.Sample Sample in
/-- A filter is switched off while a message that it accepted waits to be forwarded: the message was
first, and counts as a match. -/
theorem interleaved_calls_serialize_at_switch :
    manned.Staged ∧ manned.outages = [] ∧ manned.filters = some defined ∧ defined.Loads ∧
    ∃ o₁ o' next reported answered,
      Underway staffed obliging manned
        [⟨.intake order, .ask (.available 0) next⟩, ⟨.order switch, .done answered⟩] o₁ ∧
      Underway staffed obliging manned
        [⟨.intake order, .done reported⟩, ⟨.order switch, .done answered⟩] o' ∧
      InOrder obliging manned
        [(Call.intake order).program staffed, (Call.order switch).program staffed]
        [reported, answered] o' := by
  have staged : manned.Staged := List.forall_mem_singleton.mpr ⟨"cloud", rfl⟩
  obtain ⟨next, reported, begun, ended⟩ := reaches_sorted
  obtain ⟨text, answered, carried⟩ := reaches_switched
  obtain ⟨world, o', serves⟩ := serves_sorted text
  obtain ⟨o₁, w₁, w, rfl, first, others⟩ := serves_append_iff.mp serves
  obtain ⟨o₂, w₂, w₃, rfl, second, last⟩ := serves_append_iff.mp others
  have waits : Waits (.ask (.available 0) next) := by
    intro q later same
    cases same
    rfl
  have stops (e : Ending) : Waits (.done e) := fun q later same => by cases same
  have started : Underway staffed obliging manned [⟨.intake order, .ask (.available 0) next⟩] o₁ :=
    .start .idle ⟨_, _, begun, first, tells_sorted⟩ waits
  have both : Underway staffed obliging manned
      [⟨.intake order, .ask (.available 0) next⟩, ⟨.order switch, .done answered⟩] o₂ :=
    .start started ⟨_, _, carried, second, tells_switched⟩ (stops answered)
  have finished : Underway staffed obliging manned
      ([] ++ [⟨.intake order, .done reported⟩, ⟨.order switch, .done answered⟩]) o' :=
    .resume both ⟨_, _, ended, last, List.forall_mem_singleton.mpr rfl⟩ (stops reported)
  have ended_both :
    ([⟨.intake order, .done reported⟩, ⟨.order switch, .done answered⟩] : List Flight).map
      (·.rest) = [reported, answered].map .done := rfl
  obtain ⟨serial, -⟩ := interleaved_calls_serialize staged rfl rfl loads_defined finished ended_both
  exact ⟨staged, rfl, rfl, loads_defined, o₂, o', next, reported, answered, both, finished, serial⟩

end ChatTriage.Office
