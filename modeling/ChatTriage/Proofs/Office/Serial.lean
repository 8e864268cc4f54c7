import ChatTriage.Proofs.Office.Commute
import ChatTriage.Proofs.Office.Loop

/-!
# Putting calls in order

However calls are left waiting and gone on with, each of them finds the office as if the calls
before it had been carried out already. What is left of a call once it waits uses channels and saves
its own message only, and the row of that message is nobody else's; so a call that starts, or goes
on, can be put behind what is left of the calls before it. `Underway.in_order` draws the conclusion.
-/

namespace ChatTriage.Office

variable {α : Type} {c : Desk.Config} {ch : Channels} {o o' o₁ o₂ : Office} {w : World}
    {log : Desk.Log}

namespace Flight

/-- A message with an id is being taken in by a call and not settled yet. -/
def Owes (f : Flight) (id : String) : Prop :=
  (∃ m, f.call = .intake m ∧ m.id = id) ∧ ∃ q next, f.rest = .ask q next

/-- The request is for a channel, or settles the message that a call owes. -/
def Settles (f : Flight) (q : Desk.Request) : Prop :=
  q.isOutward = true ∨ ∃ n, q = .saveMessage n ∧ f.Owes n.id

/-- What is left of a call settles its message. -/
def Settling (f : Flight) : Prop :=
  Dialogue.Within (S := Desk.service) f.Settles (fun _ => True) f.rest

/-- A call that is done settles. -/
lemma settling_done (call : Call) (e : Ending) : Settling ⟨call, .done e⟩ :=
  .done trivial

/-- An intake settles its message. -/
lemma settles_intake {m : Message} {q r : Desk.Request}
    {next : Desk.service.Answer q → Dialogue Desk.service Ending}
    (settles : r.settles m.id = true) :
    Settles ⟨.intake m, .ask q next⟩ r := by
  cases r with
  | saveMessage n => exact .inr ⟨n, rfl, ⟨m, rfl, (of_decide_eq_true settles).symm⟩, q, next, rfl⟩
  | _ => exact .inl settles

/-- What is left of a phased call that waits for a channel settles its message. -/
lemma settling_of_phased {P P' : Desk.Request → Prop} {call : Call}
    {rest : Dialogue Desk.service Ending}
    (phased : Dialogue.Phased (S := Desk.service) P P' (call.program c))
    (reaches : Dialogue.Reaches (call.program c) log rest) (waits : Waits rest)
    (inward : ∀ q, P q → q.isOutward = false)
    (settles : ∀ q next r, P' r → Settles ⟨call, .ask q next⟩ r) : Settling ⟨call, rest⟩ := by
  cases rest with
  | done e => exact settling_done call e
  | ask q next =>
    have late : ¬ P q := by
      intro early
      cases (waits q next rfl).symm.trans (inward q early)
    exact (phased.paused reaches late).mono (settles q next) fun _ _ => trivial

end Flight

/-- What holds of the calls under way: each settles its message only, which has its row, and no two
owe the same one. -/
structure Orderly (o : Office) (flights : List Flight) : Prop where
  settling : ∀ f ∈ flights, f.Settling
  held : ∀ f ∈ flights, ∀ id, f.Owes id → o.Holds id
  apart : flights.Pairwise fun f g => ∀ id, f.Owes id → ¬ g.Owes id

/-- What was asked saves none of the messages that calls owe. -/
def Spares (log : Desk.Log) (flights : List Flight) : Prop :=
  ∀ x ∈ log, ∀ f ∈ flights, ∀ m, x.request = .saveMessage m → ¬ f.Owes m.id

/-- What a call asks is put behind what is left of other calls. -/
lemma InOrder.put_off {flights : List Flight} {as : List Ending} (staged : o.Staged)
    (settling : ∀ f ∈ flights, f.Settling) (held : ∀ f ∈ flights, ∀ id, f.Owes id → o.Holds id)
    (spares : Spares log flights) (serves : Serves o log w o₁)
    (later : InOrder ch o₁ (flights.map (·.rest)) as o₂) :
    ∃ p, InOrder ch o (flights.map (·.rest)) as p ∧ Serves p log w o₂ := by
  induction flights generalizing o o₁ as with
  | nil =>
    obtain ⟨rfl, rfl⟩ := inOrder_nil_iff.mp later
    exact ⟨o, .nil, serves⟩
  | cons f flights ih =>
    rw [List.map_cons] at later ⊢
    obtain ⟨o₃, a, rest, rfl, ⟨log', w', reaches, answered, tells⟩, others⟩ :=
      inOrder_cons_iff.mp later
    obtain ⟨own, settling⟩ := List.forall_mem_cons.mp settling
    obtain ⟨ours, held⟩ := List.forall_mem_cons.mp held
    -- what is left of a call saves its own message at most, which the others spare
    have precedes : ∀ x ∈ log, ∀ y ∈ log', o.Precedes y.request x.request := by
      intro x member y among
      obtain outward | ⟨n, same, owes⟩ := (own.reaches reaches).1 y among
      · exact .inl outward
      · refine .inr ⟨n, same, ours n.id owes, fun m saves alike => ?_⟩
        exact spares x member f List.mem_cons_self m saves (alike ▸ owes)
    obtain ⟨p₁, first, second⟩ := staged.serves_swap precedes serves answered
    obtain ⟨p, inOrder, last⟩ := ih (staged.of_serves first) settling
      (fun g member id owes => (held g member id owes).of_serves first)
      (fun x member g among => spares x member g (List.mem_cons_of_mem f among)) second others
    exact ⟨p, .cons ⟨log', w', reaches, first, tells⟩ inOrder, last⟩

/-- A call that has started: it settles its message from then on, and a row that it owes or saves
was not there before it. -/
structure Starts (o o₁ : Office) (log : Desk.Log) (f : Flight) : Prop where
  settling : f.Settling
  fresh : ∀ id, f.Owes id → ¬ o.Holds id
  held : ∀ id, f.Owes id → o₁.Holds id
  saves : ∀ x ∈ log, ∀ m, x.request = .saveMessage m → ¬ o.Holds m.id

/-- Nobody had a row before it was created, and whatever goes on afterwards finds it. -/
lemma holds_of_created {m : Message} (serves : Serves o (⟨.createMessage m, .ok ()⟩ :: log) w o₁) :
    ¬ o.Holds m.id ∧ o₁.Holds m.id := by
  obtain ⟨o₂, w₁, w₂, -, answered, others⟩ := serves_cons_iff.mp serves
  obtain ⟨free, held⟩ := holds_of_createMessage (answer_createMessage_iff.mp answered).2
  exact ⟨free, held.of_serves others⟩

section Intake

variable {m : Message} {rest : Dialogue Desk.service Ending}
  (reaches : Dialogue.Reaches ((Call.intake m).program c) log rest)

include reaches

/-- An intake that waits for a channel has created its row. -/
lemma intake_creates {q : Desk.Request}
    {next : Desk.service.Answer q → Dialogue Desk.service Ending}
    (asks : rest = .ask q next) (outward : q.isOutward = true) :
    ∃ later, log = ⟨.createMessage m, .ok ()⟩ :: later := by
  obtain ⟨left, begun, ended⟩ := Dialogue.reaches_map reaches
  obtain ⟨-, pauses⟩ | ⟨e, -, a, rfl⟩ | created := Desk.reaches_process begun
  · cases left with
    | done a => cases ended.symm.trans asks
    | ask r later =>
      obtain rfl := pauses r later rfl
      cases ended.symm.trans asks
      cases outward
  · cases ended.symm.trans asks
  · exact created

/-- An intake that saves has created its row. -/
lemma intake_creates_of_saves {x : Exchange Desk.service} {n : Message} (member : x ∈ log)
    (saves : x.request = .saveMessage n) : ∃ later, log = ⟨.createMessage m, .ok ()⟩ :: later := by
  obtain ⟨left, begun, -⟩ := Dialogue.reaches_map reaches
  obtain ⟨rfl, -⟩ | ⟨e, rfl, -⟩ | created := Desk.reaches_process begun
  · cases member
  · obtain rfl := List.mem_singleton.mp member
    cases saves
  · exact created

/-- An intake starts with its row. -/
lemma starts_intake (waits : Waits rest) (serves : Serves o log w o₁) :
    Starts o o₁ log ⟨.intake m, rest⟩ := by
  have phased : Dialogue.Phased (S := Desk.service) (Desk.Request.opens m.id ·)
      (Desk.Request.settles m.id ·) ((Call.intake m).program c) :=
    (Desk.process_phased m rfl).bind fun _ => .done trivial
  have owed (id : String) (owes : Flight.Owes ⟨.intake m, rest⟩ id) : ¬ o.Holds id ∧
      o₁.Holds id := by
    obtain ⟨⟨_, same, rfl⟩, q, next, asks⟩ := owes
    cases same
    obtain ⟨later, rfl⟩ := intake_creates reaches asks (waits q next asks)
    exact holds_of_created serves
  refine ⟨?_, fun id owes => (owed id owes).1, fun id owes => (owed id owes).2,
    fun x member n saves => ?_⟩
  · exact Flight.settling_of_phased phased reaches waits (fun q => Desk.Request.isOutward_of_opens)
      fun q next r => Flight.settles_intake
  · have own : n.id = m.id := by
      have kind := phased.reaches reaches x member
      rw [saves] at kind
      exact kind.elim (fun opens => by cases opens) of_decide_eq_true
    obtain ⟨later, rfl⟩ := intake_creates_of_saves reaches member saves
    exact own ▸ (holds_of_created serves).1

end Intake

/-- A command starts by itself. -/
lemma starts_order {m : Message} {rest : Dialogue Desk.service Ending}
    (reaches : Dialogue.Reaches ((Call.order m).program c) log rest) (waits : Waits rest) :
    Starts o o₁ log ⟨.order m, rest⟩ := by
  have phased : Dialogue.Phased (S := Desk.service) (Desk.Request.isRuling ·)
      (Desk.Request.isOutward ·) ((Call.order m).program c) :=
    Dialogue.Phased.bind Desk.handleCommand_phased fun _ => .done trivial
  have owed (id : String) : ¬ Flight.Owes ⟨.order m, rest⟩ id := by
    rintro ⟨⟨_, impossible, -⟩, -⟩
    cases impossible
  refine ⟨?_, fun id owes => absurd owes (owed id), fun id owes => absurd owes (owed id),
    fun x member n saves => ?_⟩
  · exact Flight.settling_of_phased phased reaches waits
      (fun q => Desk.Request.isOutward_of_isRuling)
      fun q next r => .inl
  · have kind := phased.reaches reaches x member
    rw [saves] at kind
    obtain ruling | outward := kind
    · cases ruling
    · cases outward

/-- Every call starts in its way. -/
lemma starts {call : Call} {rest : Dialogue Desk.service Ending}
    (reaches : Dialogue.Reaches (call.program c) log rest) (waits : Waits rest)
    (serves : Serves o log w o₁) : Starts o o₁ log ⟨call, rest⟩ := by
  cases call with
  | intake m => exact starts_intake reaches waits serves
  | order m => exact starts_order reaches waits

/-- Flights stay orderly while others are served. -/
lemma Orderly.of_serves {flights : List Flight} (orderly : Orderly o flights)
    (serves : Serves o log w o₁) :
    Orderly o₁ flights :=
  ⟨orderly.settling, fun f member id owes => (orderly.held f member id owes).of_serves serves,
    orderly.apart⟩

/-- So they do when another one starts. -/
lemma Orderly.start {flights : List Flight} {f : Flight} (orderly : Orderly o flights)
    (serves : Serves o log w o₁) (starts : Starts o o₁ log f) :
    Orderly o₁ (flights ++ [f]) ∧ Spares log flights := by
  refine ⟨⟨?_, ?_, ?_⟩, fun x member g among m saves owes => ?_⟩
  · exact List.forall_mem_append.mpr
      ⟨orderly.settling, List.forall_mem_singleton.mpr starts.settling⟩
  · exact List.forall_mem_append.mpr ⟨(orderly.of_serves serves).held,
      List.forall_mem_singleton.mpr starts.held⟩
  · refine List.pairwise_append.mpr
      ⟨orderly.apart, List.pairwise_singleton _ _, fun g among f' last => ?_⟩
    obtain rfl := List.mem_singleton.mp last
    exact fun id owes own => starts.fresh id own (orderly.held g among id owes)
  · exact starts.saves x member m saves (orderly.held g among m.id owes)

/-- A call that goes on owes no more than before, and saves nothing that others owe. -/
lemma Orderly.resume {earlier later : List Flight} {call : Call}
    {d rest : Dialogue Desk.service Ending}
    (orderly : Orderly o (earlier ++ ⟨call, d⟩ :: later)) (serves : Serves o log w o₁)
    (reaches : Dialogue.Reaches d log rest) :
    Orderly o₁ (earlier ++ ⟨call, rest⟩ :: later) ∧ Spares log earlier := by
  obtain ⟨settling, held, apart⟩ := orderly
  have still (id : String) (owes : Flight.Owes ⟨call, rest⟩ id) : Flight.Owes ⟨call, d⟩ id := by
    obtain ⟨own, q, next, asks⟩ := owes
    subst asks
    cases reaches with
    | here => exact ⟨own, _, _, rfl⟩
    | ask _ => exact ⟨own, _, _, rfl⟩
  rw [List.forall_mem_append, List.forall_mem_cons] at settling held
  obtain ⟨settling₁, own, settling₂⟩ := settling
  obtain ⟨held₁, mine, held₂⟩ := held
  rw [List.pairwise_append, List.pairwise_cons] at apart
  obtain ⟨apart₁, ⟨before, apart₂⟩, across⟩ := apart
  obtain ⟨asked, left⟩ := Dialogue.Within.reaches own reaches
  refine ⟨⟨?_, ?_, ?_⟩, fun x member g among m saves owes => ?_⟩
  · refine List.forall_mem_append.mpr ⟨settling₁, List.forall_mem_cons.mpr ⟨?_, settling₂⟩⟩
    cases rest with
    | done e => exact Flight.settling_done _ e
    | ask q next =>
      refine left.mono (fun r settles => ?_) fun _ _ => trivial
      exact settles.imp_right fun ⟨n, same, own, _⟩ => ⟨n, same, own, q, next, rfl⟩
  · refine List.forall_mem_append.mpr
      ⟨fun g among id owes => (held₁ g among id owes).of_serves serves,
      List.forall_mem_cons.mpr ⟨fun id owes => (mine id (still id owes)).of_serves serves,
        fun g among id owes => (held₂ g among id owes).of_serves serves⟩⟩
  · refine List.pairwise_append.mpr ⟨apart₁, List.pairwise_cons.mpr ⟨fun g among id owes =>
      before g among id (still id owes), apart₂⟩, fun g among h behind => ?_⟩
    obtain _ | ⟨_, behind⟩ := behind
    · exact fun id owes own => across g among _ List.mem_cons_self id owes (still id own)
    · exact across g among h (List.mem_cons_of_mem _ behind)
  · obtain outward | ⟨n, same, own⟩ := asked x member
    · rw [saves] at outward
      cases outward
    · cases saves.symm.trans same
      exact across g among _ List.mem_cons_self m.id owes own

/-- Calls under way that are ended in the order of their starts come to what the calls come to one
after the other. -/
lemma Underway.in_order {flights : List Flight} (staged : o.Staged)
    (underway : Underway c ch o flights o₁) :
    o₁.Staged ∧ Orderly o₁ flights ∧ ∀ as o', InOrder ch o₁ (flights.map (·.rest)) as o' →
      InOrder ch o (flights.map (·.call.program c)) as o' := by
  induction underway with
  | idle =>
    refine ⟨staged, ⟨?_, ?_, .nil⟩, fun as o' inOrder => inOrder⟩
    · exact fun f member => absurd member List.not_mem_nil
    · exact fun f member => absurd member List.not_mem_nil
  | @start o₁ o₂ flights call rest underway proceeds waits ih =>
    obtain ⟨staged₁, orderly, in_order⟩ := ih
    obtain ⟨log, w, reaches, serves, tells⟩ := proceeds
    obtain ⟨orderly₂, spares⟩ := orderly.start serves (starts reaches waits serves)
    refine ⟨staged₁.of_serves serves, orderly₂, fun as o' inOrder => ?_⟩
    rw [List.map_append] at inOrder ⊢
    obtain ⟨o₃, as₁, as₂, rfl, first, last⟩ := inOrder_append_iff.mp inOrder
    -- what the new call asked goes behind the ends of all calls before it
    obtain ⟨p, before, after⟩ := first.put_off staged₁ orderly.settling orderly.held spares serves
    obtain ⟨o₄, a, none, rfl, ended, nothing⟩ := inOrder_cons_iff.mp last
    exact inOrder_append_iff.mpr ⟨p, as₁, _, rfl, in_order _ _ before,
      .cons (Proceeds.trans ⟨log, w, reaches, after, tells⟩ ended) nothing⟩
  | @resume o₁ o₂ earlier later call d rest underway proceeds waits ih =>
    obtain ⟨staged₁, orderly, in_order⟩ := ih
    obtain ⟨log, w, reaches, serves, tells⟩ := proceeds
    obtain ⟨orderly₂, spares⟩ := orderly.resume serves reaches
    refine ⟨staged₁.of_serves serves, orderly₂, fun as o' inOrder => ?_⟩
    rw [List.map_append] at inOrder
    obtain ⟨o₃, as₁, as₂, rfl, first, last⟩ := inOrder_append_iff.mp inOrder
    -- what was asked goes behind the ends of the calls before; the calls after it follow it anyway
    have settling := (List.forall_mem_append.mp orderly.settling).1
    have held := (List.forall_mem_append.mp orderly.held).1
    obtain ⟨p, before, after⟩ := first.put_off staged₁ settling held spares serves
    obtain ⟨o₄, a, others, rfl, ended, rests⟩ := inOrder_cons_iff.mp last
    have went_on : InOrder ch o₁ ((earlier ++ ⟨call, d⟩ :: later).map (·.rest))
        (as₁ ++ a :: others) o' := by
      rw [List.map_append]
      exact inOrder_append_iff.mpr ⟨p, as₁, _, rfl, before,
        .cons (Proceeds.trans ⟨log, w, reaches, after, tells⟩ ended) rests⟩
    have same := in_order _ _ went_on
    rwa [List.map_append] at same ⊢

end ChatTriage.Office
