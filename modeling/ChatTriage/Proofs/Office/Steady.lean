import ChatTriage.Proofs.Office.Alike

/-!
# Calls in alike offices

What the desk does for a call depends on the dates of matches nowhere, so that a call comes to the
same end in alike offices and leaves them alike.
-/

namespace ChatTriage.Desk

open Office (Channels Alongside Answered Paired SameFilters)

variable {α β γ δ : Type} {ch : Channels} {R : α → β → Prop} {S : γ → δ → Prop} {c : Config}
    {m : Message}

/-- Two tasks that are carried out in alike offices end in the same way. -/
def Task.Alongside (ch : Channels) (R : α → β → Prop) (t : Task α) (u : Task β) : Prop :=
  Office.Alongside ch (Paired R) (ExceptT.run t) (ExceptT.run u)

/-- A task comes to the same end in alike offices. -/
def Task.Steady (ch : Channels) (t : Task α) : Prop :=
  Task.Alongside ch Eq t t

/-- Work on a message that is carried out in alike offices ends in the same way and leaves the same
message. -/
def Work.Alongside (ch : Channels) (R : α → β → Prop) (w : Work α) (v : Work β) : Prop :=
  ∀ m, Office.Alongside ch (fun x y => Paired R x.1 y.1 ∧ x.2 = y.2) (StateT.run (ExceptT.run w) m)
    (StateT.run (ExceptT.run v) m)

/-- Work comes to the same end in alike offices. -/
def Work.Steady (ch : Channels) (w : Work α) : Prop :=
  Work.Alongside ch Eq w w

namespace Task.Alongside

/-- Related results are alongside each other. -/
lemma pure {a : α} {b : β} (related : R a b) : Task.Alongside ch R (pure a) (pure b) :=
  .done (.ok related)

/-- A task that fails is alongside one that fails alike. -/
lemma throw {f : Fault} : Task.Alongside ch R (throw f) (throw f) :=
  .done .error

/-- Requests that are answered alike may begin tasks that go on alongside. -/
lemma ask_bind {q r : Request} {T : q.Answer → r.Answer → Prop} {f : q.Answer → Task α}
    {g : r.Answer → Task β} (answered : Answered ch q r T)
    (rest : ∀ x y, T x y → Task.Alongside ch R (f x) (g y)) :
    Task.Alongside ch R (ask q >>= f) (ask r >>= g) := by
  show Office.Alongside ch (Paired R)
    (Dialogue.request (S := service) q >>= fun x => ExceptT.run (f x))
    (Dialogue.request (S := service) r >>= fun x => ExceptT.run (g x))
  exact Office.Alongside.bind answered.alongside rest

/-- Tasks alongside each other may go on alongside. -/
lemma bind {t : Task α} {u : Task β} {f : α → Task γ} {g : β → Task δ}
    (first : Task.Alongside ch R t u)
    (rest : ∀ a b, R a b → Task.Alongside ch S (f a) (g b)) :
    Task.Alongside ch S (t >>= f) (u >>= g) := by
  refine Office.Alongside.bind first fun x y paired => ?_
  cases paired with
  | ok related => exact rest _ _ related
  | error => exact .done .error

/-- So may tasks that look at whether the first part failed. -/
lemma attempt_bind {t : Task α} {u : Task β} {f : Except Fault α → Task γ}
    {g : Except Fault β → Task δ}
    (first : Task.Alongside ch R t u)
    (rest : ∀ x y, Paired R x y → Task.Alongside ch S (f x) (g y)) :
    Task.Alongside ch S (attempt t >>= f) (attempt u >>= g) := by
  unfold Task.Alongside
  rw [run_attempt_bind, run_attempt_bind]
  exact Office.Alongside.bind first rest

end Task.Alongside

namespace Task.Steady

/-- A result is steady. -/
lemma pure {a : α} : Task.Steady ch (pure a) :=
  Task.Alongside.pure rfl

/-- A fault is steady. -/
lemma throw {f : Fault} : Task.Steady ch (throw f : Task α) :=
  Task.Alongside.throw

/-- So is a result that may be a fault. -/
lemma result {r : Except Fault α} : Task.Steady ch (ExceptT.mk (Pure.pure r)) := by
  cases r with
  | ok a => exact pure
  | error e => exact throw

/-- A request is steady if it is answered alike. -/
lemma ask {q : Request} (answered : Answered ch q q (· = ·)) : Task.Steady ch (ask q) := by
  show Office.Alongside ch (Paired Eq)
    (Dialogue.request (S := service) q >>= fun x => .done (.ok x))
    (Dialogue.request (S := service) q >>= fun x => .done (.ok x))
  refine Office.Alongside.bind answered.alongside ?_
  rintro x _ rfl
  exact .done (.ok rfl)

/-- Steady tasks may follow each other. -/
lemma bind {t : Task α} {f : α → Task β} (first : Task.Steady ch t)
    (rest : ∀ a, Task.Steady ch (f a)) :
    Task.Steady ch (t >>= f) := by
  refine Task.Alongside.bind first ?_
  rintro a _ rfl
  exact rest a

/-- A steady task may be carried out for each item of a list. -/
lemma mapM {ι : Type} {g : ι → Task α} {is : List ι} (each : ∀ i, Task.Steady ch (g i)) :
    Task.Steady ch (is.mapM g) := by
  induction is with
  | nil => exact pure
  | cons i is ih =>
    rw [List.mapM_cons]
    exact bind (each i) fun a => bind ih fun as => pure

end Task.Steady

namespace Work.Alongside

/-- What reads the message goes on alongside if it does so for every message. -/
lemma get_bind {f : Message → Work α} {g : Message → Work β}
    (rest : ∀ m, Work.Alongside ch R (f m) (g m)) :
    Work.Alongside ch R (get >>= f) (get >>= g) :=
  fun m => rest m m

/-- Work alongside other work may go on alongside. -/
lemma bind {w : Work α} {v : Work β} {f : α → Work γ} {g : β → Work δ}
    (first : Work.Alongside ch R w v)
    (rest : ∀ a b, R a b → Work.Alongside ch S (f a) (g b)) :
    Work.Alongside ch S (w >>= f) (v >>= g) := by
  intro m
  refine Office.Alongside.bind (first m) ?_
  rintro ⟨x, n⟩ ⟨y, _⟩ ⟨paired, same⟩
  cases same
  cases paired with
  | ok related => exact rest _ _ related n
  | error => exact .done ⟨.error, rfl⟩

/-- Tasks alongside each other are so as work. -/
lemma toWork {t : Task α} {u : Task β} (alongside : Task.Alongside ch R t u) :
    Work.Alongside ch R (Task.toWork t) (Task.toWork u) :=
  fun _ => Office.Alongside.bind alongside fun _ _ paired => .done ⟨paired, rfl⟩

end Work.Alongside

namespace Work.Steady

/-- A result that may be a fault is steady work. -/
lemma result {r : Except Fault α} : Work.Steady ch (ExceptT.mk (Pure.pure r)) := by
  intro m
  cases r with
  | ok a => exact .done ⟨.ok rfl, rfl⟩
  | error e => exact .done ⟨.error, rfl⟩

/-- A result is steady work. -/
lemma pure {a : α} : Work.Steady ch (pure a) :=
  result (r := .ok a)

/-- Putting down the message is steady. -/
lemma set {n : Message} : Work.Steady ch (set n) :=
  fun _ => .done ⟨.ok rfl, rfl⟩

/-- Reading the message is steady. -/
lemma get_bind {f : Message → Work β} (rest : ∀ m, Work.Steady ch (f m)) :
    Work.Steady ch (get >>= f) :=
  Work.Alongside.get_bind rest

/-- Steady work may follow steady work. -/
lemma bind {w : Work α} {f : α → Work β} (first : Work.Steady ch w)
    (rest : ∀ a, Work.Steady ch (f a)) :
    Work.Steady ch (w >>= f) := by
  refine Work.Alongside.bind first ?_
  rintro a _ rfl
  exact rest a

/-- A steady task is steady work. -/
lemma toWork {t : Task α} (steady : Task.Steady ch t) : Work.Steady ch (Task.toWork t) :=
  Work.Alongside.toWork steady

/-- Steady work may be done for each item of a list. -/
lemma mapM {ι : Type} {g : ι → Work α} {is : List ι} (each : ∀ i, Work.Steady ch (g i)) :
    Work.Steady ch (is.mapM g) := by
  induction is with
  | nil => exact pure
  | cons i is ih =>
    rw [List.mapM_cons]
    exact bind (each i) fun a => bind ih fun as => pure

end Work.Steady

/-- Answering the sender is steady. -/
lemma autoReply_steady {text : String} : Task.Steady ch (autoReply c m text) := by
  unfold autoReply
  cases c.routeNamed? m.metadata.source with
  | none => exact .pure
  | some route =>
    refine Task.Alongside.ask_bind Office.answered_available ?_
    rintro _ _ ⟨usable, rfl, rfl⟩
    cases usable with
    | false => exact .pure rfl
    | true =>
      refine .ask_bind Office.answered_send fun x y sent => ?_
      cases sent with
      | ok _ => exact .pure rfl
      | error => exact .pure rfl

/-- Forwarding to one destination is steady. -/
lemma forwardOne_steady {route : Nat} {channel label destination : String} :
    Task.Steady ch (forwardOne route channel m label destination) := by
  refine Task.Alongside.ask_bind Office.answered_forward fun x y sent => ?_
  cases sent with
  | ok _ => exact .pure rfl
  | error => exact .pure rfl

/-- Forwarding for a filter is steady. -/
lemma forwardAll_steady {f : Filter} : Task.Steady ch (forwardAll c m f) := by
  refine .bind (.mapM fun way => ?_) fun effects => .pure
  refine Task.Alongside.ask_bind Office.answered_available ?_
  rintro _ _ ⟨usable, rfl, rfl⟩
  cases usable with
  | false => exact .pure rfl
  | true => exact Task.Steady.mapM fun destination => forwardOne_steady

/-- Moving the status is steady. -/
lemma advance_steady {target : Status} : Work.Steady ch (advance target) := by
  refine .get_bind fun m => ?_
  split
  · exact .set
  · exact .result

/-- Saving the message is steady. -/
lemma save_steady : Work.Steady ch save := by
  refine .get_bind fun m => ?_
  refine .bind (.toWork (.ask Office.answered_saveMessage)) fun answer => ?_
  cases answer with
  | error e => exact .pure
  | ok u =>
    simp only
    split
    · exact .bind .set fun _ => .pure
    · exact .pure

/-- Applying one filter is steady. -/
lemma runFilter_steady {f : Filter} : Work.Steady ch (runFilter c f) := by
  rw [runFilter_eq]
  refine .bind (.get_bind fun m => .bind .set fun _ => .pure) fun notes => ?_
  have persisting : Work.Steady ch persist := by
    rw [persist_eq]
    exact .bind save_steady fun _ => .result
  refine .bind persisting fun note => .get_bind fun m => ?_
  have replies : Work.Steady ch (replying c m f) := by
    unfold replying
    split
    · rw [map_eq_pure_bind]
      exact .bind (.toWork autoReply_steady) fun _ => .pure
    · exact .pure
  exact .bind replies fun replies => .bind (.toWork forwardAll_steady) fun _ => .pure

/-- Applying the filters that matched is steady. -/
lemma dispatch_steady {filters : List Filter} : Work.Steady ch (dispatch c filters) := by
  unfold dispatch
  cases filters with
  | nil => exact .mapM fun f => runFilter_steady
  | cons f filters => exact .bind advance_steady fun _ => .mapM fun f => runFilter_steady

/-- The end of sorting is steady. -/
lemma finish_steady {id : String} {matched : List Filter} :
    Work.Steady ch (finish c id matched) := by
  cases matched with
  | nil =>
    have saving : Work.Steady ch saveQuietly := by
      rw [saveQuietly_eq]
      exact .bind save_steady fun _ => .result
    exact .bind advance_steady fun _ => .bind saving fun _ => .get_bind fun m => .pure
  | cons f filters => exact .bind dispatch_steady fun _ => .get_bind fun m => .pure

/-- Carrying out filters does not look at their dates. -/
lemma finish_undated {id : String} {filters : List Filter} :
    finish c id (filters.map Filter.undated) = finish c id filters := by
  have names : (filters.map Filter.undated).map (·.name) = filters.map (·.name) := by
    rw [List.map_map]
    rfl
  have dispatched : dispatch c (filters.map Filter.undated) = dispatch c filters := by
    unfold dispatch
    rw [List.isEmpty_map, List.mapM_map]
    rfl
  unfold finish
  rw [List.isEmpty_map, names, dispatched]

/-- Refreshing the rules comes to the same filters, their dates apart. -/
lemma refresh_alongside : Task.Alongside ch SameFilters refresh refresh := by
  refine .ask_bind Office.answered_enabledFilters ?_
  rintro _ _ ⟨fs, gs, rfl, rfl, same⟩
  refine .ask_bind Office.answered_keepSnapshot fun _ _ _ => .pure ?_
  have enabled (filters : List Filter) : (filters.filter (·.enabled)).map Filter.undated =
      (filters.map Filter.undated).filter (·.enabled) := by
    rw [List.filter_map]
    rfl
  exact (enabled fs).trans ((congrArg (List.filter (·.enabled)) same).trans (enabled gs).symm)

/-- A match is recorded alike for filters that differ in their dates. -/
lemma recordMatch_alongside {f g : Filter} (same : f.undated = g.undated) :
    Task.Alongside ch Eq (recordMatch f) (recordMatch g) := by
  obtain ⟨date, rfl⟩ := Filter.eq_of_undated same
  unfold recordMatch
  simp only
  split
  · exact .pure rfl
  · refine .ask_bind Office.answered_now ?_
    rintro now now' ⟨legible, legibleToo⟩
    refine .ask_bind (Office.answered_storeStats legible legibleToo) ?_
    rintro answer _ rfl
    cases answer with
    | ok u => exact .pure rfl
    | error e =>
      simp only
      split
      · exact .pure rfl
      · exact .throw

/-- Filters that differ in their dates are selected alike. -/
lemma selects_alongside {zone : Zone} {f g : Filter} (same : f.undated = g.undated) :
    Task.Alongside ch Eq (selects zone m f) (selects zone m g) := by
  have accepts : f.accepts m zone = g.accepts m zone :=
    show f.undated.accepts m zone = g.undated.accepts m zone by rw [same]
  unfold selects
  rw [accepts]
  refine .bind Task.Steady.result ?_
  rintro accepted _ rfl
  cases accepted with
  | false => exact .pure rfl
  | true => exact .bind (recordMatch_alongside same) fun _ _ _ => .pure rfl

/-- The filters that accept a message are the same but for their dates. -/
lemma matchAll_alongside {zone : Zone} {fs gs : List Filter} (same : SameFilters fs gs) :
    Task.Alongside ch SameFilters (matchAll zone m fs) (matchAll zone m gs) := by
  induction fs generalizing gs with
  | nil =>
    obtain rfl := List.map_eq_nil_iff.mp same.symm
    exact .pure rfl
  | cons f fs ih =>
    obtain ⟨g, gs, rfl, undated, rest⟩ := List.map_eq_cons_iff.mp same.symm
    -- a match that cannot be counted drops out of both lists
    refine .attempt_bind (selects_alongside undated.symm) fun x y selected => ?_
    refine .bind (ih rest.symm) fun others othersToo alike => .pure ?_
    have chosen : x.toOption = y.toOption := by
      cases selected with
      | ok same => rw [same]
      | error => rfl
    rw [chosen]
    split
    · exact congrArg₂ List.cons undated.symm alike
    · exact alike

/-- Sorting a message is steady. -/
lemma sort_steady {id : String} : Work.Steady ch (sort c id) := by
  refine Work.Alongside.bind (.toWork refresh_alongside) fun fs gs same => .get_bind fun m => ?_
  refine .bind (.toWork (matchAll_alongside same)) fun matched matchedToo alike => ?_
  -- the filters that accept the message differ in dates, which carrying them out does not look at
  rw [← finish_undated, alike, finish_undated]
  exact finish_steady

/-- Taking in the row of a message is steady. -/
lemma createRow_steady : Work.Steady ch createRow := by
  refine .get_bind fun m => .bind (.toWork (.ask Office.answered_createMessage)) fun created => ?_
  cases created with
  | ok u => exact .bind .set fun _ => .pure
  | error e => exact .pure

/-- Processing a message is steady. -/
lemma process_steady : Work.Steady ch (process c) := by
  rw [process_eq]
  refine .get_bind fun m => ?_
  cases m.draft.refusal? with
  | some report => exact .pure
  | none =>
    refine .bind createRow_steady fun created => ?_
    cases created with
    | ok u => exact sort_steady
    | error e => exact .result

/-- An edit does not touch the date of the last match. -/
lemma undated_apply (f : Filter) (u : Command.Update) :
    (u.apply f).undated = u.apply f.undated := by
  cases u <;> rfl

/-- Storing an edited filter is steady. -/
lemma storeUpdate_steady {text : String} : Task.Steady ch (storeUpdate text) := by
  unfold storeUpdate
  refine .bind .result fun command => ?_
  cases Command.Field.ofWord? command.field with
  | none => exact .pure
  | some field =>
    refine .bind .result fun update => ?_
    refine Task.Alongside.ask_bind Office.answered_filterNamed fun x y found => ?_
    cases found with
    | refused => exact .throw
    | none => exact .pure rfl
    | @some f g regular regularToo same =>
      have edited : (update.apply f).undated = (update.apply g).undated := by
        rw [undated_apply, undated_apply, same]
      refine .ask_bind
        (Office.answered_storeFilter (regular.apply update) (regularToo.apply update) edited)
        fun x y stored => ?_
      cases stored with
      | ok _ => exact .pure rfl
      | error => exact .throw

/-- An update command is steady. -/
lemma updateFilter_steady {text : String} : Task.Steady ch (updateFilter text) := by
  refine Task.Alongside.attempt_bind storeUpdate_steady fun x y stored => ?_
  cases stored with
  | error =>
    simp only
    split
    · exact .pure rfl
    · exact .throw
  | @ok outcome _ same =>
    subst same
    obtain reason | ⟨command, update⟩ := outcome
    · exact .pure rfl
    · exact .bind refresh_alongside fun _ _ _ => .pure rfl

/-- The list of filters does not show when they matched. -/
lemma filterList_undated {filters : List Filter} :
    Command.filterList (filters.map Filter.undated) = Command.filterList filters := by
  have lines : (filters.map Filter.undated).map Command.filterLine =
      filters.map Command.filterLine := by
    rw [List.map_map]
    rfl
  unfold Command.filterList
  rw [List.isEmpty_map, List.length_map, lines]

/-- Listing the filters is steady. -/
lemma listFilters_steady : Task.Steady ch listFilters := by
  refine Task.Alongside.ask_bind Office.answered_allFilters ?_
  rintro _ _ ⟨fs, gs, rfl, rfl, same⟩
  show Task.Alongside ch Eq (pure _) (pure _)
  rw [← filterList_undated, same, filterList_undated]
  exact .pure rfl

/-- Confirming a command is steady. -/
lemma confirm_steady {text : String} : Task.Steady ch (confirm c m text) := by
  refine .bind .result fun found => ?_
  cases found with
  | none => exact .pure
  | some route =>
    refine Task.Alongside.ask_bind Office.answered_available ?_
    rintro _ _ ⟨usable, rfl, rfl⟩
    cases usable with
    | false => exact .pure rfl
    | true => exact .ask_bind Office.answered_send fun x y _ => .pure rfl

/-- Handling a command is steady. -/
lemma handle_steady : Task.Steady ch (handle c m) := by
  unfold handle
  cases c.isAdmin m with
  | false => exact .pure
  | true =>
    refine .bind .result fun intent => ?_
    cases intent with
    | help => exact .pure
    | list => exact listFilters_steady
    | update =>
      refine .bind updateFilter_steady fun result => ?_
      cases result.success with
      | false => exact .pure
      | true => exact .bind confirm_steady fun _ => .pure
    | unknown => exact .pure

/-- So it is with its faults turned into results. -/
lemma handleCommand_steady : Task.Steady ch (handleCommand c m) := by
  refine Task.Alongside.attempt_bind handle_steady fun x y handled => ?_
  cases handled with
  | ok same =>
    subst same
    exact .pure rfl
  | error => exact .pure rfl

end ChatTriage.Desk
