import ChatTriage.Proofs.Desk.Isolation

/-!
# The notes of filters

What the filters of a dispatch put on a message is settled by the message and the filters alone,
whatever the store and the channels answer. `Message.noted` says it for all of them at once, and
`noted_cons` that carrying out one more filter agrees with it; that the notes of the same filters
change nothing the second time is `noted_noted`.
-/

namespace ChatTriage

namespace Metadata

variable {notes : Metadata} {tag : String} {tags : List String} {f : Filter} {filters : List Filter}

/-- Those of some tags that are not there yet, each once, in the order in which they first occur. -/
def newTags (notes : Metadata) (tags : List String) : List String :=
  (tags.filter fun tag => !notes.hasTag (.str tag)).eraseDups

/-- The notes with those of filters: important if one of them says so, with the priority of the last
one that sets any, and with the tags of all of them. -/
def noted (notes : Metadata) (filters : List Filter) : Metadata :=
  { notes with
    important := notes.important || filters.any (·.actions.markImportant)
    priority := (filters.reverse.findSome? (·.actions.setPriority)).getD notes.priority
    tags := notes.tags ++ (notes.newTags (filters.flatMap (·.actions.addTags))).map .str }

/-- A tag is there already, or among those that are added. -/
lemma hasTag_append {added : List String} :
    hasTag { notes with tags := notes.tags ++ added.map .str } (.str tag) =
      (notes.hasTag (.str tag) || added.contains tag) := by
  have same : (added.map Json.str).any (·.same (.str tag)) = added.any (· == tag) := List.any_map
  unfold hasTag
  rw [List.any_append, same, List.any_beq']

/-- A tag that is there is not new. -/
lemma newTags_cons_old (old : notes.hasTag (.str tag) = true) :
    notes.newTags (tag :: tags) = notes.newTags tags := by
  simp [newTags, old]

/-- A new tag comes first, and is not new any more among those after it. -/
lemma newTags_cons_new (new : notes.hasTag (.str tag) = false) :
    notes.newTags (tag :: tags) =
      tag :: newTags { notes with tags := notes.tags ++ [.str tag] } tags := by
  have later (other : String) :
    (!hasTag { notes with tags := notes.tags ++ [.str tag] } (.str other)) =
      (!other == tag && !notes.hasTag (.str other)) := by
    rw [← List.map_singleton, hasTag_append, List.contains_cons, List.contains_nil, Bool.or_false,
      Bool.not_or, Bool.and_comm]
  unfold newTags
  rw [List.filter_cons_of_pos (by simp [new]), List.eraseDups_cons, List.filter_filter]
  simp only [later]

/-- Tags that are added one after the other are added without those that are there already. -/
lemma foldl_addTag (notes : Metadata) (tags : List String) :
    tags.foldl (fun notes tag => notes.addTag (.str tag)) notes =
      { notes with tags := notes.tags ++ (notes.newTags tags).map .str } := by
  induction tags generalizing notes with
  | nil => simp [newTags]
  | cons tag tags ih =>
    rw [List.foldl_cons, ih]
    cases known : notes.hasTag (.str tag) with
    | true =>
      rw [newTags_cons_old known]
      simp [addTag, known]
    | false =>
      rw [newTags_cons_new known]
      simp [addTag, known]

/-- Tags that come later are new if they are not among the earlier ones. -/
lemma newTags_append {more : List String} :
    notes.newTags (tags ++ more) = notes.newTags tags ++
      newTags { notes with tags := notes.tags ++ (notes.newTags tags).map .str } more := by
  -- adding the tags in two steps is adding them in one
  have both := foldl_addTag notes (tags ++ more)
  rw [List.foldl_append, foldl_addTag, foldl_addTag] at both
  have added := congrArg Metadata.tags both
  simp only [List.append_assoc, List.append_cancel_left_eq, ← List.map_append] at added
  exact ((List.map_inj_right fun _ _ => Json.str.inj).mp added).symm

/-- The tags of filters are all there once their notes are. -/
lemma hasTag_noted (member : tag ∈ filters.flatMap (·.actions.addTags)) :
    (notes.noted filters).hasTag (.str tag) = true := by
  have there : notes.hasTag (.str tag) = true ∨
      tag ∈ notes.newTags (filters.flatMap (·.actions.addTags)) := by
    cases old : notes.hasTag (.str tag) with
    | true => exact .inl rfl
    | false => exact .inr (List.mem_eraseDups.mpr (List.mem_filter.mpr ⟨member, by simp [old]⟩))
  refine hasTag_append.trans ?_
  rw [Bool.or_eq_true, List.contains_iff_mem]
  exact there

/-- No filters leave no notes. -/
@[simp] lemma noted_nil : notes.noted [] = notes := by
  simp [noted, newTags]

/-- The same notes change nothing the second time. -/
lemma noted_noted : (notes.noted filters).noted filters = notes.noted filters := by
  have none : (notes.noted filters).newTags (filters.flatMap (·.actions.addTags)) = [] := by
    unfold newTags
    rw [List.filter_eq_nil_iff.mpr fun tag
      member => by simp [hasTag_noted member], List.eraseDups_nil]
  have important : ((notes.noted filters).important || filters.any (·.actions.markImportant)) =
      (notes.noted filters).important := by
    simp [noted]
  have priority : (filters.reverse.findSome? (·.actions.setPriority)).getD
    (notes.noted filters).priority =
      (notes.noted filters).priority := by
    cases last : filters.reverse.findSome? (·.actions.setPriority) <;> simp [noted, last]
  rw [noted, none, important, priority, List.map_nil, List.append_nil]

end Metadata

namespace Message

variable {m : Message} {f : Filter} {filters : List Filter}

/-- The message after filters were put on it: archived if it was or one of them archives it, and
filtered otherwise. -/
def noted (m : Message) (filters : List Filter) : Message :=
  { m with
    status := if m.status = .archived ∨
      filters.any (·.actions.archive) then .archived else .filtered
    metadata := m.metadata.noted filters }

/-- No filters leave no notes on a message. -/
lemma noted_nil (matched : m.IsMatched) : m.noted [] = m := by
  have status :
    (if m.status = .archived ∨ ([] : List Filter).any (·.actions.archive) then Status.archived
      else .filtered) = m.status := by
    obtain filtered | archived := matched
    · simp [filtered]
    · simp [archived]
  unfold noted
  rw [status, Metadata.noted_nil]

/-- The notes of a filter are put on the message before those of the filters after it. -/
lemma noted_cons : (m.carry f.actions).noted filters = m.noted (f :: filters) := by
  have priority : (filters.reverse.findSome? (·.actions.setPriority)).getD
      (f.actions.setPriority.getD m.metadata.priority) =
      ((f :: filters).reverse.findSome? (·.actions.setPriority)).getD m.metadata.priority := by
    rw [List.reverse_cons, List.findSome?_append]
    cases filters.reverse.findSome? (·.actions.setPriority) <;> simp
  have status :
    (if (m.carry f.actions).status = .archived ∨
      filters.any (·.actions.archive) then Status.archived
      else .filtered) =
      if m.status = .archived ∨ (f :: filters).any (·.actions.archive) then .archived
        else .filtered := by
    cases archive : f.actions.archive <;> simp [carry, archive]
  unfold noted
  rw [status]
  simp only [carry, annotate, Metadata.foldl_addTag, Metadata.noted, List.flatMap_cons,
    List.any_cons, Metadata.newTags_append, List.map_append, List.append_assoc,
    Bool.or_assoc, priority]
  rfl

/-- A message that enters filters ends up where it would if it had entered them already. -/
lemma noted_entering {others : List Filter} :
    (m.entering others).noted filters = m.noted filters := by
  unfold entering
  split
  · rename_i received
    simp [noted, received.2]
  · rfl

/-- Noting twice is noting once. -/
lemma noted_noted : (m.noted filters).noted filters = m.noted filters := by
  have status :
    (if (m.noted filters).status = .archived ∨ filters.any (·.actions.archive) then Status.archived
      else .filtered) = (m.noted filters).status := by
    by_cases archived : m.status = .archived ∨ filters.any (·.actions.archive)
    · have there : (m.noted filters).status = .archived := if_pos archived
      rw [there, if_pos (.inl rfl)]
    · have there : (m.noted filters).status = .filtered := if_neg archived
      rw [there, if_neg (not_or.mpr ⟨nofun, (not_or.mp archived).2⟩)]
  have notes : (m.noted filters).metadata.noted filters = (m.noted filters).metadata :=
    Metadata.noted_noted
  rw [noted, status, notes]

end Message

namespace Desk

variable {c : Config} {m m' : Message} {f : Filter} {filters : List Filter} {log : Log}

/-- All effects of an answer are answers. -/
lemma Replies.action {effects : List SideEffect} (replies : Replies c m f log effects) :
    ∀ effect ∈ effects, effect.action = .autoReply := by
  cases replies with
  | none => exact fun effect member => absurd member List.not_mem_nil
  | one _ replied =>
    rw [List.forall_mem_singleton]
    cases replied <;> rfl

/-- All effects on a route are forwards on it. -/
lemma Routed.action {way : Route × Nat} {effects : List SideEffect}
    (routed : Routed m f way log effects) :
    ∀ effect ∈ effects, effect.action = .forward way.1.name := by
  cases routed with
  | opened forwarded => exact forwarded.forall fun _ _ _ tried => by cases tried; rfl
  | closed => exact fun effect member => absurd member List.not_mem_nil
  | silent => exact fun effect member => absurd member List.not_mem_nil

/-- A filter never has to report that its notes could not be put on the message. -/
lemma Carried.action {outcome : FilterOutcome} (carried : Carried c f m log outcome m') :
    ∀ effect ∈ outcome.sideEffects, effect.action ≠ .metadata := by
  cases carried with
  | @mk _ _ _ _ replies forwards _ replied routed =>
    have forwarded : ∀ effects ∈ forwards, ∀ effect ∈ effects, effect.action ≠ .metadata :=
      routed.forall fun way _ _ asked effect member => by
        rw [asked.action effect member]
        nofun
    intro effect member
    obtain reply | forward := List.mem_append.mp member
    · rw [replied.action effect reply]
      nofun
    · obtain ⟨effects, listed, among⟩ := List.mem_flatten.mp forward
      exact forwarded effects listed effect among

/-- No effect of a dispatch is about notes. -/
lemma Served.action {outcomes : List FilterOutcome} (served : Served c filters m log outcomes m') :
    ∀ outcome ∈ outcomes, ∀ effect ∈ outcome.sideEffects, effect.action ≠ .metadata := by
  induction served with
  | nil => exact fun outcome member => absurd member List.not_mem_nil
  | cons carried _ ih => exact List.forall_mem_cons.mpr ⟨carried.action, ih⟩

/-- A filter puts its notes on the message however it ends. -/
lemma runs_runFilter_carry (matched : m.IsMatched) {r : Except Fault FilterOutcome}
    (run : Work.Runs (runFilter c f) m log r m') :
    ∃ version, m' = { m.carry f.actions with version } := by
  obtain ⟨_, -, carried⟩ | ⟨_, -, unanswered⟩ | ⟨answer, _, -, -, -, rfl⟩ :=
    (runs_runFilter_iff matched).mp run
  · cases carried
    exact Message.kept_eq _ _
  · cases unanswered
    exact Message.kept_eq _ _
  · exact Message.kept_eq _ answer

/-- Filters put their notes on the message up to the one that is broken off, that one included. -/
lemma runs_filters_noted (matched : m.IsMatched) {r : Except Fault (List FilterOutcome)}
    (run : Work.Runs (filters.mapM (runFilter c)) m log r m') :
    ∃ carried left version, filters = carried ++ left ∧ (filters ≠ [] → carried ≠ []) ∧
      m' = { m.noted carried with version } ∧ ∀ outcomes, r = .ok outcomes → left = [] := by
  induction filters generalizing m log r with
  | nil =>
    rw [List.mapM_nil] at run
    obtain ⟨rfl, rfl, rfl⟩ := Work.runs_pure_iff.mp run
    refine ⟨[], [], m'.version, rfl, nofun, ?_, fun _ _ => rfl⟩
    rw [Message.noted_nil matched]
  | cons f filters ih =>
    rw [List.mapM_cons] at run
    obtain ⟨fault, first, rfl⟩ | ⟨outcome, m₁, log₁, log₂, rfl, first, later⟩ :=
      Work.runs_bind_iff.mp run
    · obtain ⟨version, rfl⟩ := runs_runFilter_carry matched first
      refine ⟨[f], filters, version, rfl, nofun, ?_, nofun⟩
      rw [← Message.noted_cons, Message.noted_nil (Message.carry_isMatched matched f.actions)]
    · obtain ⟨version, rfl⟩ := runs_runFilter_carry matched first
      -- the notes on the message do not depend on the version that the save left
      have matchedStill : Message.IsMatched { m.carry f.actions with version } :=
        Message.carry_isMatched matched f.actions
      have noted (carried : List Filter) (last : Version) :
          { Message.noted { m.carry f.actions with version } carried with version := last } =
            { m.noted (f :: carried) with version := last } := by
        rw [← Message.noted_cons]
        rfl
      obtain ⟨others, rest, rfl⟩ := Work.runs_bind_pure_iff.mp later
      obtain ⟨carried, left, kept, rfl, -, rfl, all⟩ := ih matchedStill rest
      refine ⟨f :: carried, left, kept, rfl, nofun, noted carried kept, fun _ ended => ?_⟩
      cases others with
      | ok outcomes => exact all outcomes rfl
      | error fault => cases ended

/-- What a dispatch notes on a message is settled by the message and the filters. Whatever the store
and the channels answer, the message ends up with the notes of the filters that were begun, which
are all of them unless the dispatch was broken off, and only its version may be another besides; no
filter reports that its notes could not be put on it; and when the same filters are dispatched
again, be it at a desk with other channels, the status and the notes stay what they are. -/
theorem dispatch_notes (unprocessed : m.status ≠ .processed) (some : filters ≠ []) :
    (∀ log r m', Work.Runs (dispatch c filters) m log r m' →
      ∃ carried left version, filters = carried ++ left ∧ carried ≠ [] ∧
        m' = { m.noted carried with version } ∧
        ∀ outcomes, r = .ok outcomes → left = [] ∧
          ∀ outcome ∈ outcomes, ∀ effect ∈ outcome.sideEffects, effect.action ≠ .metadata) ∧
    ∀ c' log log' outcomes outcomes' m' m'',
      Work.Runs (dispatch c filters) m log (.ok outcomes) m' →
      Work.Runs (dispatch c' filters) m' log' (.ok outcomes') m'' →
      m''.status = m'.status ∧ m''.metadata = m'.metadata := by
  have notes {c : Config} {m m' : Message} {log : Log} {r : Except Fault (List FilterOutcome)}
      (unprocessed : m.status ≠ .processed) (run : Work.Runs (dispatch c filters) m log r m') :
      ∃ carried left version, filters = carried ++ left ∧ carried ≠ [] ∧
        m' = { m.noted carried with version } ∧ ∀ outcomes, r = .ok outcomes → left = [] := by
    rw [runs_dispatch_iff unprocessed] at run
    obtain ⟨carried, left, version, split, begun, rfl, all⟩ :=
      runs_filters_noted (Message.entering_isMatched unprocessed some) run
    refine ⟨carried, left, version, split, begun some, ?_, all⟩
    rw [Message.noted_entering]
  constructor
  · intro log r m' run
    obtain ⟨carried, left, version, split, begun, noted, all⟩ := notes unprocessed run
    refine ⟨carried, left, version, split, begun, noted,
      fun outcomes ended => ⟨all outcomes ended, ?_⟩⟩
    rw [ended] at run
    exact ((runs_dispatch_ok_iff unprocessed).mp run).action
  · intro c' log log' outcomes outcomes' m' m'' first second
    obtain ⟨carried, left, version, split, -, rfl, all⟩ := notes unprocessed first
    rw [all outcomes rfl, List.append_nil] at split
    subst split
    have unprocessedStill : (m.noted filters).status ≠ .processed := by
      unfold Message.noted
      split <;> nofun
    obtain ⟨again, left, later, split, -, rfl, all⟩ :=
      notes (m := { m.noted filters with version }) unprocessedStill second
    rw [all outcomes' rfl, List.append_nil] at split
    subst split
    have same : Message.noted { m.noted filters with version } filters =
        { (m.noted filters).noted filters with version } := rfl
    rw [same, Message.noted_noted]
    exact ⟨rfl, rfl⟩

namespace Sample

/-- A filter that gives every message a high priority and two tags. -/
def urgent : Filter :=
  { filing with
    id := .int 3, name := "urgent"
    actions := { filing.actions with
      setPriority := some .high, addTags := ["today", "orders"], archive := false } }

/-- A filter that archives every message with two tags. -/
def booked : Filter :=
  { filing with
    id := .int 4, name := "booked"
    actions := { filing.actions with addTags := ["orders", "booked"] } }

/-- What is asked while both filters are carried out, and the channel is closed. -/
def shelving (first second : Message) : Log := [
  ⟨.saveMessage first, .ok ()⟩, ⟨.available 0, .ok false⟩,
  ⟨.saveMessage second, .ok ()⟩, ⟨.available 0, .ok false⟩]

end Sample

/-- A message that two filters tag gets the tag they share once, and keeps its three tags when both
are dispatched again. -/
theorem dispatch_notes_twice :
    ∃ log log' outcomes outcomes' m' m'',
      Work.Runs (dispatch Sample.desk [Sample.urgent, Sample.booked]) Sample.order log
        (.ok outcomes) m' ∧
      Work.Runs (dispatch Sample.desk [Sample.urgent, Sample.booked]) m' log' (.ok outcomes') m'' ∧
      m'.status = .archived ∧ m'.metadata.priority = .high ∧
      m'.metadata.tags = [.str "today", .str "orders", .str "booked"] ∧
      m''.status = m'.status ∧ m''.metadata = m'.metadata := by
  have unprocessed : Sample.order.status ≠ .processed := by decide
  have some : [Sample.urgent, Sample.booked] ≠ [] := by decide
  obtain ⟨notes, again⟩ := dispatch_notes (c := Sample.desk) unprocessed some
  obtain ⟨first, second, outcomes, m', run, saves⟩ : ∃ first second outcomes m',
      Work.Runs (dispatch Sample.desk [Sample.urgent, Sample.booked]) Sample.order
        (Sample.shelving first second) (.ok outcomes) m' ∧ m'.version = .count 2 :=
    ⟨_, _, _, _, .ask (.ask (.ask (.ask .done))), rfl⟩
  obtain ⟨carried, left, version, split, -, rfl, all⟩ := notes _ _ _ run
  obtain ⟨rfl, -⟩ := all outcomes rfl
  rw [List.append_nil] at split
  subst split
  obtain rfl : version = .count 2 := saves
  obtain ⟨first', second', outcomes', m'', rerun⟩ : ∃ first' second' outcomes' m'',
      Work.Runs (dispatch Sample.desk [Sample.urgent, Sample.booked])
        { Sample.order.noted [Sample.urgent, Sample.booked] with version := .count 2 }
        (Sample.shelving first' second') (.ok outcomes') m'' :=
    ⟨_, _, _, _, .ask (.ask (.ask (.ask .done)))⟩
  obtain ⟨status, metadata⟩ := again _ _ _ _ _ _ _ run rerun
  exact ⟨_, _, _, _, _, _, run, rerun, by decide, by decide, by decide, status, metadata⟩

end Desk

end ChatTriage
