import ChatTriage.Proofs.Matching.Keywords
import ChatTriage.Proofs.Matching.Window
import ChatTriage.Proofs.Message.Document

/-!
# The criteria of a filter

A filter accepts a message when each of its criteria does (`Filter.accepts_iff`), and each criterion
asks only for the members of its list. So filters with the same criteria (`Filter.SameCriteria`)
give the same answers, and a message that a filter accepts is accepted by a filter that eases one of
its criteria (`Filter.Eases`).
-/

namespace ChatTriage

variable {m : Message} {zone : Zone} {text : String} {keywords keywords' : List String}
    {mode : KeywordMode}

/-- Keywords accept as a set. -/
lemma keywordsAccept_congr (same : ∀ k, k ∈ keywords ↔ k ∈ keywords') :
    keywordsAccept text keywords mode = keywordsAccept text keywords' mode := by
  rw [Bool.eq_iff_iff]
  cases mode with
  | any => simp only [keywordsAccept_any, same]
  | all => simp only [keywordsAccept_all, same]

namespace TimeRange

variable {r : TimeRange} {timestamp : Option DateTime} {days : List Int}

/-- A time is accepted by its hours and its day. -/
lemma accepts_iff_exists :
    r.accepts timestamp zone = .ok true ↔ ∃ wall, localWall timestamp zone = .ok wall ∧
    r.hoursAccept wall.clock = .ok true ∧ r.daysAccept wall.weekday = true := by
  simp only [accepts, bind_eq_ok_iff]
  refine exists_congr fun wall => and_congr_right fun _ => ?_
  constructor
  · rintro ⟨between, hours, day⟩
    cases between with
    | false => cases day
    | true => exact ⟨hours, Except.ok.inj day⟩
  · rintro ⟨hours, day⟩
    exact ⟨true, hours, congrArg Except.ok day⟩

/-- A range on the same days gives the same answers. -/
lemma accepts_days_congr (same : ∀ day, day ∈ r.days ↔ day ∈ days) :
    r.accepts timestamp zone = { r with days }.accepts timestamp zone := by
  have day (weekday : Nat) : r.daysAccept weekday = { r with days }.daysAccept weekday := by
    rw [Bool.eq_iff_iff]
    simp only [daysAccept_iff, List.eq_nil_iff_forall_not_mem, same]
  simp only [accepts, day]
  rfl

/-- What a range accepts is accepted on more days, and without days. -/
lemma accepts_days_mono (more : days = [] ∨ r.days ≠ [] ∧ r.days ⊆ days)
    (accepted : r.accepts timestamp zone = .ok true) :
    { r with days }.accepts timestamp zone = .ok true := by
  obtain ⟨wall, shown, hours, day⟩ := accepts_iff_exists.mp accepted
  refine accepts_iff_exists.mpr ⟨wall, shown, hours, daysAccept_iff.mpr ?_⟩
  refine more.imp_right fun ⟨given, within⟩ => ?_
  exact within ((daysAccept_iff.mp day).resolve_left given)

end TimeRange

namespace Filter

variable {f g : Filter}

/-- The sender of a message is among the authors of a filter, if it has any. -/
def senderAccepts (f : Filter) (m : Message) : Bool :=
  f.authors.isEmpty || authorsAccept f.authors m.sender

/-- A sender is accepted if there are no authors, or one of them is the sender. -/
lemma senderAccepts_iff :
    f.senderAccepts m = true ↔ f.authors = [] ∨ ∃ a ∈ f.authors, a.isSender m.sender = true := by
  rw [senderAccepts, Bool.or_eq_true, List.isEmpty_iff, authorsAccept, List.any_eq_true]

/-- A type is accepted if there are none, or it is one of them. -/
lemma typeAccepts_iff :
    f.typeAccepts m = true ↔ f.messageTypes = [] ∨ m.content.type ∈ f.messageTypes := by
  rw [typeAccepts, Bool.or_eq_true, List.isEmpty_iff, List.contains_iff_mem]

/-- A text is accepted if there are no keywords, or they accept it. -/
lemma textAccepts_iff : f.textAccepts m = .ok true ↔ f.keywords = [] ∨ m.text.truthy = true ∧
    ∃ text, m.text.asText "lower" = .ok text ∧
      keywordsAccept text f.keywords f.keywordMode = true := by
  by_cases asks : f.keywords = []
  · simp only [textAccepts_of_no_keywords asks, asks, true_or]
  · rw [or_iff_right asks, textAccepts_of_keywords asks]
    cases m.text.truthy with
    | false => simp
    | true => cases m.text.asText "lower" <;> simp [Except.map]

/-- The criteria are asked one after the other, up to the first that refuses the message. -/
lemma accepts_eq : f.accepts m zone =
    if f.senderAccepts m then do
      if (← f.textAccepts m) && f.typeAccepts m then f.timeAccepts m zone else return false
    else .ok false := by
  have refused : (!f.authors.isEmpty && !authorsAccept f.authors m.sender) = !f.senderAccepts m :=
    (Bool.not_or _ _).symm
  rw [accepts, refused]
  cases f.senderAccepts m with
  | false => rfl
  | true =>
    cases f.textAccepts m with
    | error e => rfl
    | ok found => cases found <;> cases f.typeAccepts m <;> rfl

/-- The answer is that of the first criterion that refuses the message, or else that of the last
one. -/
lemma accepts_eq_ok_iff {answer : Bool} : f.accepts m zone = .ok answer ↔
    f.senderAccepts m = false ∧ answer = false ∨ f.senderAccepts m = true ∧
      (f.textAccepts m = .ok false ∧ answer = false ∨ f.textAccepts m = .ok true ∧
        (f.typeAccepts m = false ∧ answer = false ∨
          f.typeAccepts m = true ∧ f.timeAccepts m zone = .ok answer)) := by
  rw [accepts_eq]
  cases f.senderAccepts m with
  | false => cases answer <;> simp
  | true =>
    cases f.textAccepts m with
    | error e => simp [bind, Except.bind]
    | ok found =>
      cases found <;> cases f.typeAccepts m <;> cases answer <;> simp [bind, Except.bind, pure,
        Except.pure]

/-- A filter accepts a message when each of its criteria does. -/
lemma accepts_iff :
    f.accepts m zone = .ok true ↔ f.senderAccepts m = true ∧ f.textAccepts m = .ok true ∧
    f.typeAccepts m = true ∧ f.timeAccepts m zone = .ok true := by
  simp [accepts_eq_ok_iff]

/-- The hours of two filters are the same, and so are the members of their days. -/
inductive SameTimes : Option TimeRange → Option TimeRange → Prop
  | none : SameTimes none none
  | some {r : TimeRange} {days : List Int} (same : ∀ day, day ∈ r.days ↔ day ∈ days) :
    SameTimes (some r) (some { r with days })

/-- Filters with the same criteria: their lists have the same members, in whatever order and however
often. -/
structure SameCriteria (f g : Filter) : Prop where
  authors : ∀ a, a ∈ f.authors ↔ a ∈ g.authors
  keywords : ∀ k, k ∈ f.keywords ↔ k ∈ g.keywords
  mode : f.keywordMode = g.keywordMode
  types : ∀ c, c ∈ f.messageTypes ↔ c ∈ g.messageTypes
  times : SameTimes f.timeRange g.timeRange

namespace SameCriteria

variable (same : SameCriteria f g)

include same

/-- The sender is accepted alike. -/
lemma senderAccepts_eq : f.senderAccepts m = g.senderAccepts m := by
  rw [Bool.eq_iff_iff]
  simp only [senderAccepts_iff, List.eq_nil_iff_forall_not_mem, same.authors]

/-- The text is accepted alike. -/
lemma textAccepts_eq : f.textAccepts m = g.textAccepts m := by
  have empty : f.keywords = [] ↔ g.keywords = [] := by
    simp only [List.eq_nil_iff_forall_not_mem, same.keywords]
  by_cases asks : f.keywords = []
  · rw [textAccepts_of_no_keywords asks, textAccepts_of_no_keywords (empty.mp asks)]
  · simp only [textAccepts_of_keywords asks, textAccepts_of_keywords (asks ∘ empty.mpr), same.mode,
      keywordsAccept_congr same.keywords]

/-- The type is accepted alike. -/
lemma typeAccepts_eq : f.typeAccepts m = g.typeAccepts m := by
  rw [Bool.eq_iff_iff]
  simp only [typeAccepts_iff, List.eq_nil_iff_forall_not_mem, same.types]

/-- The time is accepted alike. -/
lemma timeAccepts_eq : f.timeAccepts m zone = g.timeAccepts m zone := by
  have times := same.times
  rw [timeAccepts, timeAccepts]
  generalize f.timeRange = range, g.timeRange = range' at times ⊢
  cases times with
  | none => rfl
  | some days => exact TimeRange.accepts_days_congr days

/-- Filters with the same criteria give the same answers. -/
lemma accepts_eq : f.accepts m zone = g.accepts m zone := by
  rw [Filter.accepts_eq, Filter.accepts_eq, same.senderAccepts_eq, same.textAccepts_eq,
    same.typeAccepts_eq, same.timeAccepts_eq]

end SameCriteria

/-- A filter with one criterion eased: a list that has members gets more of them, or fewer where all
of them have to be found; or the criterion is given up. -/
inductive Eases (f : Filter) : Filter → Prop
  | authors {authors : List Author} (given : f.authors ≠ []) (more : f.authors ⊆ authors) :
    Eases f { f with authors }
  | types {messageTypes : List ContentType} (given : f.messageTypes ≠ [])
    (more : f.messageTypes ⊆ messageTypes) :
    Eases f { f with messageTypes }
  | days {r : TimeRange} {days : List Int} (range : f.timeRange = some r) (given : r.days ≠ [])
    (more : r.days ⊆ days) :
    Eases f { f with timeRange := some { r with days } }
  | anyOf {keywords : List String} (mode : f.keywordMode = .any) (given : f.keywords ≠ [])
    (more : f.keywords ⊆ keywords) :
    Eases f { f with keywords }
  | allOf {keywords : List String} (mode : f.keywordMode = .all) (fewer : keywords ⊆ f.keywords) :
    Eases f { f with keywords }
  | noAuthors : Eases f { f with authors := [] }
  | noKeywords : Eases f { f with keywords := [] }
  | noTypes : Eases f { f with messageTypes := [] }
  | noTimes : Eases f { f with timeRange := none }
  | noDays {r : TimeRange} (range : f.timeRange = some r) :
    Eases f { f with timeRange := some { r with days := [] } }

/-- What a filter accepts is accepted by one that eases a criterion of it. -/
lemma Eases.accepts (eases : Eases f g) (accepted : f.accepts m zone = .ok true) :
    g.accepts m zone = .ok true := by
  obtain ⟨sender, text, type, time⟩ := accepts_iff.mp accepted
  rw [accepts_iff]
  cases eases with
  | authors given more =>
    obtain ⟨a, member, sent⟩ := (senderAccepts_iff.mp sender).resolve_left given
    exact ⟨senderAccepts_iff.mpr (.inr ⟨a, more member, sent⟩), text, type, time⟩
  | types given more =>
    have member := (typeAccepts_iff.mp type).resolve_left given
    exact ⟨sender, text, typeAccepts_iff.mpr (.inr (more member)), time⟩
  | days range given more =>
    rw [timeAccepts, range] at time
    exact ⟨sender, text, type, TimeRange.accepts_days_mono (.inr ⟨given, more⟩) time⟩
  | anyOf mode given more =>
    obtain ⟨truthy, words, read, found⟩ := (textAccepts_iff.mp text).resolve_left given
    refine ⟨sender, textAccepts_iff.mpr (.inr ⟨truthy, words, read, ?_⟩), type, time⟩
    rw [mode, keywordsAccept_any] at found
    obtain ⟨keyword, member, finds⟩ := found
    exact (congrArg _ mode).trans (keywordsAccept_any.mpr ⟨keyword, more member, finds⟩)
  | @allOf keywords mode fewer =>
    refine ⟨sender, textAccepts_iff.mpr ?_, type, time⟩
    by_cases none : keywords = []
    · exact .inl none
    · have asks : f.keywords ≠ [] := fun empty => none (List.subset_nil.mp (empty ▸ fewer))
      obtain ⟨truthy, words, read, found⟩ := (textAccepts_iff.mp text).resolve_left asks
      rw [mode, keywordsAccept_all] at found
      exact .inr ⟨truthy, words, read,
        (congrArg _ mode).trans
          (keywordsAccept_all.mpr fun keyword member => found keyword (fewer member))⟩
  | noAuthors => exact ⟨rfl, text, type, time⟩
  | noKeywords => exact ⟨sender, rfl, type, time⟩
  | noTypes => exact ⟨sender, text, rfl, time⟩
  | noTimes => exact ⟨sender, text, type, rfl⟩
  | noDays range =>
    rw [timeAccepts, range] at time
    exact ⟨sender, text, type, TimeRange.accepts_days_mono (.inl rfl) time⟩

/-- A filter that looks for all of more keywords finds them where one that looks for all of fewer
does, or it misses some. -/
lemma textAccepts_of_more {found : Bool} (all : f.keywordMode = .all) (all' : g.keywordMode = .all)
    (given : f.keywords ≠ []) (more : f.keywords ⊆ g.keywords)
    (answered : f.textAccepts m = .ok found) :
    g.textAccepts m = .ok false ∨ g.textAccepts m = .ok found := by
  have given' : g.keywords ≠ [] := fun none => given (List.subset_nil.mp (none ▸ more))
  rw [textAccepts_of_keywords given, all] at answered
  rw [textAccepts_of_keywords given', all']
  cases truthy : m.text.truthy with
  | false => exact .inl rfl
  | true =>
    rw [truthy] at answered
    cases read : m.text.asText "lower" with
    | error e => rw [read] at answered; cases answered
    | ok text =>
      rw [read] at answered
      cases answered
      cases every : keywordsAccept text g.keywords .all with
      | false => exact .inl (congrArg Except.ok every)
      | true =>
        have fewer := keywordsAccept_all.mpr fun keyword member =>
          keywordsAccept_all.mp every keyword (more member)
        exact .inr (congrArg Except.ok (every.trans fewer.symm))

/-- What a filter refuses that looks for all of its keywords, it refuses with more of them. -/
lemma accepts_false_of_more {keywords : List String} (mode : f.keywordMode = .all)
    (given : f.keywords ≠ [])
    (more : f.keywords ⊆ keywords) (refused : f.accepts m zone = .ok false) :
    { f with keywords }.accepts m zone = .ok false := by
  have looks {found : Bool} (answered : f.textAccepts m = .ok found) :
      { f with keywords }.textAccepts m = .ok false ∨ { f with keywords }.textAccepts m =
        .ok found :=
    textAccepts_of_more mode mode given more answered
  rw [accepts_eq_ok_iff] at refused ⊢
  obtain sender | ⟨sender, ⟨missed, -⟩ | ⟨found, later⟩⟩ := refused
  · exact .inl sender
  · exact .inr ⟨sender, .inl ⟨or_self_iff.mp (looks missed), rfl⟩⟩
  · refine .inr ⟨sender, ?_⟩
    obtain missed | found := looks found
    · exact .inl ⟨missed, rfl⟩
    · exact .inr ⟨found, later⟩

/-- The criteria of a filter are sets: filters with the same members in their lists give the same
answers. Easing a criterion does not turn a match into a refusal, and asking for all of more
keywords does not turn a refusal into a match. -/
theorem criteria_behave_as_sets :
    (∀ f g, SameCriteria f g → ∀ m zone, f.accepts m zone = g.accepts m zone) ∧
    (∀ f g, Eases f g → ∀ m zone, f.accepts m zone = .ok true → g.accepts m zone = .ok true) ∧
    ∀ (f : Filter) keywords, f.keywordMode = .all → f.keywords ≠ [] →
      f.keywords ⊆ keywords → ∀ m zone,
      f.accepts m zone = .ok false → { f with keywords }.accepts m zone = .ok false :=
  ⟨fun _ _ same _ _ => same.accepts_eq, fun _ _ eases _ _ => eases.accepts,
    fun _ _ mode given more _ _ => accepts_false_of_more mode given more⟩

open Sample in
/-- One more keyword keeps the match of a filter that looks for any, and the refusal of one that
looks for all; the order of the keywords and a repetition change nothing. A first keyword can turn a
match into a refusal. -/
theorem criteria_behave_as_sets_of_keywords :
    (looking ["sconto", "offerta", "sconto"] .all).accepts (saying "Offerta e SCONTO") .utc =
    .ok true ∧
    (looking ["saldi", "sconto"] .any).accepts (saying "Lo sconto") .utc = .ok true ∧
    (looking ["sconto", "saldi", "offerta"] .all).accepts (saying "Lo sconto") .utc = .ok false ∧
    (looking [] .any).accepts (saying "Buongiorno") .utc = .ok true ∧
    (looking ["sconto"] .any).accepts (saying "Buongiorno") .utc = .ok false := by
  obtain ⟨sets, eased, refused⟩ := criteria_behave_as_sets
  have same : SameCriteria (looking ["sconto", "offerta", "sconto"] .all)
      (looking ["offerta", "sconto"] .all) :=
    ⟨fun a => Iff.rfl, fun k => by simp [looking]; tauto, rfl, fun c => Iff.rfl, .none⟩
  have eases : Eases (looking ["sconto"] .any) (looking ["saldi", "sconto"] .any) :=
    .anyOf rfl (by decide) (by decide)
  refine ⟨?_, eased _ _ eases _ _ (by decide +kernel), ?_, by decide +kernel, by decide +kernel⟩
  · rw [sets _ _ same]
    decide +kernel
  · exact refused (looking ["sconto", "saldi"] .all) _ rfl (by decide) (by decide) _ _
      (by decide +kernel)

end Filter

end ChatTriage
