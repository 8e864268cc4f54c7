import ChatTriage.Proofs.Filter.Document

/-!
# Definitions that break

Reading a definition rejects it when a key is missing or a value is not acceptable. But there are
values on which it breaks instead: one that is not an object, a list that is a number or true, a
number that is null, a list or infinite, and hours, actions, an automatic answer or stats that are
neither empty nor an object. The parts of a definition are read in a fixed order
(`Filter.Part.all`), and the first that cannot be read settles which of the two happens:
`Filter.breaking_ofJson_iff`.
-/

namespace ChatTriage

variable {α β : Type} {x : Except Fault α} {e : Fault} {raw : Json} {fields : List (String × Json)}

/-- A reading fails with a fault that is not of a kind. -/
def Fails (kind : Fault → Bool) (x : Except Fault α) (e : Fault) : Prop :=
  x = .error e ∧ kind e = false

section Fails

variable {kind : Fault → Bool}

/-- A result does not fail. -/
lemma not_fails_ok {a : α} : ¬ Fails kind (.ok a) e :=
  fun fails => nomatch fails.1

/-- A fault fails with itself if it is of the kind. -/
lemma fails_error_iff {e' : Fault} :
    Fails kind (.error e' : Except Fault α) e ↔ e = e' ∧ kind e = false := by
  unfold Fails
  rw [Except.error.injEq, eq_comm]

/-- A sequence fails in its first part, or after that in its second one. -/
lemma fails_bind_iff {f : α → Except Fault β} :
    Fails kind (x >>= f) e ↔ Fails kind x e ∨ ∃ a, x = .ok a ∧ Fails kind (f a) e := by
  cases x with
  | error e' =>
    constructor
    · rintro ⟨same, other⟩
      cases same
      exact .inl ⟨rfl, other⟩
    · rintro (⟨same, other⟩ | ⟨a, impossible, -⟩)
      · cases same
        exact ⟨rfl, other⟩
      · cases impossible
  | ok a =>
    constructor
    · exact fun fails => .inr ⟨a, rfl, fails⟩
    · rintro (impossible | ⟨b, same, fails⟩)
      · exact absurd impossible not_fails_ok
      · cases same
        exact fails

/-- What is made of a result does not fail by itself. -/
lemma fails_bind_pure_iff {f : α → β} :
    Fails kind (x >>= fun a => pure (f a)) e ↔ Fails kind x e := by
  rw [fails_bind_iff]
  refine or_iff_left ?_
  rintro ⟨_, -, impossible⟩
  exact absurd impossible not_fails_ok

/-- What is done to a result does not change how it fails. -/
lemma fails_map_iff {f : α → β} : Fails kind (f <$> x) e ↔ Fails kind x e := by
  rw [map_eq_pure_bind]
  exact fails_bind_pure_iff

/-- A list fails at its first member that cannot be read. -/
lemma fails_mapM_iff {f : α → Except Fault β} {xs : List α} :
    Fails kind (xs.mapM f) e ↔
      ∃ before a after, xs = before ++ a :: after ∧ (∀ b ∈ before, ∃ c, f b = .ok c) ∧
        Fails kind (f a) e := by
  induction xs with
  | nil =>
    constructor
    · exact fun impossible => absurd impossible not_fails_ok
    · rintro ⟨before, a, after, impossible, -⟩
      exact absurd impossible.symm
        (List.append_ne_nil_of_right_ne_nil before (List.cons_ne_nil a after))
  | cons b xs ih =>
    rw [List.mapM_cons, fails_bind_iff]
    constructor
    · rintro (first | ⟨c, read, later⟩)
      · exact ⟨[], b, xs, rfl, fun b none => absurd none List.not_mem_nil, first⟩
      · obtain rest | ⟨cs, -, impossible⟩ := fails_bind_iff.mp later
        · obtain ⟨before, a, after, rfl, reads, fails⟩ := ih.mp rest
          exact ⟨b :: before, a, after, rfl, List.forall_mem_cons.mpr ⟨⟨c, read⟩, reads⟩, fails⟩
        · exact absurd impossible not_fails_ok
    · rintro ⟨before, a, after, split, reads, fails⟩
      cases before with
      | nil =>
        cases split
        exact .inl fails
      | cons b' before =>
        cases split
        obtain ⟨⟨c, read⟩, reads⟩ := List.forall_mem_cons.mp reads
        exact .inr
          ⟨c, read, fails_bind_iff.mpr (.inl (ih.mpr ⟨before, a, after, rfl, reads, fails⟩))⟩

end Fails

/-- A reading fails, and not because it rejects what it reads. -/
abbrev Breaking (x : Except Fault α) (e : Fault) : Prop :=
  Fails Fault.isRejection x e

namespace Json

/-- A value that is neither empty nor an object: it cannot be asked for a part. -/
def Unaskable (raw : Json) : Prop :=
  raw.truthy = true ∧ ∀ fields, raw ≠ .obj fields

/-- Nothing can be asked of a value that is no object. -/
lemma Unaskable.get {name : String} (unaskable : raw.Unaskable) :
    raw.get name = .error (.missingPart raw.kindName "get") := by
  cases raw with
  | obj fields => exact absurd rfl (unaskable.2 fields)
  | _ => rfl

/-- A value that is not empty is an object or cannot be asked. -/
lemma unaskable_or (some : raw.truthy = true) : raw.Unaskable ∨ ∃ fields, raw = .obj fields := by
  by_cases shape : ∃ fields, raw = .obj fields
  · exact .inr shape
  · exact .inl ⟨some, fun fields same => shape ⟨fields, same⟩⟩

/-- An object in place of an empty value. -/
lemma orElse_obj_or (raw : Json) :
    raw.Unaskable ∨ ∃ fields, raw.orElse (.obj []) = .obj fields := by
  cases some : raw.truthy with
  | false => exact .inr ⟨[], if_neg (by simp [some])⟩
  | true =>
    obtain unaskable | ⟨fields, rfl⟩ := unaskable_or some
    · exact .inl unaskable
    · exact .inr ⟨fields, if_pos some⟩

/-- Such a value is not replaced by another. -/
lemma Unaskable.orElse {other : Json} (unaskable : raw.Unaskable) : raw.orElse other = raw :=
  if_pos unaskable.1

/-- An object with such a part has fields. -/
lemma Unaskable.ne_nil {name : String} (unaskable : (part fields name).Unaskable) :
    fields ≠ [] := by
  rintro rfl
  cases unaskable.1

/-- An object with fields is not replaced by another. -/
lemma obj_orElse {other : Json} (some : fields ≠ []) :
    (Json.obj fields).orElse other = .obj fields :=
  if_pos (by simpa [truthy] using some)

/-- An object with fields that a default stood by for was there itself. -/
lemma eq_of_orElse (asked : raw.orElse (.obj []) = .obj fields) (some : fields ≠ []) :
    raw = .obj fields := by
  unfold orElse at asked
  split at asked
  · exact asked
  · cases asked
    exact absurd rfl some

/-- An object that counts as false has no fields. -/
lemma eq_nil_of_falsy (empty : (Json.obj fields).truthy = false) : fields = [] := by
  simpa [truthy] using empty

/-- A value that is not empty and has no elements: true, or a number. -/
def Unlisted (raw : Json) : Prop :=
  raw.truthy = true ∧ raw.elements = .error (.wrongKind (.notIterable raw.kindName))

/-- A value of which no whole number can be made, and which is not merely rejected as one. -/
inductive Uncountable : Json → Fault → Prop where
  | infinite {x : Double} :
    x.isInfinite = true →
    Uncountable (.float x) (.range .infiniteInteger)
  | kind {raw : Json} :
    raw = .null ∨ (∃ items, raw = .arr items) ∨ (∃ fields, raw = .obj fields) →
    Uncountable raw (.wrongKind (.notNumeric raw.kindName))

/-- Nothing can be asked of such a value, with a default either. -/
lemma Unaskable.getOr {name : String} {other : Json} (unaskable : raw.Unaskable) :
    raw.getOr name other = .error (.missingPart raw.kindName "get") := by
  cases raw with
  | obj fields => exact absurd rfl (unaskable.2 fields)
  | _ => rfl

/-- What is not an object has no fields. -/
lemma field_of_shape (name : String) (shape : ∀ fields, raw ≠ .obj fields) :
    ∃ cause, raw.field name = .error (.wrongKind cause) := by
  cases raw with
  | obj fields => exact absurd rfl (shape fields)
  | _ => exact ⟨_, rfl⟩

/-- Elements break when the value is neither empty nor a list. -/
lemma breaking_elementsOrNone_iff :
    Breaking raw.elementsOrNone e ↔ raw.Unlisted ∧ e = .wrongKind (.notIterable raw.kindName) := by
  unfold elementsOrNone Unlisted
  cases some : raw.truthy with
  | false =>
    simp only [Bool.false_eq_true, if_false, false_and, iff_false]
    exact not_fails_ok
  | true =>
    simp only [if_true, true_and]
    constructor
    · rintro ⟨failed, -⟩
      cases raw <;> cases failed <;> exact ⟨rfl, rfl⟩
    · rintro ⟨failed, rfl⟩
      exact ⟨failed, rfl⟩

/-- A whole number breaks when the value cannot be counted. -/
lemma breaking_toInt_iff : Breaking raw.toInt e ↔ raw.Uncountable e := by
  constructor
  · rintro ⟨failed, breaks⟩
    cases raw with
    | null =>
      cases failed
      exact .kind (.inl rfl)
    | bool b => cases failed
    | int n => cases failed
    | float x =>
      unfold toInt at failed
      simp only at failed
      split at failed
      · cases failed
        cases breaks
      · split at failed
        · rename_i infinite
          cases failed
          exact .infinite infinite
        · cases failed
    | str s =>
      unfold toInt at failed
      simp only at failed
      split at failed
      · cases failed
      · cases failed
        cases breaks
    | arr items =>
      cases failed
      exact .kind (.inr (.inl ⟨items, rfl⟩))
    | obj fields =>
      cases failed
      exact .kind (.inr (.inr ⟨fields, rfl⟩))
  · intro uncountable
    cases uncountable with
    | infinite infinite =>
      rename_i x
      have number : x.isNaN = false := by
        unfold Double.isInfinite at infinite
        unfold Double.isNaN
        simp_all
      refine ⟨?_, rfl⟩
      simp [toInt, number, infinite]
    | kind kind => obtain rfl | ⟨items, rfl⟩ | ⟨fields, rfl⟩ := kind <;> exact ⟨rfl, rfl⟩

end Json

/-- A reading that only rejects does not break. -/
lemma not_breaking_of_isRejection (rejects : ∀ {e}, x = .error e → e.isRejection = true) :
    ¬ Breaking x e := by
  rintro ⟨failed, breaks⟩
  rw [rejects failed] at breaks
  cases breaks

/-- A result does not break. -/
lemma not_breaking_pure {a : α} : ¬ Breaking (pure a) e :=
  not_fails_ok

/-- Neither does a choice of results. -/
lemma not_breaking_ite {p : Prop} [Decidable p] {a b : α} :
    ¬ Breaking (if p then (pure a : Except Fault α) else pure b) e := by
  split <;> exact not_fails_ok

/-- A date that cannot be read is rejected. -/
lemma DateTime.isRejection_of_ofJson (failed : DateTime.ofJson raw = .error e) :
    e.isRejection = true := by
  unfold ofJson at failed
  split at failed
  · cases failed
  · simp only at failed
    split at failed
    · cases failed
    · cases failed
      rfl

/-- So is an unknown mode. -/
lemma KeywordMode.isRejection_of_ofJson (failed : KeywordMode.ofJson raw = .error e) :
    e.isRejection = true := by
  unfold ofJson at failed
  split at failed
  · cases failed
  · simp only at failed
    split at failed
    · cases failed
    · split at failed
      · cases failed
      · cases failed
        rfl

/-- So is an unknown type. -/
lemma ContentType.isRejection_of_ofJson (failed : ContentType.ofJson raw = .error e) :
    e.isRejection = true := by
  unfold ofJson at failed
  split at failed
  · cases failed
  · cases failed
    rfl

/-- So is an unknown priority. -/
lemma Priority.isRejection_of_ofJson (failed : Priority.ofJson raw = .error e) :
    e.isRejection = true := by
  unfold ofJson at failed
  split at failed
  · cases failed
  · cases failed
    rfl

/-- Reading a date does not break. -/
lemma DateTime.not_breaking_ofJson : ¬ Breaking (DateTime.ofJson raw) e :=
  not_breaking_of_isRejection DateTime.isRejection_of_ofJson

/-- Reading a mode does not break. -/
lemma KeywordMode.not_breaking_ofJson : ¬ Breaking (KeywordMode.ofJson raw) e :=
  not_breaking_of_isRejection KeywordMode.isRejection_of_ofJson

/-- Reading a type does not break. -/
lemma ContentType.not_breaking_ofJson : ¬ Breaking (ContentType.ofJson raw) e :=
  not_breaking_of_isRejection ContentType.isRejection_of_ofJson

/-- Reading a priority does not break. -/
lemma Priority.not_breaking_ofJson : ¬ Breaking (Priority.ofJson raw) e :=
  not_breaking_of_isRejection Priority.isRejection_of_ofJson

namespace TimeRange

/-- Hours that cannot be asked, whose days are no list, or in which the first day that cannot be
counted is not merely rejected. -/
inductive Breaks : Json → Fault → Prop where
  | shape {raw : Json} :
    raw.Unaskable →
    Breaks raw (.missingPart raw.kindName "get")
  | days {fields : List (String × Json)} :
    (Json.part fields "days").Unlisted →
    Breaks (.obj fields) (.wrongKind (.notIterable (Json.part fields "days").kindName))
  | day {fields before day after} {fault : Fault} :
    (Json.part fields "days").elementsOrNone = .ok (before ++ day :: after) →
    (∀ y ∈ before, ∃ n, y.toInt = .ok n) →
    day.Uncountable fault →
    Breaks (.obj fields) fault

/-- Reading hours breaks exactly as `TimeRange.Breaks` lists. -/
lemma breaking_ofJson_iff : Breaking (TimeRange.ofJson raw) e ↔ TimeRange.Breaks raw e := by
  unfold TimeRange.ofJson
  cases filled : raw.truthy with
  | false =>
    refine iff_of_false not_fails_ok fun breaks => ?_
    cases breaks with
    | shape unaskable => exact absurd (filled.symm.trans unaskable.1) Bool.false_ne_true
    | days unlisted =>
      rw [Json.eq_nil_of_falsy filled] at unlisted
      cases unlisted.1
    | day listed =>
      rw [Json.eq_nil_of_falsy filled] at listed
      exact absurd (Except.ok.inj listed).symm
        (List.append_ne_nil_of_right_ne_nil _ (List.cons_ne_nil _ _))
  | true =>
    simp only [Bool.not_true, Bool.false_eq_true, if_false, fails_bind_iff,
      not_breaking_ite, and_false, exists_false, or_false]
    obtain unaskable | ⟨fields, rfl⟩ := Json.unaskable_or filled
    · simp only [unaskable.get, fails_error_iff, reduceCtorEq, false_and, exists_false, or_false]
      constructor
      · rintro ⟨rfl, -⟩
        exact .shape unaskable
      · intro breaks
        cases breaks with
        | shape => exact ⟨rfl, rfl⟩
        | days => exact absurd rfl (unaskable.2 _)
        | day => exact absurd rfl (unaskable.2 _)
    · simp only [Json.get_obj, not_fails_ok, false_or, Except.ok.injEq, exists_eq_left',
        fails_mapM_iff, Json.breaking_elementsOrNone_iff, Json.breaking_toInt_iff]
      constructor
      · rintro (⟨unlisted, rfl⟩ | ⟨_, listed, before, day, after, rfl, reads, uncountable⟩)
        · exact .days unlisted
        · exact .day listed reads uncountable
      · intro breaks
        cases breaks with
        | shape unaskable => exact absurd rfl (unaskable.2 fields)
        | days unlisted => exact .inl ⟨unlisted, rfl⟩
        | day listed reads uncountable => exact .inr ⟨_, listed, _, _, _, rfl, reads, uncountable⟩

end TimeRange

namespace FilterActions

/-- The priority of actions is missing or can be read. -/
def Ranked (fields : List (String × Json)) : Prop :=
  (Json.part fields "setPriority").truthy = true →
    ∃ p, Priority.ofJson (Json.part fields "setPriority") = .ok p

/-- The priority of actions, if they have one. -/
def rank (fields : List (String × Json)) : Except Fault (Option Priority) :=
  if (Json.part fields "setPriority").truthy then some <$> Priority.ofJson
    (Json.part fields "setPriority")
  else pure none

/-- Actions that cannot be asked, or the first part of which that cannot be read is no list, or is
an automatic answer that cannot be asked. -/
inductive Breaks (raw : Json) : Fault → Prop where
  | shape :
    raw.Unaskable →
    Breaks raw (.missingPart raw.kindName "get")
  | tags {fields : List (String × Json)} :
    raw.orElse (.obj []) = .obj fields →
    Ranked fields →
    (Json.part fields "addTags").Unlisted →
    Breaks raw (.wrongKind (.notIterable (Json.part fields "addTags").kindName))
  | reply {fields tags} :
    raw.orElse (.obj []) = .obj fields →
    Ranked fields →
    (Json.part fields "addTags").elementsOrNone = .ok tags →
    (Json.part fields "autoReply").Unaskable →
    Breaks raw (.missingPart (Json.part fields "autoReply").kindName "get")
  | destinations {fields tags reply} :
    raw.orElse (.obj []) = .obj fields →
    Ranked fields →
    (Json.part fields "addTags").elementsOrNone = .ok tags →
    (Json.part fields "autoReply").orElse (.obj []) = .obj reply →
    (Json.part fields "forwardTo").Unlisted →
    Breaks raw (.wrongKind (.notIterable (Json.part fields "forwardTo").kindName))

/-- A priority is ranked when it can be read. -/
lemma ranked_iff : Ranked fields ↔ ∃ priority, rank fields = .ok priority := by
  unfold Ranked rank
  cases some : (Json.part fields "setPriority").truthy with
  | false => exact iff_of_true (fun given => nomatch given) ⟨none, rfl⟩
  | true =>
    simp only [forall_const, if_true]
    cases Priority.ofJson (Json.part fields "setPriority") with
    | error e => exact iff_of_false (fun ⟨_, read⟩ => nomatch read) fun ⟨_, read⟩ => nomatch read
    | ok p => exact iff_of_true ⟨p, rfl⟩ ⟨p, rfl⟩

/-- Reading a priority that may be left out does not break. -/
lemma not_breaking_rank : ¬ Breaking (rank fields) e := by
  unfold rank
  split
  · rw [Breaking, fails_map_iff]
    exact Priority.not_breaking_ofJson
  · exact not_fails_ok

/-- The order in which the parts of actions are read. -/
lemma ofJson_eq (asked : raw.orElse (.obj []) = .obj fields) : FilterActions.ofJson raw = (do
    let setPriority ← rank fields
    let tags ← (Json.part fields "addTags").elementsOrNone
    let enabled ← ((Json.part fields "autoReply").orElse (.obj [])).get "enabled"
    let message ← ((Json.part fields "autoReply").orElse (.obj [])).get "message"
    let destinations ← (Json.part fields "forwardTo").elementsOrNone
    return {
      markImportant := (Json.part fields "markAsImportant").truthy, setPriority
      addTags := Phone.distinct (tags.map Json.shown),
        autoReply := ⟨enabled.truthy, shownOrBlank message⟩
      forwardTo := destinations.map Json.shown,
        archive := (Json.part fields "archive").truthy }) := by
  unfold FilterActions.ofJson rank
  rw [asked]
  simp only [Json.get_obj, ok_bind]
  split <;> rfl

/-- Reading actions breaks exactly as `FilterActions.Breaks` lists. -/
lemma breaking_ofJson_iff : Breaking (FilterActions.ofJson raw) e ↔ FilterActions.Breaks raw e := by
  obtain unaskable | ⟨fields, asked⟩ := raw.orElse_obj_or
  · have failed : FilterActions.ofJson raw = .error (.missingPart raw.kindName "get") := by
      unfold FilterActions.ofJson
      simp only [unaskable.orElse, unaskable.get]
      rfl
    have unlike {fields : List (String × Json)} : raw.orElse (.obj []) ≠ .obj fields := by
      rw [unaskable.orElse]
      exact unaskable.2 fields
    rw [failed, Breaking, fails_error_iff]
    constructor
    · rintro ⟨rfl, -⟩
      exact .shape unaskable
    · intro breaks
      cases breaks with
      | shape => exact ⟨rfl, rfl⟩
      | tags asked | reply asked | destinations asked => exact absurd asked unlike
  · simp only [ofJson_eq asked, fails_bind_iff, not_breaking_rank, false_or,
      Json.breaking_elementsOrNone_iff]
    obtain unaskable | ⟨reply, answers⟩ := (Json.part fields "autoReply").orElse_obj_or
    · simp only [unaskable.orElse, unaskable.get, fails_error_iff, reduceCtorEq, false_and,
        exists_false, or_false, exists_and_right, ← ranked_iff]
      constructor
      · rintro ⟨ranked, ⟨unlisted, rfl⟩ | ⟨⟨tags, listed⟩, rfl, -⟩⟩
        · exact .tags asked ranked unlisted
        · exact .reply asked ranked listed unaskable
      · intro breaks
        cases breaks with
        | shape shape => exact absurd (shape.orElse.symm.trans asked) (shape.2 fields)
        | tags found ranked unlisted =>
          cases asked.symm.trans found
          exact ⟨ranked, .inl ⟨unlisted, rfl⟩⟩
        | reply found ranked listed =>
          cases asked.symm.trans found
          exact ⟨ranked, .inr ⟨⟨_, listed⟩, rfl, rfl⟩⟩
        | destinations found _ _ answers =>
          cases asked.symm.trans found
          exact absurd (unaskable.orElse.symm.trans answers) (unaskable.2 _)
    · simp only [answers, Json.get_obj, not_fails_ok, false_or, Except.ok.injEq, exists_eq_left',
        not_breaking_pure, and_false, exists_false, or_false, exists_and_right, ← ranked_iff]
      constructor
      · rintro ⟨ranked, ⟨unlisted, rfl⟩ | ⟨⟨tags, listed⟩, unlisted, rfl⟩⟩
        · exact .tags asked ranked unlisted
        · exact .destinations asked ranked listed answers unlisted
      · intro breaks
        cases breaks with
        | shape shape => exact absurd (shape.orElse.symm.trans asked) (shape.2 fields)
        | tags found ranked unlisted =>
          cases asked.symm.trans found
          exact ⟨ranked, .inl ⟨unlisted, rfl⟩⟩
        | reply found _ _ unaskable =>
          cases asked.symm.trans found
          exact absurd (unaskable.orElse.symm.trans answers) (unaskable.2 _)
        | destinations found ranked listed _ unlisted =>
          cases asked.symm.trans found
          exact ⟨ranked, .inr ⟨⟨_, listed⟩, unlisted, rfl⟩⟩

end FilterActions

namespace Filter

/-- The parts of a definition on which its reading can fail. -/
inductive Part where
  | name
  | authors
  | keywords
  | mode
  | types
  | hours
  | actions
  | stats
  deriving DecidableEq, Repr

namespace Part

/-- The parts, in the order in which they are read. -/
def all : List Part := [.name, .authors, .keywords, .mode, .types, .hours, .actions, .stats]

/-- The key of a part that has to be a list. -/
def list? : Part → Option String
  | .authors => some "authors"
  | .keywords => some "keywords"
  | .types => some "messageTypes"
  | _ => none

/-- Whether a part can be read. -/
def read (fields : List (String × Json)) : Part → Except Fault Unit
  | .name => do
    let name ← (Json.obj fields).field "name"
    if (Text.trim name.shown).isEmpty then throw (.value .emptyFilterName) else pure ()
  | .authors => do
    let _ ← (Json.part fields "authors").elementsOrNone
  | .keywords => do
    let _ ← (Json.part fields "keywords").elementsOrNone
  | .mode => do
    let _ ← KeywordMode.ofJson (Json.part fields "keywordMatchMode")
  | .types => do
    let types ← (Json.part fields "messageTypes").elementsOrNone
    let _ ← types.mapM ContentType.ofJson
  | .hours => do
    let _ ← TimeRange.ofJson (Json.part fields "timeRange")
  | .actions => do
    let _ ← FilterActions.ofJson (Json.part fields "actions")
  | .stats => do
    let stats := (Json.part fields "stats").orElse (.obj [])
    let _ ← (← stats.getOr "matches" (.int 0)).toInt
    let _ ← DateTime.ofJson (← stats.get "lastMatch")

/-- A part is read no further than to a value that breaks its reading. -/
inductive Breaks (fields : List (String × Json)) : Part → Fault → Prop where
  | list {p key} :
    p.list? = some key →
    (Json.part fields key).Unlisted →
    Breaks fields p (.wrongKind (.notIterable (Json.part fields key).kindName))
  | hours {fault} :
    TimeRange.Breaks (Json.part fields "timeRange") fault →
    Breaks fields .hours fault
  | actions {fault} :
    FilterActions.Breaks (Json.part fields "actions") fault →
    Breaks fields .actions fault
  | stats :
    (Json.part fields "stats").Unaskable →
    Breaks fields .stats (.missingPart (Json.part fields "stats").kindName "get")
  | count {stats fault} :
    (Json.part fields "stats").orElse (.obj []) = .obj stats →
    ((Json.find? stats "matches").getD (.int 0)).Uncountable fault →
    Breaks fields .stats fault

/-- A name that cannot be read is rejected. -/
lemma isRejection_of_name (failed : Part.name.read fields = .error e) : e.isRejection = true := by
  unfold read Json.field at failed
  cases found : Json.find? fields "name" with
  | none =>
    simp only [found] at failed
    cases failed
    rfl
  | some name =>
    simp only [found, ok_bind] at failed
    split at failed
    · cases failed
      rfl
    · cases failed

/-- A part that has to be a list breaks when it is something else. -/
lemma breaks_list_iff {p : Part} {key : String} (list : p.list? = some key) :
    p.Breaks fields e ↔
      (Json.part fields key).Unlisted ∧
        e = .wrongKind (.notIterable (Json.part fields key).kindName) := by
  constructor
  · intro breaks
    cases breaks with
    | list found unlisted =>
      cases list.symm.trans found
      exact ⟨unlisted, rfl⟩
    | hours | actions | stats | count => cases list
  · rintro ⟨unlisted, rfl⟩
    exact .list list unlisted

/-- Reading stats breaks exactly as listed. -/
lemma breaking_stats_iff : Breaking (Part.stats.read fields) e ↔ Part.stats.Breaks fields e := by
  simp only [read, fails_bind_iff, DateTime.not_breaking_ofJson, not_breaking_pure, and_false,
    exists_false, or_false]
  obtain unaskable | ⟨stats, answers⟩ := (Json.part fields "stats").orElse_obj_or
  · simp only [unaskable.orElse, unaskable.getOr, fails_error_iff, reduceCtorEq, false_and,
      exists_false, or_false]
    constructor
    · rintro ⟨rfl, -⟩
      exact .stats unaskable
    · intro breaks
      cases breaks with
      | list key => cases key
      | stats => exact ⟨rfl, rfl⟩
      | count answers => exact absurd (unaskable.orElse.symm.trans answers) (unaskable.2 _)
  · have counter : (Json.obj stats).getOr "matches" (.int 0) =
        .ok ((Json.find? stats "matches").getD (.int 0)) := rfl
    simp only [answers, counter, Json.get_obj, not_fails_ok, false_or, Except.ok.injEq,
      exists_eq_left', and_false, exists_false, or_false, Json.breaking_toInt_iff]
    constructor
    · exact .count answers
    · intro breaks
      cases breaks with
      | list key => cases key
      | stats unaskable => exact absurd (unaskable.orElse.symm.trans answers) (unaskable.2 stats)
      | count found uncountable =>
        cases answers.symm.trans found
        exact uncountable

/-- So does reading any part. -/
lemma breaking_read_iff {p : Part} : Breaking (p.read fields) e ↔ p.Breaks fields e := by
  cases p with
  | name =>
    refine iff_of_false (not_breaking_of_isRejection isRejection_of_name) fun breaks => ?_
    cases breaks with
    | list key => cases key
  | authors =>
    exact fails_bind_pure_iff.trans
      (Json.breaking_elementsOrNone_iff.trans (breaks_list_iff rfl).symm)
  | keywords =>
    exact fails_bind_pure_iff.trans
      (Json.breaking_elementsOrNone_iff.trans (breaks_list_iff rfl).symm)
  | mode =>
    refine iff_of_false (fun breaks => ?_) fun breaks => ?_
    · exact KeywordMode.not_breaking_ofJson (fails_bind_pure_iff.mp breaks)
    · cases breaks with
      | list key => cases key
  | types =>
    rw [breaks_list_iff rfl, ← Json.breaking_elementsOrNone_iff]
    refine fails_bind_iff.trans (or_iff_left ?_)
    -- a list may hold what is no type, but then it is rejected
    rintro ⟨types, -, breaks⟩
    obtain ⟨-, type, -, -, -, breaks⟩ := fails_mapM_iff.mp (fails_bind_pure_iff.mp breaks)
    exact ContentType.not_breaking_ofJson breaks
  | hours =>
    refine fails_bind_pure_iff.trans
      (TimeRange.breaking_ofJson_iff.trans ⟨.hours, fun breaks => ?_⟩)
    cases breaks with
    | list key => cases key
    | hours breaks => exact breaks
  | actions =>
    refine fails_bind_pure_iff.trans
      (FilterActions.breaking_ofJson_iff.trans ⟨.actions, fun breaks => ?_⟩)
    cases breaks with
    | list key => cases key
    | actions breaks => exact breaks
  | stats => exact breaking_stats_iff

end Part

/-- A definition that is not an object, or whose parts can be read up to one that breaks. -/
inductive Breaks : Json → Fault → Prop where
  | shape {raw : Json} {fault : Fault} :
    (∀ fields, raw ≠ .obj fields) →
    raw.field "name" = .error fault →
    Breaks raw fault
  | part {fields before p after} {fault : Fault} :
    Part.all = before ++ p :: after →
    (∀ q ∈ before, q.read fields = .ok ()) →
    p.Breaks fields fault →
    Breaks (.obj fields) fault

/-- A definition can be read when each of its parts can. -/
lemma ofJson_parts :
    (do let _ ← Filter.ofJson (.obj fields)) = (do let _ ← Part.all.mapM (Part.read fields)) := by
  unfold Filter.ofJson Part.all
  simp only [List.mapM_cons, List.mapM_nil, Part.read, bind_assoc, pure_bind, Json.get_obj, ok_bind]
  refine congrArg (Except.bind ((Json.obj fields).field "name")) (funext fun name => ?_)
  split
  · rfl
  · simp only [bind_assoc, pure_bind]
    rfl

/-- Reading a definition breaks exactly as `Filter.Breaks` lists. -/
lemma breaking_ofJson_iff : Breaking (Filter.ofJson raw) e ↔ Filter.Breaks raw e := by
  by_cases shape : ∃ fields, raw = .obj fields
  · obtain ⟨fields, rfl⟩ := shape
    have alike : Breaking (Filter.ofJson (.obj fields)) e ↔
        Breaking (Part.all.mapM (Part.read fields)) e := by
      have parts := congrArg (Breaking · e) (@ofJson_parts fields)
      simpa only [Breaking, fails_bind_iff, not_breaking_pure, and_false, exists_false,
        or_false, eq_iff_iff]
        using parts
    rw [alike, Breaking, fails_mapM_iff]
    constructor
    · rintro ⟨before, p, after, order, reads, breaks⟩
      refine .part order (fun q member => ?_) (Part.breaking_read_iff.mp breaks)
      obtain ⟨⟨⟩, read⟩ := reads q member
      exact read
    · intro breaks
      cases breaks with
      | shape shape => exact absurd rfl (shape fields)
      | part order reads breaks =>
        exact ⟨_, _, _, order, fun q member => ⟨(), reads q member⟩,
          Part.breaking_read_iff.mpr breaks⟩
  · replace shape : ∀ fields, raw ≠ .obj fields := fun fields same => shape ⟨fields, same⟩
    obtain ⟨cause, missed⟩ := Json.field_of_shape "name" shape
    have failed : Filter.ofJson raw = .error (.wrongKind cause) := by
      unfold Filter.ofJson
      rw [missed]
      rfl
    rw [failed, Breaking, fails_error_iff]
    constructor
    · rintro ⟨rfl, -⟩
      exact .shape shape missed
    · intro breaks
      cases breaks with
      | shape _ failed =>
        cases missed.symm.trans failed
        exact ⟨rfl, rfl⟩
      | part => exact absurd rfl (shape _)

end Filter

end ChatTriage
