import ChatTriage.Proofs.Filter.Breaks

/-!
# Definitions that block

Reading a definition fails with a fault that tells it malformed, or with one that escapes this
judgement (`Escapes`). The latter happens in few of the places where a reading breaks: where hours,
actions or an automatic answer are neither empty nor an object, and where a day of the week is an
infinite number (`TimeRange.Blocks`, `FilterActions.Blocks`).
-/

namespace ChatTriage

variable {α β : Type} {x : Except Fault α} {e : Fault} {raw : Json} {fields : List (String × Json)}

/-- A reading fails, and not because it found the definition malformed. -/
def Escapes (x : Except Fault α) (e : Fault) : Prop :=
  x = .error e ∧ e.isMalformed = false

/-- A result does not escape. -/
lemma not_escapes_ok {a : α} : ¬ Escapes (.ok a) e :=
  not_fails_ok

/-- A fault escapes unless it is that of a malformed definition. -/
lemma escapes_error_iff {e' : Fault} :
    Escapes (.error e' : Except Fault α) e ↔ e = e' ∧ e.isMalformed = false :=
  fails_error_iff

/-- A result does not escape. -/
lemma not_escapes_pure {a : α} : ¬ Escapes (pure a) e :=
  not_escapes_ok

/-- Two steps escape when the first does, or the second after it. -/
lemma escapes_bind_iff {f : α → Except Fault β} :
    Escapes (x >>= f) e ↔ Escapes x e ∨ ∃ a, x = .ok a ∧ Escapes (f a) e :=
  fails_bind_iff

/-- A list escapes at the first of its members that does. -/
lemma escapes_mapM_iff {f : α → Except Fault β} {xs : List α} :
    Escapes (xs.mapM f) e ↔
      ∃ before a after, xs = before ++ a :: after ∧ (∀ b ∈ before, ∃ c, f b = .ok c) ∧
        Escapes (f a) e :=
  fails_mapM_iff

/-- What is rejected is malformed, so a reading that escapes breaks. -/
lemma escapes_iff_breaking : Escapes x e ↔ Breaking x e ∧ e.isMalformed = false := by
  constructor
  · rintro ⟨failed, escapes⟩
    refine ⟨⟨failed, ?_⟩, escapes⟩
    by_contra rejected
    rw [Fault.isMalformed_of_isRejection (Bool.eq_true_of_not_eq_false rejected)] at escapes
    cases escapes
  · rintro ⟨⟨failed, -⟩, escapes⟩
    exact ⟨failed, escapes⟩

/-- What does not break does not escape. -/
lemma not_escapes_of_not_breaking (sound : ¬ Breaking x e) : ¬ Escapes x e :=
  fun escapes => sound (escapes_iff_breaking.mp escapes).1

namespace Json

/-- Elements do not escape. -/
lemma not_escapes_elementsOrNone : ¬ Escapes raw.elementsOrNone e := by
  rw [escapes_iff_breaking, breaking_elementsOrNone_iff]
  rintro ⟨⟨-, rfl⟩, escapes⟩
  cases escapes

/-- Of all values only infinite numbers are neither whole numbers nor malformed ones. -/
lemma escapes_toInt_iff :
    Escapes raw.toInt e ↔ ∃ x : Double, raw = .float x ∧ x.isInfinite = true ∧
      e = .range .infiniteInteger := by
  rw [escapes_iff_breaking, breaking_toInt_iff]
  constructor
  · rintro ⟨uncountable, escapes⟩
    cases uncountable with
    | infinite infinite => exact ⟨_, rfl, infinite, rfl⟩
    | kind => cases escapes
  · rintro ⟨x, rfl, infinite, rfl⟩
    exact ⟨.infinite infinite, rfl⟩

end Json

/-- Dates do not escape. -/
lemma DateTime.not_escapes_ofJson : ¬ Escapes (DateTime.ofJson raw) e :=
  not_escapes_of_not_breaking DateTime.not_breaking_ofJson

/-- Modes do not escape. -/
lemma KeywordMode.not_escapes_ofJson : ¬ Escapes (KeywordMode.ofJson raw) e :=
  not_escapes_of_not_breaking KeywordMode.not_breaking_ofJson

/-- Types do not escape. -/
lemma ContentType.not_escapes_ofJson : ¬ Escapes (ContentType.ofJson raw) e :=
  not_escapes_of_not_breaking ContentType.not_breaking_ofJson

namespace TimeRange

/-- Hours that cannot be asked, or in which the first day that is no whole number is infinite. -/
inductive Blocks : Json → Fault → Prop where
  | shape {raw : Json} :
    raw.Unaskable →
    Blocks raw (.missingPart raw.kindName "get")
  | day {fields before after} {x : Double} :
    (Json.part fields "days").elementsOrNone = .ok (before ++ .float x :: after) →
    (∀ y ∈ before, ∃ n, y.toInt = .ok n) →
    x.isInfinite = true →
    Blocks (.obj fields) (.range .infiniteInteger)

/-- What hours block with is no fault of a store. -/
lemma Blocks.foreign (blocks : TimeRange.Blocks raw e) : e.isStore = false := by
  cases blocks <;> rfl

/-- Hours escape exactly when they block. -/
lemma escapes_ofJson_iff : Escapes (TimeRange.ofJson raw) e ↔ Blocks raw e := by
  rw [escapes_iff_breaking, breaking_ofJson_iff]
  constructor
  · rintro ⟨breaks, escapes⟩
    cases breaks with
    | shape unaskable => exact .shape unaskable
    | days => cases escapes
    | day listed reads uncountable =>
      cases uncountable with
      | infinite infinite => exact .day listed reads infinite
      | kind => cases escapes
  · intro blocks
    cases blocks with
    | shape unaskable => exact ⟨.shape unaskable, rfl⟩
    | day listed reads infinite => exact ⟨.day listed reads (.infinite infinite), rfl⟩

end TimeRange

namespace FilterActions

/-- Actions that cannot be asked, or whose automatic answer cannot, the priority and the tags before
it being readable. -/
inductive Blocks : Json → Fault → Prop where
  | shape {raw : Json} :
    raw.Unaskable →
    Blocks raw (.missingPart raw.kindName "get")
  | reply {fields tags} :
    Ranked fields →
    (Json.part fields "addTags").elementsOrNone = .ok tags →
    (Json.part fields "autoReply").Unaskable →
    Blocks (.obj fields) (.missingPart (Json.part fields "autoReply").kindName "get")

/-- What actions block with is no fault of a store. -/
lemma Blocks.foreign (blocks : FilterActions.Blocks raw e) : e.isStore = false := by
  cases blocks <;> rfl

/-- Actions escape exactly when they block. -/
lemma escapes_ofJson_iff : Escapes (FilterActions.ofJson raw) e ↔ Blocks raw e := by
  rw [escapes_iff_breaking, breaking_ofJson_iff]
  constructor
  · rintro ⟨breaks, escapes⟩
    cases breaks with
    | shape unaskable => exact .shape unaskable
    | tags => cases escapes
    | reply asked ranked listed unaskable =>
      obtain rfl := Json.eq_of_orElse asked unaskable.ne_nil
      exact .reply ranked listed unaskable
    | destinations => cases escapes
  · intro blocks
    cases blocks with
    | shape unaskable => exact ⟨.shape unaskable, rfl⟩
    | reply ranked listed unaskable =>
      exact ⟨.reply (Json.obj_orElse unaskable.ne_nil) ranked listed unaskable, rfl⟩

end FilterActions

end ChatTriage
