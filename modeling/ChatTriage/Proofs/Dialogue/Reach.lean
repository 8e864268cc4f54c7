import ChatTriage.Proofs.Dialogue.Run

/-!
# Programs that pause

A program that was answered for a while leaves a rest, which is a program again and can be gone on
with later. A program is `Phased` when it asks for one kind of thing first and, once it has asked
for anything else, for another kind to its end; what is left of it when it pauses at such a request
is bounded by the second kind.
-/

namespace ChatTriage.Dialogue

variable {S : Service} {α β : Type}

/-- A program that is answered as in a log leaves a rest. -/
inductive Reaches : Dialogue S α → List (Exchange S) → Dialogue S α → Prop where
  | here {d} :
    Reaches d [] d
  | ask {q next x log rest} :
    Reaches (next x) log rest →
    Reaches (.ask q next) (⟨q, x⟩ :: log) rest

/-- A program asks for things of one kind, and then for things of another kind only. -/
inductive Phased (P P' : S.Request → Prop) : Dialogue S α → Prop where
  | late {d} :
    Within P' (fun _ => True) d →
    Phased P P' d
  | ask {q next} :
    P q →
    (∀ x, Phased P P' (next x)) →
    Phased P P' (.ask q next)

/-- The next thing that a program asks, if there is one, is allowed. -/
def Pauses (P : S.Request → Prop) (d : Dialogue S α) : Prop :=
  ∀ q next, d = .ask q next → P q

variable {P P' : S.Request → Prop} {Q : α → Prop} {d left : Dialogue S α}
  {log log₁ log₂ : List (Exchange S)}

/-- A dialogue that is done does not pause. -/
lemma pauses_done {a : α} : Pauses P (.done a) :=
  fun q next same => by cases same

/-- It reaches its end when it runs to it. -/
lemma reaches_done_iff {a : α} : Reaches d log (.done a) ↔ Runs d log a := by
  constructor
  · generalize ended : Dialogue.done a = left
    intro reaches
    induction reaches with
    | here =>
      cases ended
      exact .done
    | ask _ ih => exact .ask (ih ended)
  · intro run
    induction run with
    | done => exact .here
    | ask _ ih => exact .ask ih

/-- From its end it reaches nothing else. -/
lemma reaches_of_done_iff {a : α} : Reaches (.done a) log left ↔ log = [] ∧ left = .done a := by
  constructor
  · intro reaches
    cases reaches
    exact ⟨rfl, rfl⟩
  · rintro ⟨rfl, rfl⟩
    exact .here

/-- From a request it reaches that request, or what follows an answer. -/
lemma reaches_of_ask_iff {q : S.Request} {next : S.Answer q → Dialogue S α} :
    Reaches (.ask q next) log left ↔
      (log = [] ∧ left = .ask q next) ∨ ∃ x rest, log = ⟨q, x⟩ :: rest ∧
        Reaches (next x) rest left := by
  constructor
  · intro reaches
    cases reaches with
    | here => exact .inl ⟨rfl, rfl⟩
    | ask later => exact .inr ⟨_, _, rfl, later⟩
  · rintro (⟨rfl, rfl⟩ | ⟨x, rest, rfl, later⟩)
    · exact .here
    · exact .ask later

/-- What is reached in two steps is reached. -/
lemma Reaches.trans {last : Dialogue S α} (first : Reaches d log₁ left)
    (second : Reaches left log₂ last) :
    Reaches d (log₁ ++ log₂) last := by
  induction first with
  | here => exact second
  | ask _ ih => exact .ask (ih second)

/-- What is left of a program whose value is put into another form. -/
lemma reaches_map {g : α → β} {last : Dialogue S β}
    (reaches : Reaches (d >>= fun a => .done (g a)) log last) :
    ∃ rest, Reaches d log rest ∧ last = (rest >>= fun a => .done (g a)) := by
  induction d generalizing log with
  | done a =>
    obtain ⟨rfl, rfl⟩ := reaches_of_done_iff.mp reaches
    exact ⟨.done a, .here, rfl⟩
  | ask q next ih =>
    obtain ⟨rfl, rfl⟩ | ⟨x, rest, rfl, later⟩ := reaches_of_ask_iff.mp reaches
    · exact ⟨.ask q next, .here, rfl⟩
    · obtain ⟨left, first, rfl⟩ := ih x later
      exact ⟨left, .ask first, rfl⟩

/-- A dialogue within bounds reaches others within them. -/
lemma Within.reaches (within : Within P Q d) (reaches : Reaches d log left) :
    (∀ x ∈ log, P x.request) ∧ Within P Q left := by
  induction reaches with
  | here => exact ⟨fun x member => absurd member List.not_mem_nil, within⟩
  | ask _ ih =>
    cases within with
    | ask allowed later =>
      obtain ⟨asked, rest⟩ := ih (later _)
      exact ⟨List.forall_mem_cons.mpr ⟨allowed, asked⟩, rest⟩

/-- A sequence that pauses at something its first part does not ask for has its first part behind
it. -/
lemma Within.reaches_bind {f : α → Dialogue S β} {left : Dialogue S β} (within : Within P Q d)
    (reaches : Reaches (d >>= f) log left) (pauses : left.Pauses P') (apart : ∀ q, P q → ¬ P' q) :
    ∃ a log₁ log₂, log = log₁ ++ log₂ ∧ Runs d log₁ a ∧ Reaches (f a) log₂ left := by
  induction within generalizing log with
  | done _ => exact ⟨_, [], log, rfl, .done, reaches⟩
  | ask allowed _ ih =>
    obtain ⟨-, rfl⟩ | ⟨x, rest, rfl, later⟩ := reaches_of_ask_iff.mp reaches
    · exact absurd (pauses _ _ rfl) (apart _ allowed)
    · obtain ⟨a, log₁, log₂, rfl, run, last⟩ := ih x later
      exact ⟨a, _, log₂, rfl, .ask run, last⟩

/-- A program of the first kind is followed by a phased one. -/
lemma Within.phased {f : α → Dialogue S β} (first : Within P Q d)
    (second : ∀ a, Q a → Phased P P' (f a)) :
    Phased P P' (d >>= f) := by
  induction first with
  | done wanted => exact second _ wanted
  | ask allowed _ ih => exact .ask allowed ih

/-- A phased program is followed by a program of the second kind. -/
lemma Phased.bind {f : α → Dialogue S β} (first : Phased P P' d)
    (last : ∀ a, Within P' (fun _ => True) (f a)) : Phased P P' (d >>= f) := by
  induction first with
  | late within => exact .late (within.bind fun a _ => last a)
  | ask allowed _ ih => exact .ask allowed ih

/-- A phased dialogue asks within one of its bounds. -/
lemma Phased.reaches (phased : Phased P P' d) (reaches : Reaches d log left) :
    ∀ x ∈ log, P x.request ∨ P' x.request := by
  induction reaches with
  | here => exact fun x member => absurd member List.not_mem_nil
  | ask rest ih =>
    cases phased with
    | late within =>
      intro x member
      exact .inr ((within.reaches (.ask rest)).1 x member)
    | ask allowed later => exact List.forall_mem_cons.mpr ⟨.inl allowed, ih (later _)⟩

/-- What is left of a phased program at a request that is not of the first kind is of the second. -/
lemma Phased.paused {q : S.Request} {next : S.Answer q → Dialogue S α} (phased : Phased P P' d)
    (reaches : Reaches d log (.ask q next)) (late : ¬ P q) :
    Within P' (fun _ => True) (.ask q next) := by
  generalize same : Dialogue.ask q next = left at reaches
  induction reaches with
  | here =>
    subst same
    cases phased with
    | late within => exact within
    | ask allowed _ => exact absurd allowed late
  | ask rest ih =>
    cases phased with
    | late within => exact (within.reaches (.ask rest)).2
    | ask _ later => exact ih (later _) same

end ChatTriage.Dialogue
