import Mathlib.Algebra.Order.Ring.Int
import Mathlib.Tactic.Common
import ChatTriage.Dialogue

/-!
# Runs of a program

A run of a program is a log of the requests it asks, each with the answer it was given, and the
value it ends with. Nothing is said about who answers, so what holds of every run holds against
surroundings of every behaviour, also of those that remember what they were asked.
`Dialogue.runs_bind_iff` cuts a run of a sequence in two, and `Dialogue.exists_run` says that a
program always comes to an end.
`Dialogue.Within` bounds what a program asks and what it ends with, whatever it is answered; a bound
on a sequence comes from bounds on its parts.
-/

namespace ChatTriage

/-- A request and the answer it was given. -/
structure Exchange (S : Service) where
  request : S.Request
  answer : S.Answer request

namespace Dialogue

variable {S : Service} {α β : Type}

/-- A program that is answered as in a log asks what stands there and ends with a value. -/
inductive Runs : Dialogue S α → List (Exchange S) → α → Prop where
  | done {a} :
    Runs (.done a) [] a
  | ask {q next x log a} :
    Runs (next x) log a →
    Runs (.ask q next) (⟨q, x⟩ :: log) a

/-- A dialogue that is done runs to its result. -/
lemma runs_done_iff {a b : α} {log : List (Exchange S)} :
    Runs (.done a) log b ↔ log = [] ∧ b = a := by
  constructor
  · intro run
    cases run with
    | done => exact ⟨rfl, rfl⟩
  · rintro ⟨rfl, rfl⟩
    exact .done

/-- A request runs on from its answer. -/
lemma runs_ask_iff {q : S.Request} {next : S.Answer q → Dialogue S α} {log : List (Exchange S)}
    {a : α} :
    Runs (.ask q next) log a ↔ ∃ x rest, log = ⟨q, x⟩ :: rest ∧ Runs (next x) rest a := by
  constructor
  · intro run
    cases run with
    | ask rest => exact ⟨_, _, rfl, rest⟩
  · rintro ⟨x, rest, rfl, run⟩
    exact .ask run

/-- A request by itself runs to its answer. -/
lemma runs_request_iff {q : S.Request} {log : List (Exchange S)} {x : S.Answer q} :
    Runs (request q) log x ↔ log = [⟨q, x⟩] := by
  constructor
  · intro run
    obtain ⟨y, rest, rfl, ended⟩ := runs_ask_iff.mp run
    obtain ⟨rfl, rfl⟩ := runs_done_iff.mp ended
    rfl
  · rintro rfl
    exact .ask .done

/-- Runs may follow each other. -/
lemma Runs.bind {d : Dialogue S α} {f : α → Dialogue S β} {log₁ log₂ : List (Exchange S)} {a : α}
    {b : β} (first : Runs d log₁ a) (second : Runs (f a) log₂ b) :
    Runs (d >>= f) (log₁ ++ log₂) b := by
  induction first with
  | done => exact second
  | ask _ ih => exact .ask (ih second)

/-- A run of a sequence is a run of its first part followed by a run of what comes after. -/
lemma runs_bind_iff {d : Dialogue S α} {f : α → Dialogue S β} {log : List (Exchange S)} {b : β} :
    Runs (d >>= f) log b ↔ ∃ a log₁ log₂, log = log₁ ++ log₂ ∧ Runs d log₁ a ∧
      Runs (f a) log₂ b := by
  constructor
  · intro run
    induction d generalizing log with
    | done a => exact ⟨a, [], log, rfl, .done, run⟩
    | ask q next ih =>
      obtain ⟨x, rest, rfl, later⟩ := runs_ask_iff.mp run
      obtain ⟨a, log₁, log₂, rfl, first, second⟩ := ih x later
      exact ⟨a, ⟨q, x⟩ :: log₁, log₂, rfl, .ask first, second⟩
  · rintro ⟨a, log₁, log₂, rfl, first, second⟩
    exact first.bind second

/-- What a program ends with is settled by the answers it was given. -/
lemma Runs.unique {d : Dialogue S α} {log : List (Exchange S)} {a b : α}
    (run : Runs d log a) (other : Runs d log b) : a = b := by
  induction run with
  | done => exact (runs_done_iff.mp other).2.symm
  | @ask q next x log a run ih =>
    obtain ⟨y, rest, e, other⟩ := runs_ask_iff.mp other
    cases e
    exact ih other

/-- A log in which every answer is the one that surroundings give after what went before. -/
inductive Told (tell : List (Exchange S) → (q : S.Request) → S.Answer q) :
    List (Exchange S) → List (Exchange S) → Prop where
  | nil {past} :
    Told tell past []
  | cons {past q log} :
    Told tell (past ++ [⟨q, tell past q⟩]) log →
    Told tell past (⟨q, tell past q⟩ :: log)

/-- Whatever the surroundings, a program comes to an end. -/
lemma exists_run (d : Dialogue S α) (tell : List (Exchange S) → (q : S.Request) → S.Answer q)
    (past : List (Exchange S)) : ∃ log a, Told tell past log ∧ Runs d log a := by
  induction d generalizing past with
  | done a => exact ⟨[], a, .nil, .done⟩
  | ask q next ih =>
    obtain ⟨log, a, told, run⟩ := ih (tell past q) (past ++ [⟨q, tell past q⟩])
    exact ⟨_, a, .cons told, .ask run⟩

variable {P P' : S.Request → Prop} {Q Q' : α → Prop} {R : β → Prop} {d : Dialogue S α}

/-- Whatever a program is answered, it asks only what is allowed and ends only with what is
wanted. -/
inductive Within (P : S.Request → Prop) (Q : α → Prop) : Dialogue S α → Prop where
  | done {a} :
    Q a →
    Within P Q (.done a)
  | ask {q next} :
    P q →
    (∀ x, Within P Q (next x)) →
    Within P Q (.ask q next)

/-- Dialogues within bounds may follow each other. -/
lemma Within.bind {f : α → Dialogue S β} (first : Within P Q d)
    (second : ∀ a, Q a → Within P R (f a)) :
    Within P R (d >>= f) := by
  induction first with
  | done wanted => exact second _ wanted
  | ask allowed _ ih => exact .ask allowed ih

/-- Bounds may be widened. -/
lemma Within.mono (within : Within P Q d) (allowed : ∀ q, P q → P' q) (wanted : ∀ a, Q a → Q' a) :
    Within P' Q' d := by
  induction within with
  | done ends => exact .done (wanted _ ends)
  | ask asks _ ih => exact .ask (allowed _ asks) ih

/-- A run within bounds asks only what is allowed and ends as wanted. -/
lemma Within.runs {log : List (Exchange S)} {a : α} (within : Within P Q d) (run : Runs d log a) :
    (∀ x ∈ log, P x.request) ∧ Q a := by
  induction run with
  | done =>
    cases within with
    | done wanted => exact ⟨fun x member => absurd member List.not_mem_nil, wanted⟩
  | ask _ ih =>
    cases within with
    | ask allowed later =>
      obtain ⟨rest, wanted⟩ := ih (later _)
      exact ⟨List.forall_mem_cons.mpr ⟨allowed, rest⟩, wanted⟩

end Dialogue

end ChatTriage
