/-!
# Dialogues

A program that gets its answers from its surroundings: at each point it is either done or asks a
request and goes on with whatever the answer is. What answers is left open, so that one program can
be run against stores and channels of every behaviour, and several can be run interleaved, request
by request.
-/

namespace ChatTriage

/-- What can be asked, and what an answer to each request is. -/
structure Service where
  Request : Type
  Answer : Request → Type

/-- A program that asks requests of a service and ends with a value. -/
inductive Dialogue (S : Service) (α : Type) : Type where
  | done (value : α)
  | ask (request : S.Request) (next : S.Answer request → Dialogue S α)

namespace Dialogue

variable {S : Service} {α β γ : Type}

/-- Goes on with the value of a program. -/
def bind (d : Dialogue S α) (f : α → Dialogue S β) : Dialogue S β :=
  match d with
  | .done a => f a
  | .ask q next => .ask q fun answer => bind (next answer) f

instance : Monad (Dialogue S) where
  pure := .done
  bind := bind

/-- Asks one request and ends with its answer. -/
def request (q : S.Request) : Dialogue S (S.Answer q) :=
  .ask q .done

/-- A result is a dialogue that is done. -/
@[simp] theorem pure_eq (a : α) : (pure a : Dialogue S α) = .done a := rfl

/-- What follows a result goes on from it. -/
@[simp] theorem done_bind (a : α) (f : α → Dialogue S β) : (Dialogue.done a >>= f) = f a := rfl

/-- What follows a request follows its answer. -/
@[simp] theorem ask_bind (q : S.Request) (next : S.Answer q → Dialogue S α) (f : α → Dialogue S β) :
    (Dialogue.ask q next >>= f) = .ask q fun answer => next answer >>= f := rfl

/-- Nothing follows at the end. -/
theorem bind_done (d : Dialogue S α) : (d >>= Dialogue.done) = d := by
  induction d with
  | done a => rfl
  | ask q next ih => simp [ih]

/-- Dialogues follow each other in any grouping. -/
theorem bind_assoc (d : Dialogue S α) (f : α → Dialogue S β) (g : β → Dialogue S γ) :
    (d >>= f >>= g) = (d >>= fun a => f a >>= g) := by
  induction d with
  | done a => rfl
  | ask q next ih => simp [ih]

instance : LawfulMonad (Dialogue S) :=
  LawfulMonad.mk' _
    (fun d => bind_done d)
    (fun _ _ => rfl)
    (fun d f g => bind_assoc d f g)
    (fun _ _ => rfl)
    (fun _ _ => rfl)
    (fun _ _ => rfl)
    (fun _ _ => rfl)

/-- Runs a program, each request being answered in a monad. -/
def run {m : Type → Type} [Monad m] (answer : (q : S.Request) → m (S.Answer q)) :
    Dialogue S α → m α
  | .done a => pure a
  | .ask q next => do
    let a ← answer q
    run answer (next a)

/-- A dialogue that is done runs to its result. -/
@[simp] theorem run_done {m : Type → Type} [Monad m] (answer : (q : S.Request) → m (S.Answer q))
    (a : α) : run answer (.done a) = pure a := rfl

/-- A request is answered before the rest runs. -/
@[simp] theorem run_ask {m : Type → Type} [Monad m] (answer : (q : S.Request) → m (S.Answer q))
    (q : S.Request) (next : S.Answer q → Dialogue S α) :
    run answer (.ask q next) = answer q >>= fun a => run answer (next a) := rfl

/-- Running goes through a sequence step by step. -/
theorem run_bind {m : Type → Type} [Monad m] [LawfulMonad m]
    (answer : (q : S.Request) → m (S.Answer q)) (d : Dialogue S α) (f : α → Dialogue S β) :
    run answer (d >>= f) = run answer d >>= fun a => run answer (f a) := by
  induction d with
  | done a => simp
  | ask q next ih => simp [ih]

end Dialogue

end ChatTriage
