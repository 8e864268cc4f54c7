import ChatTriage.Fault
import ChatTriage.Proofs.Dialogue.Run

/-!
# Work on a state

A program that may fail and changes a state besides; what was done to the state until it failed
stays done. The lemmas take a run of such work apart, one step at a time, so that no later proof has
to look at how failures and the state are carried along.
-/

namespace ChatTriage.Dialogue

variable {S : Service} {σ α β : Type} {s s' : σ} {log : List (Exchange S)}

/-- Work that is answered as in a log ends with a result and leaves the state changed. -/
def Works (w : ExceptT Fault (StateT σ (Dialogue S)) α) (s : σ) (log : List (Exchange S))
    (r : Except Fault α)
    (s' : σ) : Prop :=
  Runs (StateT.run (ExceptT.run w) s) log (r, s')

/-- A result that may be a fault asks nothing. -/
lemma works_result_iff {x r : Except Fault α} :
    Works (ExceptT.mk (pure x)) s log r s' ↔ log = [] ∧ r = x ∧ s' = s := by
  rw [← Prod.mk.injEq]
  exact runs_done_iff

/-- A result asks nothing. -/
lemma works_pure_iff {a : α} {r : Except Fault α} :
    Works (pure a) s log r s' ↔ log = [] ∧ r = .ok a ∧ s' = s :=
  works_result_iff

/-- A fault asks nothing. -/
lemma works_throw_iff {f : Fault} {r : Except Fault α} :
    Works (throw f) s log r s' ↔ log = [] ∧ r = .error f ∧ s' = s :=
  works_result_iff

/-- A change of the state asks nothing. -/
lemma works_modify_iff {g : σ → σ} {r : Except Fault PUnit} :
    Works (modify g) s log r s' ↔ log = [] ∧ r = .ok ⟨⟩ ∧ s' = g s :=
  works_result_iff (s := g s)

/-- A sequence of work fails in its first part, or goes on with what the first part gave and
left. -/
lemma works_bind_iff {w : ExceptT Fault (StateT σ (Dialogue S)) α}
    {f : α → ExceptT Fault (StateT σ (Dialogue S)) β} {r : Except Fault β} :
    Works (w >>= f) s log r s' ↔
      (∃ e, Works w s log (.error e) s' ∧ r = .error e) ∨
      ∃ a s₁ log₁ log₂, log = log₁ ++ log₂ ∧ Works w s log₁ (.ok a) s₁ ∧
        Works (f a) s₁ log₂ r s' := by
  constructor
  · intro run
    obtain ⟨⟨x, s₁⟩, log₁, log₂, rfl, first, second⟩ := runs_bind_iff.mp run
    cases x with
    | ok a => exact .inr ⟨a, s₁, log₁, log₂, rfl, first, second⟩
    | error e =>
      obtain ⟨rfl, same⟩ := runs_done_iff.mp second
      cases same
      rw [List.append_nil]
      exact .inl ⟨e, first, rfl⟩
  · rintro (⟨e, first, rfl⟩ | ⟨a, s₁, log₁, log₂, rfl, first, second⟩)
    · rw [← List.append_nil log]
      exact Runs.bind first .done
    · exact Runs.bind first second

/-- What work gives is passed on as something else. -/
lemma works_bind_pure_iff {w : ExceptT Fault (StateT σ (Dialogue S)) α} {g : α → β}
    {r : Except Fault β} :
    Works (w >>= fun a => pure (g a)) s log r s' ↔ ∃ x, Works w s log x s' ∧ r = x.map g := by
  rw [works_bind_iff]
  constructor
  · rintro (⟨e, first, rfl⟩ | ⟨a, s₁, log₁, log₂, rfl, first, second⟩)
    · exact ⟨.error e, first, rfl⟩
    · obtain ⟨rfl, rfl, rfl⟩ := works_pure_iff.mp second
      rw [List.append_nil]
      exact ⟨.ok a, first, rfl⟩
  · rintro ⟨x, first, rfl⟩
    cases x with
    | error e => exact .inl ⟨e, first, rfl⟩
    | ok a =>
        exact .inr
          ⟨a, s', log, [], (List.append_nil log).symm, first, works_pure_iff.mpr ⟨rfl, rfl, rfl⟩⟩

/-- What is done to a result asks nothing more. -/
lemma works_map_iff {w : ExceptT Fault (StateT σ (Dialogue S)) α} {g : α → β} {r : Except Fault β} :
    Works (g <$> w) s log r s' ↔ ∃ x, Works w s log x s' ∧ r = x.map g := by
  rw [map_eq_pure_bind, works_bind_pure_iff]

/-- What the work gives is judged by something that may fail and asks nothing. -/
lemma works_bind_result_iff {w : ExceptT Fault (StateT σ (Dialogue S)) α} {g : α → Except Fault β}
    {r : Except Fault β} :
    Works (w >>= fun a => ExceptT.mk (pure (g a))) s log r s' ↔ ∃ x, Works w s log x s' ∧
      r = x >>= g := by
  rw [works_bind_iff]
  constructor
  · rintro (⟨e, first, rfl⟩ | ⟨a, s₁, log₁, log₂, rfl, first, second⟩)
    · exact ⟨.error e, first, rfl⟩
    · obtain ⟨rfl, rfl, rfl⟩ := works_result_iff.mp second
      rw [List.append_nil]
      exact ⟨.ok a, first, rfl⟩
  · rintro ⟨x, first, rfl⟩
    cases x with
    | error e => exact .inl ⟨e, first, rfl⟩
    | ok a =>
        exact .inr
          ⟨a, s', log, [], (List.append_nil log).symm, first, works_result_iff.mpr ⟨rfl, rfl, rfl⟩⟩

/-- What reads the state goes on with it. -/
lemma works_get_bind_iff {f : σ → ExceptT Fault (StateT σ (Dialogue S)) β} {r : Except Fault β} :
    Works (get >>= f) s log r s' ↔ Works (f s) s log r s' :=
  .rfl

/-- What puts down a state goes on with that one. -/
lemma works_set_bind_iff {t : σ} {f : PUnit → ExceptT Fault (StateT σ (Dialogue S)) β}
    {r : Except Fault β} :
    Works (set t >>= f) s log r s' ↔ Works (f ⟨⟩) t log r s' :=
  .rfl

/-- What changes the state goes on with the new one. -/
lemma works_modify_bind_iff {g : σ → σ} {f : PUnit → ExceptT Fault (StateT σ (Dialogue S)) β}
    {r : Except Fault β} : Works (modify g >>= f) s log r s' ↔ Works (f ⟨⟩) (g s) log r s' :=
  .rfl

/-- Something that asks nothing fails, or gives a value to go on with. -/
lemma works_result_bind_iff {x : Except Fault α} {f : α → ExceptT Fault (StateT σ (Dialogue S)) β}
    {r : Except Fault β} :
    Works (ExceptT.mk (pure x) >>= f) s log r s' ↔
      (∃ e, x = .error e ∧ log = [] ∧ r = .error e ∧ s' = s) ∨ ∃ a, x = .ok a ∧
        Works (f a) s log r s' := by
  cases x with
  | error e =>
    constructor
    · intro run
      exact .inl ⟨e, rfl, works_throw_iff.mp run⟩
    · rintro (⟨_, ⟨⟩, ended⟩ | ⟨_, ⟨⟩, -⟩)
      exact works_throw_iff.mpr ended
  | ok a =>
    constructor
    · intro run
      exact .inr ⟨a, rfl, run⟩
    · rintro (⟨_, ⟨⟩, -⟩ | ⟨_, ⟨⟩, run⟩)
      exact run

/-- A request is asked before the rest. -/
lemma works_request_bind_iff {q : S.Request}
    {f : S.Answer q → ExceptT Fault (StateT σ (Dialogue S)) β}
    {r : Except Fault β} :
    Works (ExceptT.lift (StateT.lift (request q)) >>= f) s log r s' ↔
      ∃ x rest, log = ⟨q, x⟩ :: rest ∧ Works (f x) s rest r s' :=
  runs_ask_iff

/-- The outcome of work is looked at whether it failed or not. -/
lemma works_attempt_bind_iff {w : ExceptT Fault (StateT σ (Dialogue S)) α}
    {f : Except Fault α → ExceptT Fault (StateT σ (Dialogue S)) β} {r : Except Fault β} :
    Works (ExceptT.lift w.run >>= f) s log r s' ↔
      ∃ x s₁ log₁ log₂, log = log₁ ++ log₂ ∧ Works w s log₁ x s₁ ∧ Works (f x) s₁ log₂ r s' := by
  have steps : StateT.run (ExceptT.run (ExceptT.lift w.run >>= f)) s =
      StateT.run (ExceptT.run w) s >>= fun (x, s₁) => StateT.run (ExceptT.run (f x)) s₁ := by
    simp
  rw [Works, steps, runs_bind_iff]
  constructor
  · rintro ⟨⟨x, s₁⟩, log₁, log₂, split, first, second⟩
    exact ⟨x, s₁, log₁, log₂, split, first, second⟩
  · rintro ⟨x, s₁, log₁, log₂, split, first, second⟩
    exact ⟨(x, s₁), log₁, log₂, split, first, second⟩

end ChatTriage.Dialogue
