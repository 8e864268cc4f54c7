import ChatTriage.Proofs.Desk.Process
import ChatTriage.Proofs.Office.Tables

/-!
# Calls that take turns

Several programs of the desk are under way at once, and at every turn one of them asks the office
its next request: nothing is said about which. Calls that run one after the other are the special
case in which each takes all its turns in a row. `Turns.runs` finds the run of a single call among
the turns of all of them, and `Turns.creates_once` says that a row is created once, whoever asks for
it.
-/

namespace ChatTriage.Office

variable {α : Type}

/-- A turn: the place of the call that asked, what it asked and was told, and the office before and
after, with what the office asked the world meanwhile. -/
structure Turn where
  call : Nat
  exchange : Exchange Desk.service
  before : Office
  world : World
  after : Office

/-- Programs of the desk take turns at an office, and are left where they are when the turns end. -/
inductive Turns : Office → List (Dialogue Desk.service α) → List Turn →
    Office → List (Dialogue Desk.service α) → Prop where
  | nil {o ds} :
    Turns o ds [] o ds
  | cons {o o₁ o' ds ds' k q next x world turns} :
    ds[k]? = some (.ask q next) →
    Act.Runs (answer q) o world x o₁ →
    Turns o₁ (ds.set k (next x)) turns o' ds' →
    Turns o ds (⟨k, ⟨q, x⟩, o, world, o₁⟩ :: turns) o' ds'

/-- The turns of one call. -/
def turnsOf (k : Nat) (turns : List Turn) : List Turn :=
  turns.filter (·.call = k)

/-- The turn creates the row of an id. -/
def Turn.Creates (id : String) (t : Turn) : Prop :=
  ∃ m, m.id = id ∧ t.exchange = ⟨.createMessage m, .ok ()⟩

variable {o o' : Office} {ds ds' : List (Dialogue Desk.service α)} {turns : List Turn} {k : Nat}

/-- A call that has come to an end among others has run by itself, with the answers of its own
turns. -/
lemma Turns.runs {a : α} (run : Turns o ds turns o' ds') (ended : ds'[k]? = some (.done a)) :
    ∃ d, ds[k]? = some d ∧ Dialogue.Runs d ((turnsOf k turns).map (·.exchange)) a := by
  induction run with
  | nil => exact ⟨_, ended, .done⟩
  | @cons _ _ _ ds _ j q next x _ turns asks _ _ ih =>
    obtain ⟨d, found, later⟩ := ih ended
    -- the turn was this call's, and starts its run, or that of another, and is passed over
    by_cases own : j = k
    · subst own
      have inside : j < ds.length := (List.getElem?_eq_some_iff.mp asks).1
      rw [List.getElem?_set_self inside] at found
      cases found
      refine ⟨_, asks, ?_⟩
      simp only [turnsOf, List.filter_cons, decide_true, if_true, List.map_cons]
      exact .ask later
    · rw [List.getElem?_set_ne own] at found
      refine ⟨d, found, ?_⟩
      simpa [turnsOf, List.filter_cons, own] using later

/-- A call that is not interrupted takes all its turns in a row. -/
lemma Turns.of_run {d : Dialogue Desk.service α} {world : World} {a : α} (call : ds[k]? = some d)
    (run : Act.Runs (Dialogue.run answer d) o world a o') :
    ∃ turns, (∀ t ∈ turns, t.call = k) ∧ Turns o ds turns o' (ds.set k (.done a)) := by
  obtain ⟨log, asked, serves⟩ := runs_run_iff.mp run
  -- the induction is on what the call asks, with the turns at the office as its image
  clear run
  induction asked generalizing o ds world with
  | done =>
    cases serves
    obtain ⟨inside, found⟩ := List.getElem?_eq_some_iff.mp call
    rw [← found, List.set_getElem_self]
    exact ⟨[], fun t member => absurd member List.not_mem_nil, .nil⟩
  | ask _ ih =>
    cases serves with
    | cons answered serves =>
      have inside := (List.getElem?_eq_some_iff.mp call).1
      obtain ⟨turns, own, later⟩ := ih (List.getElem?_set_self inside) serves
      rw [List.set_set] at later
      exact ⟨_, List.forall_mem_cons.mpr ⟨rfl, own⟩, .cons call answered later⟩

/-- Turns may follow each other. -/
lemma Turns.append {o₁ o₂ o₃ : Office} {ds₁ ds₂ ds₃ : List (Dialogue Desk.service α)}
    {turns₁ turns₂ : List Turn} (first : Turns o₁ ds₁ turns₁ o₂ ds₂)
    (second : Turns o₂ ds₂ turns₂ o₃ ds₃) : Turns o₁ ds₁ (turns₁ ++ turns₂) o₃ ds₃ := by
  induction first with
  | nil => exact second
  | cons asks answered _ ih => exact .cons asks answered (ih second)

/-- Each turn is an answer of the office. -/
lemma Turns.answered (run : Turns o ds turns o' ds') :
    ∀ t ∈ turns,
      Act.Runs (answer t.exchange.request) t.before t.world t.exchange.answer t.after := by
  induction run with
  | nil =>
    intro t member
    cases member
  | cons _ answered _ ih =>
    intro t member
    cases member with
    | head => exact answered
    | tail _ later => exact ih t later

/-- An answer that creates a row finds none, and leaves one. -/
lemma holds_of_creates {id : String} {q : Desk.Request} {x : q.Answer} {world : World}
    (answered : Act.Runs (answer q) o world x o')
    (creates : Turn.Creates id ⟨k, ⟨q, x⟩, o, world, o'⟩) :
    ¬ o.Holds id ∧ o'.Holds id := by
  obtain ⟨m, rfl, same⟩ := creates
  cases same
  exact holds_of_createMessage (answer_createMessage_iff.mp answered).2

/-- A row that is there is not created again. -/
lemma Turns.creates_none {id : String} (run : Turns o ds turns o' ds') (holds : o.Holds id) :
    ∀ t ∈ turns, ¬ t.Creates id := by
  induction run with
  | nil =>
    intro t member
    cases member
  | cons _ answered _ ih =>
    intro t member creates
    cases member with
    | head => exact (holds_of_creates answered creates).1 holds
    | tail _ later => exact ih (holds.of_answer answered) t later creates

/-- No two turns create the row of one id. -/
lemma Turns.creates_once (run : Turns o ds turns o' ds') (id : String) :
    turns.Pairwise fun s t => ¬ (s.Creates id ∧ t.Creates id) := by
  induction run with
  | nil => exact .nil
  | cons _ answered rest ih =>
    -- after the first of them the row is there, and it stays
    refine .cons (fun t later both => ?_) ih
    exact rest.creates_none (holds_of_creates answered both.1).2 t later both.2

end ChatTriage.Office
