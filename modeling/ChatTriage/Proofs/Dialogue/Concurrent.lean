import Mathlib.Algebra.BigOperators.Group.Finset.Basic
import Mathlib.Algebra.Order.BigOperators.Group.Finset
import ChatTriage.Proofs.Dialogue.Reach

/-!
# Programs that run concurrently

Several programs are under way at once. What a program asks and what it is told are moves of their
own, so that any number of programs may be waiting for answers while others go on, and nothing is
said about which of them moves next. `Concurrent.alone` finds in the moves of all of them those of
one, which are the moves of a run by itself; `Concurrent.length_le` and `Concurrent.ended_or_moves`
say that programs with few moves always come to their ends.
-/

namespace ChatTriage.Dialogue

/-- Where a program stands: it goes on by itself, or it has asked something and waits for the
answer. -/
inductive Stand (S : Service) (α : Type) where
  | going (d : Dialogue S α)
  | waiting (q : S.Request) (next : S.Answer q → Dialogue S α)

/-- A program that has come to its end stands at a value. -/
def Stand.ended {S : Service} {α : Type} (a : α) : Stand S α :=
  .going (.done a)

/-- A move of a program: it asks something, or hears the answer to what it asked. -/
inductive Move (S : Service) where
  | asks (q : S.Request)
  | hears (x : Exchange S)

variable {S : Service} {α : Type}

/-- What a move is about: the request that is asked or answered. -/
def Move.request : Move S → S.Request
  | .asks q => q
  | .hears x => x.request

/-- The exchange that a move ends. -/
def Move.heard? : Move S → Option (Exchange S)
  | .asks _ => none
  | .hears x => some x

/-- One move of one program. -/
inductive Stand.Step : Stand S α → Move S → Stand S α → Prop where
  | asks {q next} :
    Stand.Step (.going (.ask q next)) (.asks q) (.waiting q next)
  | hears {q next x} :
    Stand.Step (.waiting q next) (.hears ⟨q, x⟩) (.going (next x))

/-- Moves of one program, one after the other. -/
inductive Stand.Moves : Stand S α → List (Move S) → Stand S α → Prop where
  | nil {s} :
    Stand.Moves s [] s
  | cons {s s₁ s' move moves} :
    Stand.Step s move s₁ →
    Stand.Moves s₁ moves s' →
    Stand.Moves s (move :: moves) s'

/-- Moves of several programs, each with the place of the program that moves. -/
inductive Concurrent : List (Stand S α) → List (Nat × Move S) → List (Stand S α) → Prop where
  | nil {ss} :
    Concurrent ss [] ss
  | cons {ss ss' k s s' move moves} :
    ss[k]? = some s →
    Stand.Step s move s' →
    Concurrent (ss.set k s') moves ss' →
    Concurrent ss ((k, move) :: moves) ss'

/-- The moves of the program at a place. -/
def movesOf (k : Nat) (moves : List (Nat × Move S)) : List (Move S) :=
  moves.filterMap fun m => if m.1 = k then some m.2 else none

/-- The moves of a program that is answered as in a log. -/
def spell (log : List (Exchange S)) : List (Move S) :=
  log.flatMap fun x => [.asks x.request, .hears x]

variable {d : Dialogue S α} {s s' : Stand S α} {ss ss' : List (Stand S α)} {log : List (Exchange S)}
  {moves : List (Nat × Move S)} {own : List (Move S)} {move : Move S} {j k : Nat}

/-- The first move is its own program's. -/
lemma movesOf_cons_self : movesOf k ((k, move) :: moves) = move :: movesOf k moves :=
  List.filterMap_cons_some (if_pos rfl)

/-- It is not one of another program. -/
lemma movesOf_cons_of_ne (other : j ≠ k) : movesOf k ((j, move) :: moves) = movesOf k moves :=
  List.filterMap_cons_none (if_neg other)

/-- A program that has ended does not move. -/
lemma moves_ended_iff {a : α} : Stand.Moves (.ended a) own s' ↔ own = [] ∧ s' = .ended a := by
  constructor
  · intro run
    cases run with
    | nil => exact ⟨rfl, rfl⟩
    | cons step => cases step
  · rintro ⟨rfl, rfl⟩
    exact .nil

/-- A program moves along one of its runs, and pauses between two exchanges or within one. -/
lemma moves_going_iff : Stand.Moves (.going d) own s' ↔
    ∃ log left, Reaches d log left ∧ ((own = spell log ∧ s' = .going left) ∨
      ∃ q next, left = .ask q next ∧ own = spell log ++ [.asks q] ∧ s' = .waiting q next) := by
  constructor
  · intro run
    induction d generalizing own with
    | done a =>
      obtain ⟨rfl, rfl⟩ := moves_ended_iff.mp run
      exact ⟨[], _, .here, .inl ⟨rfl, rfl⟩⟩
    | ask q next ih =>
      cases run with
      | nil => exact ⟨[], _, .here, .inl ⟨rfl, rfl⟩⟩
      | cons asks rest =>
        cases asks
        cases rest with
        | nil => exact ⟨[], _, .here, .inr ⟨q, next, rfl, rfl, rfl⟩⟩
        | cons hears later =>
          cases hears with
          | @hears _ _ x =>
            obtain ⟨log, left, reaches, ⟨rfl, rfl⟩ | ⟨q', next', rfl, rfl, rfl⟩⟩ := ih x later
            · exact ⟨⟨q, x⟩ :: log, left, .ask reaches, .inl ⟨rfl, rfl⟩⟩
            · exact ⟨⟨q, x⟩ :: log, _, .ask reaches, .inr ⟨q', next', rfl, rfl, rfl⟩⟩
  · rintro ⟨log, left, reaches, ends⟩
    induction reaches generalizing own with
    | here =>
      obtain ⟨rfl, rfl⟩ | ⟨q, next, rfl, rfl, rfl⟩ := ends
      · exact .nil
      · exact .cons .asks .nil
    | ask _ ih =>
      obtain ⟨rfl, rfl⟩ | ⟨q, next, rfl, rfl, rfl⟩ := ends
      · exact .cons .asks (.cons .hears (ih (.inl ⟨rfl, rfl⟩)))
      · exact .cons .asks (.cons .hears (ih (.inr ⟨q, next, rfl, rfl, rfl⟩)))

/-- The moves of a program that comes to its end are those of a run. -/
lemma moves_to_ended_iff {a : α} : Stand.Moves (.going d) own (.ended a) ↔
    ∃ log, own = spell log ∧ Runs d log a := by
  rw [moves_going_iff]
  constructor
  · rintro ⟨log, left, reaches, ⟨rfl, same⟩ | ⟨_, _, -, -, impossible⟩⟩
    · cases same
      exact ⟨log, rfl, reaches_done_iff.mp reaches⟩
    · cases impossible
  · rintro ⟨log, rfl, run⟩
    exact ⟨log, _, reaches_done_iff.mpr run, .inl ⟨rfl, rfl⟩⟩

/-- Each exchange is a question and an answer. -/
lemma spell_cons {x : Exchange S} :
    spell (x :: log) = .asks x.request :: .hears x :: spell log := rfl

/-- Each exchange is two moves. -/
lemma length_spell : (spell log).length = 2 * log.length := by
  induction log with
  | nil => rfl
  | cons x log ih =>
    rw [spell_cons, List.length_cons, List.length_cons, ih, List.length_cons]
    omega

/-- What is heard in the moves of a program is the log that answers it. -/
lemma heard_spell : (spell log).filterMap Move.heard? = log := by
  induction log with
  | nil => rfl
  | cons x log ih =>
    have heard : (Move.hears x).heard? = some x := rfl
    rw [spell_cons, List.filterMap_cons_none rfl, List.filterMap_cons_some heard, ih]

/-- What holds of all requests holds of all moves. -/
lemma request_of_mem_spell {P : S.Request → Prop} (all : ∀ x ∈ log, P x.request) :
    ∀ move ∈ spell log, P move.request := by
  intro move member
  obtain ⟨x, listed, own⟩ := List.mem_flatMap.mp member
  rw [List.mem_pair] at own
  obtain rfl | rfl := own
  · exact all x listed
  · exact all x listed

/-- A program whose runs are short has few moves. -/
lemma moves_length_le {n : Nat} (told : ∀ q, Nonempty (S.Answer q))
    (short : ∀ log a, Runs d log a → log.length ≤ n) (run : Stand.Moves (.going d) own s') :
    own.length ≤ 2 * n := by
  obtain ⟨log, left, reaches, ends⟩ := moves_going_iff.mp run
  -- what is left of the program comes to an end, whatever it is told
  obtain ⟨rest, a, -, last⟩ := exists_run left (fun _ q => (told q).some) []
  have whole := short _ a (reaches_done_iff.mp (reaches.trans (reaches_done_iff.mpr last)))
  rw [List.length_append] at whole
  obtain ⟨rfl, -⟩ | ⟨q, next, rfl, rfl, -⟩ := ends
  · rw [length_spell]
    omega
  · obtain ⟨x, later, rfl, -⟩ := runs_ask_iff.mp last
    rw [List.length_cons] at whole
    rw [List.length_append, length_spell, List.length_singleton]
    omega

/-- What one of concurrent programs does is what it would do by itself. -/
lemma Concurrent.alone (course : Concurrent ss moves ss') (place : ss[k]? = some s) :
    ∃ s', ss'[k]? = some s' ∧ Stand.Moves s (movesOf k moves) s' := by
  induction course generalizing s with
  | nil => exact ⟨s, place, .nil⟩
  | @cons ss _ j t t' move moves there step _ ih =>
    by_cases same : j = k
    · subst same
      rw [place] at there
      cases there
      obtain ⟨inside, -⟩ := List.getElem?_eq_some_iff.mp place
      obtain ⟨s', ends, later⟩ := ih (List.getElem?_set_self inside)
      refine ⟨s', ends, ?_⟩
      rw [movesOf_cons_self]
      exact .cons step later
    · obtain ⟨s', ends, later⟩ := ih ((List.getElem?_set_ne same).trans place)
      refine ⟨s', ends, ?_⟩
      rw [movesOf_cons_of_ne same]
      exact later

/-- Moves leave as many programs as there are. -/
lemma Concurrent.length (course : Concurrent ss moves ss') : ss'.length = ss.length := by
  induction course with
  | nil => rfl
  | cons _ _ _ ih => rw [ih, List.length_set]

/-- Only programs that are there move. -/
lemma Concurrent.place_lt (course : Concurrent ss moves ss') : ∀ m ∈ moves, m.1 < ss.length := by
  induction course with
  | nil => exact fun m member => absurd member List.not_mem_nil
  | cons there _ _ ih =>
    rw [List.length_set] at ih
    exact List.forall_mem_cons.mpr ⟨(List.getElem?_eq_some_iff.mp there).1, ih⟩

/-- Each move is one of its program. -/
lemma mem_movesOf {m : Nat × Move S} (member : m ∈ moves) : m.2 ∈ movesOf m.1 moves :=
  List.mem_filterMap.mpr ⟨m, member, if_pos rfl⟩

/-- A program has the moves of its place. -/
lemma length_movesOf : (movesOf k moves).length = (moves.map (·.1)).count k := by
  induction moves with
  | nil => rfl
  | cons m moves ih =>
    obtain ⟨j, move⟩ := m
    by_cases same : j = k
    · subst same
      rw [movesOf_cons_self, List.map_cons, List.count_cons_self, List.length_cons, ih]
    · rw [movesOf_cons_of_ne same, List.map_cons, List.count_cons_of_ne same, ih]

/-- Programs that each have few moves have few together. -/
lemma Concurrent.length_le {n : Nat} (course : Concurrent ss moves ss')
    (few : ∀ s ∈ ss, ∀ own s', Stand.Moves s own s' → own.length ≤ n) :
    moves.length ≤ ss.length * n := by
  have each (k : Nat) (inside : k ∈ Finset.range ss.length) : (moves.map (·.1)).count k ≤ n := by
    rw [Finset.mem_range] at inside
    obtain ⟨s', -, alone⟩ := course.alone (List.getElem?_eq_getElem inside)
    rw [← length_movesOf]
    exact few _ (List.getElem_mem inside) _ _ alone
  have placed : ∀ k ∈ (moves.map (·.1) : Multiset Nat), k ∈ Finset.range ss.length := by
    intro k member
    obtain ⟨m, listed, rfl⟩ := List.mem_map.mp (Multiset.mem_coe.mp member)
    exact Finset.mem_range.mpr (course.place_lt m listed)
  calc
    moves.length = (moves.map (·.1) : Multiset Nat).card := by
      rw [Multiset.coe_card, List.length_map]
    _ = ∑ k ∈ Finset.range ss.length, (moves.map (·.1)).count k := by
      rw [← Multiset.sum_count_eq_card placed]
      exact Finset.sum_congr rfl fun k _ => Multiset.coe_count k _
    _ ≤ (Finset.range ss.length).card • n := Finset.sum_le_card_nsmul _ _ n each
    _ = ss.length * n := by rw [Finset.card_range, Nat.nsmul_eq_mul]

/-- Programs that are not all over can go on, whatever they wait for. -/
lemma ended_or_moves (told : ∀ q, Nonempty (S.Answer q)) (ss : List (Stand S α)) :
    (∃ as : List α, ss = as.map .ended) ∨ ∃ m ss', Concurrent ss [m] ss' := by
  by_cases all : ∀ s ∈ ss, ∃ a, s = .ended a
  · left
    induction ss with
    | nil => exact ⟨[], rfl⟩
    | cons s ss ih =>
      obtain ⟨⟨a, rfl⟩, others⟩ := List.forall_mem_cons.mp all
      obtain ⟨as, rfl⟩ := ih others
      exact ⟨a :: as, rfl⟩
  · right
    push Not at all
    obtain ⟨s, member, under⟩ := all
    obtain ⟨k, place⟩ := List.mem_iff_getElem?.mp member
    cases s with
    | going d =>
      cases d with
      | done a => exact absurd rfl (under a)
      | ask q next => exact ⟨_, _, .cons place .asks .nil⟩
    | waiting q next =>
      obtain ⟨x⟩ := told q
      exact ⟨_, _, .cons place (.hears (x := x)) .nil⟩

end ChatTriage.Dialogue
