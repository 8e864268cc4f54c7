import Mathlib.Data.List.Pairwise
import ChatTriage.Proofs.Office.Turns

/-!
# Taking each message in once

Calls that take messages in, however many are under way at an office and whoever's turn it is. Of
the calls with messages of one id at most one takes its message in, and a call that does not has
changed nothing.
-/

namespace ChatTriage.Office

variable {c : Desk.Config} {o o' : Office} {calls : List Message} {turns : List Turn}
  {ends : List (Dialogue Desk.service (Except Fault Desk.Report × Message))} {m : Message} {k : Nat}

/-- The call that takes a message in. -/
def intake (c : Desk.Config) (m : Message) :
    Dialogue Desk.service (Except Fault Desk.Report × Message) :=
  ((Desk.process c).run).run m

/-- A call has come to an end with a report, and left its message. -/
def Reports (calls : List Message)
    (ends : List (Dialogue Desk.service (Except Fault Desk.Report × Message)))
    (k : Nat) (m : Message) (report : Desk.Report) (left : Message) : Prop :=
  calls[k]? = some m ∧ ends[k]? = some (.done (.ok report, left))

/-- An intake among others is one by itself. -/
lemma Turns.process (run : Turns o (calls.map (intake c)) turns o' ends) {report : Desk.Report}
    {left : Message} (reports : Reports calls ends k m report left) :
    Desk.Work.Runs (Desk.process c) m ((turnsOf k turns).map (·.exchange)) (.ok report) left := by
  obtain ⟨call, ended⟩ := reports
  obtain ⟨d, found, ran⟩ := run.runs ended
  rw [List.getElem?_map, call, Option.map_some, Option.some.injEq] at found
  subst found
  exact ran

/-- A call that takes its message in has created its row. -/
lemma Turns.creates_of_accepted (run : Turns o (calls.map (intake c)) turns o' ends)
    {report : Desk.Report} {left : Message} (reports : Reports calls ends k m report left)
    (accepted : report.accepted = true) : ∃ t ∈ turns, t.call = k ∧ t.Creates m.id := by
  obtain ⟨-, rest, log⟩ | ⟨refused, -⟩ := Desk.process_settled (run.process reports)
  · obtain ⟨t, others, own, exchange, -⟩ := List.map_eq_cons_iff.mp log
    have member : t ∈ turnsOf k turns := by rw [own]; exact List.mem_cons_self
    obtain ⟨among, mine⟩ := List.mem_filter.mp member
    exact ⟨t, among, of_decide_eq_true mine, m, rfl, exchange⟩
  · rw [accepted] at refused
    cases refused

/-- What a call that turns its message away has asked for: its row at most, in vain. -/
lemma Turns.unchanged_of_refused (run : Turns o (calls.map (intake c)) turns o' ends)
    {report : Desk.Report} {left : Message} (reports : Reports calls ends k m report left)
    (refused : report.accepted = false) :
    left = m ∧ (turnsOf k turns).length ≤ 1 ∧ ∀ t ∈ turnsOf k turns,
      t.exchange.request = .createMessage m ∧ t.after = t.before ∧ t.world = [] := by
  obtain ⟨accepted, -⟩ | ⟨-, rfl, log⟩ := Desk.process_settled (run.process reports)
  · rw [refused] at accepted
    cases accepted
  · obtain none | ⟨e, one⟩ := log
    · rw [List.map_eq_nil_iff] at none
      rw [none]
      exact ⟨rfl, Nat.zero_le 1, fun t member => absurd member List.not_mem_nil⟩
    · obtain ⟨t, own, exchange⟩ := List.map_eq_singleton_iff.mp one
      have member : t ∈ turnsOf k turns := by rw [own]; exact List.mem_singleton_self t
      have answered := run.answered t (List.mem_filter.mp member).1
      rw [exchange] at answered
      obtain ⟨quiet, unmade⟩ := answer_createMessage_iff.mp answered
      rw [own]
      refine ⟨rfl, Nat.le_refl 1, fun s same => ?_⟩
      obtain rfl := List.mem_singleton.mp same
      exact ⟨by rw [exchange], same_of_createMessage unmade, quiet⟩

/-- Each message is taken in once, and a message that is turned away leaves no trace. Whatever calls
take turns at an office: of those with messages of one id at most one takes its message in; and a
call that turns its message away hands it back as it came, has asked for its row at most, and has
neither changed the office by that nor asked anything of the world. -/
theorem intake_at_most_once (run : Turns o (calls.map (intake c)) turns o' ends) :
    (∀ j k m n r s left left', Reports calls ends j m r left → Reports calls ends k n s left' →
      r.accepted = true → s.accepted = true → m.id = n.id → j = k) ∧
    ∀ k m r left, Reports calls ends k m r left → r.accepted = false →
      left = m ∧ (turnsOf k turns).length ≤ 1 ∧ ∀ t ∈ turnsOf k turns,
        t.exchange.request = .createMessage m ∧ t.after = t.before ∧ t.world = [] := by
  refine ⟨fun j k m n r s left left' first second took tookToo same => ?_, fun k m r left reports =>
    run.unchanged_of_refused reports⟩
  obtain ⟨t, among, rfl, creates⟩ := run.creates_of_accepted first took
  obtain ⟨u, amongToo, rfl, createsToo⟩ := run.creates_of_accepted second tookToo
  have apart : Std.Symm fun t u : Turn => ¬ (t.Creates m.id ∧ u.Creates m.id) :=
    ⟨fun t u no both => no both.symm⟩
  -- two calls would have created the row of one id in two turns
  by_contra differ
  have distinct : t ≠ u := fun e => differ (congrArg Turn.call e)
  exact (run.creates_once m.id).forall among amongToo distinct ⟨creates, same ▸ createsToo⟩

namespace Sample

open Desk.Sample

/-- The message after a desk without filters has taken it in. -/
def processed : Message :=
  { order with status := .processed, version := .count 1 }

/-- The office in which that was done. -/
def office : Office where
  messages := some ⟨[⟨some "wamid.1", .processed, .count 1,
    .written (processed.document "2024-01-01T10:00:00+00:00")⟩]⟩
  loaded := true

end Sample

open Desk.Sample in
/-- A message that is delivered twice is turned away the second time. -/
theorem intake_of_redelivery :
    ∃ turns ends, Turns {} ([order, order].map (intake desk)) turns Sample.office ends ∧
      Reports [order, order] ends 0 order (.unmatched "wamid.1" .processed) Sample.processed ∧
      Reports [order, order] ends 1 order (.refused "wamid.1" .duplicate) order ∧
      (turnsOf 1 turns).length ≤ 1 ∧ ∀ t ∈ turnsOf 1 turns,
        t.exchange.request = .createMessage order ∧ t.after = t.before ∧ t.world = [] := by
  have took : Act.Runs (Dialogue.run answer (intake desk order)) {} []
      (.ok (.unmatched "wamid.1" .processed), Sample.processed) Sample.office := .done
  have refused : Act.Runs (Dialogue.run answer (intake desk order)) Sample.office []
      (.ok (.refused "wamid.1" .duplicate), order) Sample.office := .done
  have waiting : ([order, order].map (intake desk))[0]? = some (intake desk order) := rfl
  have waitingToo (taken : Dialogue Desk.service (Except Fault Desk.Report × Message)) :
      (([order, order].map (intake desk)).set 0 taken)[1]? = some (intake desk order) := rfl
  obtain ⟨turns₁, -, first⟩ := Turns.of_run waiting took
  obtain ⟨turns₂, -, second⟩ := Turns.of_run (waitingToo _) refused
  refine ⟨_, _, first.append second, ⟨rfl, rfl⟩, ⟨rfl, rfl⟩, ?_⟩
  exact ((intake_at_most_once (first.append second)).2 1 _ _ _ ⟨rfl, rfl⟩ rfl).2

end ChatTriage.Office
