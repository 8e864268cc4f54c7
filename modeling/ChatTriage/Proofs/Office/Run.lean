import ChatTriage.Office
import ChatTriage.Proofs.Desk.Run

/-!
# Runs of an office

What an office does when the desk asks it something, and what it asks the world meanwhile. A run of
the desk in an office is a run of the desk whose log the office serves; `Office.runs_run_iff` says
so, and lets everything known of the desk's logs be used of the office. Whatever channels do, they
change nothing of the office but their lines.
-/

namespace ChatTriage.Office

variable {α β : Type}

/-- What an office asked the world, and what it was told. -/
abbrev World : Type := List (Exchange service)

/-- An office that is told what stands in a log does something with a value and is left changed. -/
def Act.Runs (act : Act α) (o : Office) (world : World) (x : α) (o' : Office) : Prop :=
  Dialogue.Runs (StateT.run act o) world (x, o')

/-- An office answers the requests in a log of the desk, one after the other. -/
inductive Serves : Office → Desk.Log → World → Office → Prop where
  | nil {o} :
    Serves o [] [] o
  | cons {o o₁ o' q x log w₁ w₂} :
    Act.Runs (answer q) o w₁ x o₁ →
    Serves o₁ log w₂ o' →
    Serves o (⟨q, x⟩ :: log) (w₁ ++ w₂) o'

/-- An office answers the requests in a log of the desk, and before each of them others may change
it. -/
inductive ServesAmid (changes : Office → Office → Prop) : Office → Desk.Log → Office → Prop where
  | nil {o} :
    ServesAmid changes o [] o
  | cons {o o₁ o₂ o' q x log world} :
    changes o o₁ →
    Act.Runs (answer q) o₁ world x o₂ →
    ServesAmid changes o₂ log o' →
    ServesAmid changes o (⟨q, x⟩ :: log) o'

variable {o o' : Office} {world : World}

namespace Act

/-- Doing nothing asks nothing. -/
lemma runs_pure_iff {a x : α} : Act.Runs (pure a) o world x o' ↔ world = [] ∧ x = a ∧ o' = o := by
  rw [← Prod.mk.injEq]
  exact Dialogue.runs_done_iff

/-- What is done in two steps asks one after the other. -/
lemma runs_bind_iff {act : Act α} {f : α → Act β} {y : β} :
    Act.Runs (act >>= f) o world y o' ↔
      ∃ x o₁ w₁ w₂, world = w₁ ++ w₂ ∧ Act.Runs act o w₁ x o₁ ∧ Act.Runs (f x) o₁ w₂ y o' := by
  constructor
  · intro run
    obtain ⟨⟨x, o₁⟩, w₁, w₂, e, first, second⟩ := Dialogue.runs_bind_iff.mp run
    exact ⟨x, o₁, w₁, w₂, e, first, second⟩
  · rintro ⟨x, o₁, w₁, w₂, rfl, first, second⟩
    exact Dialogue.Runs.bind first second

/-- What looks at the office goes on with it. -/
lemma runs_get_bind_iff {f : Office → Act β} {y : β} :
    Act.Runs (get >>= f) o world y o' ↔ Act.Runs (f o) o world y o' :=
  .rfl

/-- A program that does not look at the office leaves it as it is. -/
lemma runs_lift_iff {d : Dialogue service α} {x : α} :
    Act.Runs (StateT.lift d) o world x o' ↔ Dialogue.Runs d world x ∧ o' = o := by
  constructor
  · intro run
    obtain ⟨y, w₁, w₂, rfl, first, last⟩ := Dialogue.runs_bind_iff.mp run
    obtain ⟨rfl, same⟩ := Dialogue.runs_done_iff.mp last
    cases same
    rw [List.append_nil]
    exact ⟨first, rfl⟩
  · rintro ⟨run, rfl⟩
    rw [← List.append_nil world]
    exact run.bind .done

/-- Asking the world leaves the office. -/
lemma runs_ask_iff {q : Request} {x : q.Answer} :
    Act.Runs (ask q) o world x o' ↔ world = [⟨q, x⟩] ∧ o' = o :=
  runs_lift_iff.trans (and_congr_left fun _ => Dialogue.runs_request_iff)

/-- A change of the office asks nothing of the world. -/
lemma runs_change_iff {f : Office → α × Office} {x : α} :
    Act.Runs (change f) o world x o' ↔ world = [] ∧ (x, o') = f o :=
  Dialogue.runs_done_iff

end Act

/-- A program of the desk that is run in an office is a run of the program whose log the office
serves. -/
lemma runs_run_iff {d : Dialogue Desk.service α} {a : α} :
    Act.Runs (Dialogue.run answer d) o world a o' ↔
      ∃ log, Dialogue.Runs d log a ∧ Serves o log world o' := by
  constructor
  · intro run
    induction d generalizing o world with
    | done b =>
      obtain ⟨rfl, rfl, rfl⟩ := Act.runs_pure_iff.mp run
      exact ⟨[], .done, .nil⟩
    | ask q next ih =>
      obtain ⟨x, o₁, w₁, w₂, rfl, answered, later⟩ := Act.runs_bind_iff.mp run
      obtain ⟨log, rest, serves⟩ := ih x later
      exact ⟨⟨q, x⟩ :: log, .ask rest, .cons answered serves⟩
  · rintro ⟨log, run, serves⟩
    induction run generalizing o world with
    | done =>
      cases serves
      exact Act.runs_pure_iff.mpr ⟨rfl, rfl, rfl⟩
    | @ask q next x log a run ih =>
      cases serves with
      | @cons _ o₁ _ _ _ _ w₁ w₂ answered serves =>
        exact Act.runs_bind_iff.mpr ⟨x, o₁, w₁, w₂, rfl, answered, ih serves⟩

/-- Work of the desk on a message that is done in an office. -/
lemma runs_workOn_iff {m m' : Message} {work : Desk.Work α} {r : Except Fault α} :
    Act.Runs (workOn m work) o world (r, m') o' ↔
      ∃ log, Desk.Work.Runs work m log r m' ∧ Serves o log world o' :=
  runs_run_iff

/-- A log of one exchange is served by one answer. -/
lemma serves_one_iff {x : Exchange Desk.service} :
    Serves o [x] world o' ↔ Act.Runs (answer x.request) o world x.answer o' := by
  constructor
  · intro serves
    cases serves with
    | cons answered rest =>
      cases rest
      rw [List.append_nil]
      exact answered
  · intro answered
    rw [← List.append_nil world]
    exact .cons answered .nil

/-- A log is served from its first exchange on. -/
lemma serves_cons_iff {x : Exchange Desk.service} {log : Desk.Log} :
    Serves o (x :: log) world o' ↔
      ∃ o₁ w₁ w₂, world = w₁ ++ w₂ ∧ Act.Runs (answer x.request) o w₁ x.answer o₁ ∧
        Serves o₁ log w₂ o' := by
  constructor
  · intro serves
    cases serves with
    | cons answered rest => exact ⟨_, _, _, rfl, answered, rest⟩
  · rintro ⟨o₁, w₁, w₂, rfl, answered, rest⟩
    exact .cons answered rest

/-- Two logs are served one after the other. -/
lemma serves_append_iff {log₁ log₂ : Desk.Log} :
    Serves o (log₁ ++ log₂) world o' ↔
      ∃ o₁ w₁ w₂, world = w₁ ++ w₂ ∧ Serves o log₁ w₁ o₁ ∧ Serves o₁ log₂ w₂ o' := by
  induction log₁ generalizing o world with
  | nil =>
    constructor
    · intro serves
      exact ⟨o, [], world, rfl, .nil, serves⟩
    · rintro ⟨o₁, w₁, w₂, rfl, first, second⟩
      cases first
      exact second
  | cons x log₁ ih =>
    constructor
    · intro serves
      cases serves with
      | cons answered serves =>
        obtain ⟨o₂, w₂, w₃, rfl, first, second⟩ := ih.mp serves
        exact ⟨o₂, _, w₃, (List.append_assoc ..).symm, .cons answered first, second⟩
    · rintro ⟨o₁, w₁, w₂, rfl, first, second⟩
      cases first with
      | cons answered first =>
        rw [List.append_assoc]
        exact .cons answered (ih.mpr ⟨o₁, _, w₂, rfl, first, second⟩)

/-- A log in two parts is served one after the other. -/
lemma servesAmid_append_iff {changes : Office → Office → Prop} {log₁ log₂ : Desk.Log} :
    ServesAmid changes o (log₁ ++ log₂) o' ↔
      ∃ o₁, ServesAmid changes o log₁ o₁ ∧ ServesAmid changes o₁ log₂ o' := by
  induction log₁ generalizing o with
  | nil =>
    constructor
    · exact fun serves => ⟨o, .nil, serves⟩
    · rintro ⟨o₁, first, second⟩
      cases first
      exact second
  | cons x log₁ ih =>
    constructor
    · intro serves
      cases serves with
      | cons changed answered serves =>
        obtain ⟨o₂, first, second⟩ := ih.mp serves
        exact ⟨o₂, .cons changed answered first, second⟩
    · rintro ⟨o₁, first, second⟩
      cases first with
      | cons changed answered first => exact .cons changed answered (ih.mpr ⟨o₁, first, second⟩)

/-- An exchange of a channel, as the world sees it on a line. -/
abbrev wired (line : Nat) (x : Exchange Channel.service) : Exchange service :=
  ⟨.wire line x.request, x.answer⟩

/-- What a channel asks is asked on its line. -/
lemma runs_wired_iff {line : Nat} {d : Dialogue Channel.service α} {a : α} :
    Dialogue.Runs
      (Dialogue.run (fun q => Dialogue.request (S := service) (.wire line q)) d) world a ↔
      ∃ log, Dialogue.Runs d log a ∧ world = log.map (wired line) := by
  constructor
  · intro run
    induction d generalizing world with
    | done b =>
      obtain ⟨rfl, rfl⟩ := Dialogue.runs_done_iff.mp run
      exact ⟨[], .done, rfl⟩
    | ask q next ih =>
      obtain ⟨x, rest, rfl, later⟩ := Dialogue.runs_ask_iff.mp run
      obtain ⟨log, told, rfl⟩ := ih x later
      exact ⟨⟨q, x⟩ :: log, .ask told, rfl⟩
  · rintro ⟨log, run, rfl⟩
    induction run with
    | done => exact .done
    | ask _ ih => exact .ask ih

/-- What a channel does on a line changes nothing of the office but the lines. -/
lemma lines_of_onChannel {line : Nat} {operation : Dialogue Channel.service (Channel.Outcome α)}
    {x : Except Fault α} (run : Act.Runs (onChannel line operation) o world x o') :
    ∃ lines, o' = { o with lines } := by
  obtain ⟨⟨outcome, channel⟩, o₁, w₁, w₂, -, asked, later⟩ := Act.runs_bind_iff.mp run
  obtain ⟨-, rfl⟩ := Act.runs_lift_iff.mp asked
  obtain ⟨⟨⟩, o₂, w₃, w₄, -, kept, last⟩ := Act.runs_bind_iff.mp later
  obtain ⟨-, same⟩ := Dialogue.runs_done_iff.mp kept
  obtain ⟨-, -, rfl⟩ := Act.runs_pure_iff.mp last
  cases same
  exact ⟨_, rfl⟩

/-- Asking a line whether it is open leaves the office as it is. -/
lemma same_of_available {line : Nat} {x : Except Fault Bool}
    (run : Act.Runs (available line) o world x o') : o' = o := by
  unfold available at run
  rw [Act.runs_get_bind_iff] at run
  split at run
  · exact (Act.runs_pure_iff.mp run).2.2
  · exact (Act.runs_ask_iff.mp run).2
  · obtain ⟨usable, o₁, w₁, w₂, -, asked, last⟩ := Act.runs_bind_iff.mp run
    obtain ⟨-, rfl⟩ := Act.runs_lift_iff.mp asked
    exact (Act.runs_pure_iff.mp last).2.2

/-- Sending changes nothing but the lines. -/
lemma lines_of_send {line : Nat} {destination text : Json} {x : Except Fault Desk.Delivery}
    (run : Act.Runs (send line destination text) o world x o') :
    ∃ lines, o' = { o with lines } := by
  unfold send at run
  rw [Act.runs_get_bind_iff] at run
  split at run
  · exact ⟨o.lines, (Act.runs_pure_iff.mp run).2.2⟩
  · exact ⟨o.lines, (Act.runs_ask_iff.mp run).2⟩
  · exact lines_of_onChannel run

/-- Neither does forwarding. -/
lemma lines_of_forward {line : Nat} {m : Message} {destination label : Json}
    {x : Except Fault Desk.Delivery}
    (run : Act.Runs (forward line m destination label) o world x o') :
    ∃ lines, o' = { o with lines } := by
  unfold forward at run
  rw [Act.runs_get_bind_iff] at run
  split at run
  · exact ⟨o.lines, (Act.runs_pure_iff.mp run).2.2⟩
  · exact ⟨o.lines, (Act.runs_ask_iff.mp run).2⟩
  · exact lines_of_onChannel run

end ChatTriage.Office
