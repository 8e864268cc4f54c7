import ChatTriage.Proofs.Desk.Route
import ChatTriage.Proofs.Office.Interleaved

/-!
# Commands and messages at an office

Routing decides once what a message is, and carrying a command out decides it again. The two agree:
a command gets one answer, and no command is taken in as a message. What a command leaves of the
tables is said besides, since saving a filter could have touched its stats.
-/

namespace ChatTriage

namespace Store

variable {t : FilterTable} {f : Filter} {id : Cell}

/-- The stats of every row. -/
def FilterTable.counters (t : FilterTable) : List (Int × Cell × Cell) :=
  t.rows.map fun r => (r.id, r.matched, r.lastMatch)

/-- A new definition leaves the counters. -/
lemma counters_redefined : (t.updateRows id (·.redefined f)).counters = t.counters := by
  unfold FilterTable.counters FilterTable.updateRows
  rw [List.map_map]
  refine List.map_congr_left fun r _ => ?_
  simp only [Function.comp_apply]
  split <;> rfl

/-- Saving a filter over its row leaves all stats as they were. -/
lemma counters_saveFilter {filters : Option FilterTable} (old : f.id ≠ .null) :
    (saveFilter filters f).1.map FilterTable.counters = filters.map FilterTable.counters := by
  unfold saveFilter
  cases written : writeFilter filters f with
  | error e => rfl
  | ok saved =>
    obtain ⟨t', cell⟩ := saved
    cases filters with
    | none => cases written
    | some t =>
      obtain ⟨-, ⟨new, -⟩ | ⟨-, -, -, -, rfl⟩⟩ := writeFilter_eq_ok_iff.mp written
      · exact absurd new old
      · exact congrArg some counters_redefined

end Store

namespace Office

variable {c : Desk.Config} {o o' : Office} {m : Message} {log : Desk.Log} {world : World}
  {reply : String → Desk.Task Unit}

/-- The stats of every filter, if there is a table. -/
def counters (o : Office) : Option (List (Int × Store.Cell × Store.Cell)) :=
  o.filters.map Store.FilterTable.counters

/-- So does what edits nothing. -/
lemma counters_of_unedited (quiet : log.Unedited) (serves : Serves o log world o') :
    o'.counters = o.counters := by
  induction serves with
  | nil => rfl
  | cons answered _ ih =>
    obtain ⟨first, rest⟩ := List.forall_mem_cons.mp quiet
    have same := (framed_of_answer answered).filters first
    exact (ih rest).trans (congrArg (Option.map Store.FilterTable.counters) same)

/-- A filter that the office gives away by its name has the id of a row. -/
lemma id_of_filterNamed {name : String} {f : Filter} (found : o.filterNamed name = .ok (some f)) :
    f.id ≠ .null := by
  unfold Office.filterNamed Office.unlessOut at found
  split at found
  · cases found
  · cases table : o.filters with
    | none =>
      rw [table] at found
      cases found
    | some t =>
      rw [table] at found
      obtain ⟨r, -, loaded⟩ := Store.mem_of_filterNamed found
      rw [(Store.FilterRow.load_eq_ok_iff_defines.mp loaded).columns.1]
      exact nofun

/-- So does editing a filter. -/
lemma counters_of_editing {name : String} {f : Filter} {u : Command.Update}
    {answer : Except Fault Filter}
    (serves : Serves o (Desk.editing name f u answer) world o') : o'.counters = o.counters := by
  obtain ⟨o₁, w₁, w₂, rfl, named, rest⟩ := serves_cons_iff.mp serves
  obtain ⟨-, found, rfl⟩ := Act.runs_pure_iff.mp named
  obtain ⟨-, saved⟩ := Act.runs_change_iff.mp (serves_one_iff.mp rest)
  have old : (u.apply f).id ≠ .null := by
    have same : (u.apply f).id = f.id := by cases u <;> rfl
    rw [same]
    exact id_of_filterNamed found.symm
  have changed : o' = (o₁.saveFilter (u.apply f)).2 := congrArg Prod.snd saved
  rw [changed]
  unfold saveFilter
  split
  · rfl
  · exact Store.counters_saveFilter old

/-- A command leaves every row of a message and all stats as they were. -/
lemma command_spares {r : Except Fault Desk.CommandResult} {intent : Command.Intent}
    (asks : Command.Intent.ofJson m.text = .ok intent)
    (run : Desk.Task.Runs (Desk.handleCommand c m) log r)
    (serves : Serves o log world o') : o'.messages = o.messages ∧ o'.counters = o.counters := by
  constructor
  · obtain ⟨_, -, handled⟩ := Desk.runs_handleCommand_of_asks asks run
    have unwritten : log.Unwritten := fun x member =>
      Desk.Request.writesMessages_of_isIntake (handled.isIntake x member)
    exact (messages_of_unwritten unwritten serves).1
  · obtain ⟨_, -, quiet | ⟨name, f, u, answer, rest, rfl, quiet, -⟩⟩ := Desk.runs_handleCommand run
    · exact counters_of_unedited quiet serves
    · obtain ⟨o₁, w₁, w₂, rfl, edits, later⟩ := serves_append_iff.mp serves
      exact (counters_of_unedited quiet later).trans (counters_of_editing edits)

/-- Every message that is routed takes one of two ways, and routing always comes to an end. An
operator who gives a command in a direct message is answered once, and no message is written and no
match counted; the answer is the result that the reply gets, or the confirmation of an update. Any
other message is taken in, which happens as if it were by itself: the reply makes no difference.
Only a message with something else in the place of its text is not routed at all. -/
theorem message_takes_one_way :
    (∀ tell past, ∃ log r m', Dialogue.Told tell past log ∧
      Desk.Work.Runs (Desk.route c reply) m log r m') ∧
    (∀ intent, Desk.Commands c m intent →
      (∀ log r m', Desk.Work.Runs (Desk.route c reply) m log r m' ↔
        r = .ok () ∧ m' = m ∧ Desk.Heard c reply m intent log) ∧
      ∀ log r o world o', Desk.Task.Runs (Desk.handleCommand c m) log r → Serves o log world o' →
        o'.messages = o.messages ∧ o'.counters = o.counters) ∧
    (∀ intent, Command.Intent.ofJson m.text = .ok intent → ¬ Desk.Commands c m intent →
      ∀ log r m', Desk.Work.Runs (Desk.route c reply) m log r m' ↔
        ∃ report, Desk.Work.Runs (Desk.process c) m log report m' ∧ r = report.map fun _ => ()) ∧
    ∀ e, Command.Intent.ofJson m.text = .error e →
      ¬ m.Textual ∧
      ∀ log r m', Desk.Work.Runs (Desk.route c reply) m log r m' ↔ log = [] ∧ r = .error e ∧
        m' = m := by
  refine ⟨fun tell past => ?_,
    fun intent commands => ⟨fun log r m' => ?_, fun log r o world o' run serves => ?_⟩,
    fun intent asks other log r m' => ?_, fun e asks => ⟨fun textual => ?_, fun log r m' => ?_⟩⟩
  · obtain ⟨log, ⟨r, m'⟩, told, run⟩ :=
      Dialogue.exists_run (((Desk.route c reply).run).run m) tell past
    exact ⟨log, r, m', told, run⟩
  · exact Desk.runs_route_of_commands commands
  · exact command_spares commands.asks run serves
  · exact Desk.runs_route_of_others asks other
  · obtain ⟨intent, read⟩ := textual.asks
    cases asks.symm.trans read
  · exact Desk.runs_route_of_textless asks

open Desk.Sample Sample in
/-- A filter is switched off by a command: its sender hears so on the channel that the command came
on. -/
theorem message_takes_one_way_by_switch :
    Desk.Commands staffed switch .update ∧
    ∃ text, Desk.Work.Runs (Desk.route staffed Desk.replyDirectly) switch (switched text)
      (.ok ()) switch ∧
      Desk.Heard staffed Desk.replyDirectly switch .update (switched text) := by
  have commands : Desk.Commands staffed switch .update :=
    ⟨rfl, by decide +kernel, by decide +kernel, by decide⟩
  obtain ⟨-, carried, -, -⟩ := @message_takes_one_way staffed switch Desk.replyDirectly
  have run : ∃ text,
      Desk.Work.Runs (Desk.route staffed Desk.replyDirectly) switch (switched text)
        (.ok ()) switch :=
    ⟨_, .ask (.ask (.ask (.ask (.ask (.ask .done)))))⟩
  obtain ⟨text, run⟩ := run
  obtain ⟨-, -, answered⟩ := ((carried .update commands).1 _ _ _).mp run
  exact ⟨commands, text, run, answered⟩

end Office

end ChatTriage
