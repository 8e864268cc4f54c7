import ChatTriage.Desk.Orders
import ChatTriage.Proofs.Desk.Match
import ChatTriage.Proofs.Desk.Scope

/-!
# Runs of a command

What the desk asks while it carries out an operator's command. Nothing is stored unless the command
is an update that names a filter; then the edited filter is handed to the store once, and when the
store takes it the rules are read anew and the operator is told. `runs_handleCommand` says so, and
when the result that the operator gets is a success.
-/

namespace ChatTriage.Desk

namespace Request

/-- What goes to a route writes no filter. -/
lemma writesFilters_of_isOutward {q : Request} (outward : q.isOutward = true) :
    q.writesFilters = false := by
  cases q <;> first | rfl | cases outward

/-- What reads the rules writes no filter. -/
lemma writesFilters_of_isReading {q : Request} (reading : q.isReading = true) :
    q.writesFilters = false := by
  cases q <;> first | rfl | cases reading

/-- What reads the rules goes to no route. -/
lemma isOutward_of_isReading {q : Request} (reading : q.isReading = true) :
    q.isOutward = false := by
  cases q <;> first | rfl | cases reading

end Request

variable {c : Config} {m : Message} {log : Log} {text : String}

/-- The store took a filter. -/
def Log.Stored (log : Log) : Prop :=
  ∃ f g, (⟨.storeFilter f, .ok g⟩ : Exchange service) ∈ log

/-- Nothing that was asked writes the table of filters. -/
def Log.Unedited (log : Log) : Prop :=
  ∀ x ∈ log, x.request.writesFilters = false

/-- What kept the rules from being read was a failure of the store. -/
def Log.Readable (log : Log) : Prop :=
  ∀ e, (⟨.enabledFilters, .error e⟩ : Exchange service) ∈ log → e.isStore = true

/-- A confirmation fails: the message gives a source that cannot name a route, or the route does not
tell whether it is open. -/
def Unconfirmed (c : Config) (m : Message) (log : Log) : Prop :=
  (∃ e, confirmationRoute c m = .error e) ∨
  ∃ route e, confirmationRoute c m = .ok (some route) ∧
    (⟨.available route, .error e⟩ : Exchange service) ∈ log

/-- A fault that keeps a confirmation from the channel. -/
def UnconfirmedBy (c : Config) (m : Message) (log : Log) (e : Fault) : Prop :=
  confirmationRoute c m = .error e ∨
  ∃ route, confirmationRoute c m = .ok (some route) ∧
    (⟨.available route, .error e⟩ : Exchange service) ∈ log

/-- A filter is found by its name, edited and handed to the store. -/
def editing (name : String) (f : Filter) (u : Command.Update) (answer : Except Fault Filter) :
    Log :=
  [⟨.filterNamed name, .ok (some f)⟩, ⟨.storeFilter (u.apply f), answer⟩]

/-- The command in a text and the update that it asks for; or the fault or the reason for which it
asks for none. -/
def wish (text : String) : Except (Except Fault String) (Command.UpdateCommand × Command.Update) :=
  match Command.UpdateCommand.ofText text with
  | .error e => .error (.error e)
  | .ok command =>
    match Command.Field.ofWord? command.field with
    | none => .error (.ok ("Unknown field '" ++ command.field ++ "'"))
    | some field =>
      match Command.Update.read field command.value with
      | .error e => .error (.error e)
      | .ok u => .ok (command, u)

/-- What an operator is told when there is no filter with a name. -/
def notFound (name : String) : String := "Filter '" ++ name ++ "' not found"

/-- What comes of an update that is not carried out, for a fault or a reason. -/
def refusal : Except Fault String → Except Fault CommandResult
  | .ok reason => .ok (.refused reason)
  | .error e =>
    match updateRefusal? e with
    | some reason => .ok (.refused reason)
    | none => .error e

/-- What an operator is told when an update was carried out. -/
def updated (command : Command.UpdateCommand) (u : Command.Update) : CommandResult :=
  ⟨true, "Filter '" ++ command.filterName ++ "' updated: " ++ u.field.name ++ " = " ++ u.describe⟩

/-- The ways of storing an update: none is asked for; the filter with the name is not to be had or
does not exist; or the edited filter is handed to the store, which takes it or does not. -/
inductive Storing (text : String) :
    Log → Except Fault (Except String (Command.UpdateCommand × Command.Update)) → Prop
  | senseless (why) :
    wish text = .error why →
    Storing text [] (why.map .error)
  | unread {command u e} :
    wish text = .ok (command, u) →
    Storing text [⟨.filterNamed command.filterName, .error e⟩] (.error e)
  | missing {command u} :
    wish text = .ok (command, u) →
    Storing text [⟨.filterNamed command.filterName, .ok none⟩]
      (.ok (.error (notFound command.filterName)))
  | stored {command u f} (answer) :
    wish text = .ok (command, u) →
    Storing text (editing command.filterName f u answer) (answer.map fun _ => .ok (command, u))

/-- The ways of an update: like those of storing it; when the store takes the edited filter, the
rules are read anew before the operator is told. -/
inductive Updating (text : String) : Log → Except Fault CommandResult → Prop
  | senseless {why} :
    wish text = .error why →
    Updating text [] (refusal why)
  | unread {command u e} :
    wish text = .ok (command, u) →
    Updating text [⟨.filterNamed command.filterName, .error e⟩] (refusal (.error e))
  | missing {command u} :
    wish text = .ok (command, u) →
    Updating text [⟨.filterNamed command.filterName, .ok none⟩]
      (refusal (.ok (notFound command.filterName)))
  | unsaved {command u f e} :
    wish text = .ok (command, u) →
    Updating text (editing command.filterName f u (.error e)) (refusal (.error e))
  | saved {command u f g rest} (read) :
    wish text = .ok (command, u) →
    Task.Runs refresh rest read →
    Updating text (editing command.filterName f u (.ok g) ++ rest)
      (read.map fun _ => updated command u)

/-- No requests are no edits. -/
lemma unedited_nil : Log.Unedited [] :=
  fun _ member => absurd member List.not_mem_nil

/-- A request that writes no filter is no edit. -/
lemma Log.Unedited.cons {q : Request} {x : q.Answer} (quiet : q.writesFilters = false)
    (rest : log.Unedited) : Log.Unedited (⟨q, x⟩ :: log) :=
  List.forall_mem_cons.mpr ⟨quiet, rest⟩

/-- What an operator is told of an update that is not carried out is no success. -/
lemma success_of_refusal {why : Except Fault String} {result : CommandResult}
    (refused : refusal why = .ok result) : result.success = false := by
  unfold refusal at refused
  split at refused
  · cases refused
    rfl
  · split at refused
    · cases refused
      rfl
    · cases refused

/-- A text wishes for an update when it is a command whose field takes its value. -/
lemma wish_eq_ok_iff {command : Command.UpdateCommand} {u : Command.Update} :
    wish text = .ok (command, u) ↔
      Command.UpdateCommand.ofText text = .ok command ∧
      ∃ field, Command.Field.ofWord? command.field = some field ∧
        Command.Update.read field command.value = .ok u := by
  unfold wish
  constructor
  · intro wished
    split at wished
    · cases wished
    rename_i parsed
    split at wished
    · cases wished
    rename_i known
    split at wished
    · cases wished
    · rename_i read
      cases wished
      exact ⟨parsed, _, known, read⟩
  · rintro ⟨parsed, field, known, read⟩
    simp only [parsed, known, read]

/-- Storing an update goes one of the ways of `Storing`. -/
lemma runs_storeUpdate {r : Except Fault (Except String (Command.UpdateCommand × Command.Update))}
    (run : Task.Runs (storeUpdate text) log r) : Storing text log r := by
  unfold storeUpdate at run
  obtain ⟨e, read, rfl⟩ | ⟨command, log₁, log₂, rfl, read, later⟩ := Task.runs_bind_iff.mp run
  · obtain ⟨rfl, parsed⟩ := Task.runs_result_iff.mp read
    exact .senseless (.error e) (by simp only [wish, ← parsed])
  obtain ⟨rfl, parsed⟩ := Task.runs_result_iff.mp read
  cases word : Command.Field.ofWord? command.field with
  | none =>
    rw [word] at later
    obtain ⟨rfl, rfl⟩ := Task.runs_pure_iff.mp later
    exact .senseless (.ok _) (by simp only [wish, ← parsed, word])
  | some field =>
    rw [word] at later
    obtain ⟨e, value, rfl⟩ | ⟨u, log₃, log₄, rfl, value, last⟩ := Task.runs_bind_iff.mp later
    · obtain ⟨rfl, misread⟩ := Task.runs_result_iff.mp value
      exact .senseless (.error e) (by simp only [wish, ← parsed, word, ← misread])
    obtain ⟨rfl, reads⟩ := Task.runs_result_iff.mp value
    have wished : wish text = .ok (command, u) := by simp only [wish, ← parsed, word, ← reads]
    obtain ⟨found, rest, rfl, named⟩ := Task.runs_ask_bind_iff.mp last
    obtain e | _ | f := found
    · obtain ⟨rfl, rfl⟩ := Task.runs_throw_iff.mp named
      exact .unread wished
    · obtain ⟨rfl, rfl⟩ := Task.runs_pure_iff.mp named
      exact .missing wished
    · obtain ⟨answer, rest, rfl, stored⟩ := Task.runs_ask_bind_iff.mp named
      cases answer with
      | error e =>
        obtain ⟨rfl, rfl⟩ := Task.runs_throw_iff.mp stored
        exact .stored (.error e) wished
      | ok g =>
        obtain ⟨rfl, rfl⟩ := Task.runs_pure_iff.mp stored
        exact .stored (.ok g) wished

/-- The rules are refreshed when they can be read. -/
lemma runs_refresh_of_readable {r : Except Fault (List Filter)} (run : Task.Runs refresh log r)
    (readable : log.Readable) : ∃ filters, r = .ok filters := by
  obtain ⟨filters, -, rfl⟩ | ⟨e, filters, -, -, rfl⟩ | ⟨e, foreign, rfl, -⟩ :=
    runs_refresh_iff.mp run
  · exact ⟨_, rfl⟩
  · exact ⟨filters, rfl⟩
  · have store := readable e (.head _)
    rw [foreign] at store
    cases store

/-- A fault of an update is told or thrown, and nothing is asked. -/
lemma runs_refusal_iff {e : Fault} {r : Except Fault CommandResult} :
    Task.Runs (match updateRefusal? e with
      | some reason => pure (.refused reason)
      | none => throw e) log r ↔ log = [] ∧ r = refusal (.error e) := by
  cases refuses : updateRefusal? e with
  | none =>
    simp only [refusal, refuses]
    exact Task.runs_throw_iff
  | some reason =>
    simp only [refusal, refuses]
    exact Task.runs_pure_iff

/-- An update goes one of the ways of `Updating`. -/
lemma runs_updateFilter {r : Except Fault CommandResult}
    (run : Task.Runs (updateFilter text) log r) :
    Updating text log r := by
  obtain ⟨outcome, log₁, log₂, rfl, stored, later⟩ := Task.runs_attempt_bind_iff.mp run
  cases runs_storeUpdate stored with
  | senseless why senseless =>
    cases why with
    | error e =>
      obtain ⟨rfl, rfl⟩ := runs_refusal_iff.mp later
      exact .senseless senseless
    | ok reason =>
      obtain ⟨rfl, rfl⟩ := Task.runs_pure_iff.mp later
      exact .senseless senseless
  | unread wished =>
    obtain ⟨rfl, rfl⟩ := runs_refusal_iff.mp later
    exact .unread wished
  | missing wished =>
    obtain ⟨rfl, rfl⟩ := Task.runs_pure_iff.mp later
    exact .missing wished
  | @stored command u f answer wished =>
    cases answer with
    | error e =>
      obtain ⟨rfl, rfl⟩ := runs_refusal_iff.mp later
      exact .unsaved wished
    | ok g =>
      obtain ⟨rules, read, rfl⟩ := Task.runs_bind_pure_iff.mp later
      cases rules with
      | error e => exact .saved (.error e) wished read
      | ok filters => exact .saved (.ok filters) wished read

/-- An update asks nothing of the channels. -/
lemma Updating.inward {r : Except Fault CommandResult} (updating : Updating text log r) :
    ∀ x ∈ log, x.request.isOutward = false := by
  cases updating with
  | senseless => exact fun x member => absurd member List.not_mem_nil
  | unread | missing => exact List.forall_mem_singleton.mpr rfl
  | unsaved => exact List.forall_mem_cons.mpr ⟨rfl, List.forall_mem_singleton.mpr rfl⟩
  | saved read _ reading =>
    refine List.forall_mem_append.mpr
      ⟨List.forall_mem_cons.mpr ⟨rfl, List.forall_mem_singleton.mpr rfl⟩, ?_⟩
    exact fun x member => Request.isOutward_of_isReading ((refresh_within.runs reading).1 x member)

/-- An update that the store took succeeds when the rules can be read. -/
lemma Updating.edits {r : Except Fault CommandResult} (updating : Updating text log r) :
    log.Unedited ∨
    ∃ name f u answer rest, log = editing name f u answer ++ rest ∧
      ((∃ e, answer = .error e ∧ rest = []) ∨
        ∃ g read, answer = .ok g ∧ Task.Runs refresh rest read ∧
          ((∃ e, read = .error e ∧ r = .error e) ∨
            ∃ filters result, read = .ok filters ∧ r = .ok result ∧ result.success = true)) := by
  cases updating with
  | senseless => exact .inl unedited_nil
  | unread | missing => exact .inl (unedited_nil.cons rfl)
  | @unsaved command u f e => exact .inr ⟨_, f, u, .error e, [], rfl, .inl ⟨e, rfl, rfl⟩⟩
  | @saved command u f g rest read _ reading =>
    refine .inr ⟨_, f, u, .ok g, rest, rfl, .inr ⟨g, read, rfl, reading, ?_⟩⟩
    cases read with
    | error e => exact .inl ⟨e, rfl, rfl⟩
    | ok filters => exact .inr ⟨filters, updated command u, rfl, rfl, rfl⟩

/-- Confirming asks routes. -/
lemma confirm_within : Task.Within (·.isOutward) (confirm c m text) := by
  refine .bind .result fun found => ?_
  cases found with
  | none => exact .pure
  | some route =>
    refine .ask_bind rfl fun usable => ?_
    obtain e | _ | _ := usable
    · exact .throw
    · exact .pure
    · exact .ask_bind rfl fun _ => .pure

/-- The ways of a confirmation: the source of the message cannot name a route or names none, or the
route that it names does not tell whether it is open, is closed, or is sent the text. -/
inductive Confirming (c : Config) (m : Message) (text : String) :
    Log → Except Fault Unit → Prop where
  | unnamed {e} :
    confirmationRoute c m = .error e →
    Confirming c m text [] (.error e)
  | nowhere :
    confirmationRoute c m = .ok none →
    Confirming c m text [] (.ok ())
  | untold {route e} :
    confirmationRoute c m = .ok (some route) →
    Confirming c m text [⟨.available route, .error e⟩] (.error e)
  | closed {route} :
    confirmationRoute c m = .ok (some route) →
    Confirming c m text [⟨.available route, .ok false⟩] (.ok ())
  | sent {route answer} :
    confirmationRoute c m = .ok (some route) →
    Confirming c m text [⟨.available route, .ok true⟩, ⟨.send route m.sender.phone text, answer⟩]
      (.ok ())

/-- Confirming goes one of the ways of `Confirming`. -/
lemma runs_confirm {r : Except Fault Unit} (run : Task.Runs (confirm c m text) log r) :
    Confirming c m text log r := by
  obtain ⟨e, named, rfl⟩ | ⟨found, log₁, log₂, rfl, named, later⟩ := Task.runs_bind_iff.mp run
  · obtain ⟨rfl, same⟩ := Task.runs_result_iff.mp named
    exact .unnamed same.symm
  obtain ⟨rfl, same⟩ := Task.runs_result_iff.mp named
  cases found with
  | none =>
    obtain ⟨rfl, rfl⟩ := Task.runs_pure_iff.mp later
    exact .nowhere same.symm
  | some route =>
    obtain ⟨usable, rest, rfl, told⟩ := Task.runs_ask_bind_iff.mp later
    obtain e | _ | _ := usable
    · obtain ⟨rfl, rfl⟩ := Task.runs_throw_iff.mp told
      exact .untold same.symm
    · obtain ⟨rfl, rfl⟩ := Task.runs_pure_iff.mp told
      exact .closed same.symm
    · obtain ⟨answer, rest, rfl, sent⟩ := Task.runs_ask_bind_iff.mp told
      obtain ⟨rfl, rfl⟩ := Task.runs_pure_iff.mp sent
      exact .sent same.symm

/-- A confirmation fails just with the faults that keep it from the channel. -/
lemma runs_confirm_error_iff {r : Except Fault Unit} {e : Fault}
    (run : Task.Runs (confirm c m text) log r) :
    r = .error e ↔ UnconfirmedBy c m log e := by
  unfold UnconfirmedBy
  cases runs_confirm run with
  | unnamed named | nowhere named => simp [named, eq_comm]
  | @untold route f named =>
    constructor
    · rintro ⟨⟩
      exact .inr ⟨route, named, .head _⟩
    · rintro (failed | ⟨_, -, _ | ⟨_, ⟨⟩⟩⟩)
      · cases named.symm.trans failed
      · rfl
  | closed named =>
    refine iff_of_false nofun ?_
    rintro (failed | ⟨_, -, _ | ⟨_, ⟨⟩⟩⟩)
    cases named.symm.trans failed
  | sent named =>
    refine iff_of_false nofun ?_
    rintro (failed | ⟨_, -, _ | ⟨_, _ | ⟨_, ⟨⟩⟩⟩⟩)
    cases named.symm.trans failed

/-- A confirmation fails with some fault. -/
lemma unconfirmed_iff : Unconfirmed c m log ↔ ∃ e, UnconfirmedBy c m log e := by
  unfold Unconfirmed UnconfirmedBy
  rw [exists_or, exists_comm]

/-- A confirmation fails just when it does not get to the channel. -/
lemma runs_confirm_iff {r : Except Fault Unit} (run : Task.Runs (confirm c m text) log r) :
    r = .ok () ↔ ¬ Unconfirmed c m log := by
  rw [unconfirmed_iff, not_exists]
  simp only [← runs_confirm_error_iff run]
  cases r with
  | error e => exact iff_of_false nofun fun none => none e rfl
  | ok done => exact iff_of_true rfl nofun

/-- Requests without edits may follow each other. -/
lemma Log.Unedited.append {log₁ log₂ : Log} (first : log₁.Unedited) (second : log₂.Unedited) :
    Log.Unedited (log₁ ++ log₂) :=
  List.forall_mem_append.mpr ⟨first, second⟩

/-- Requests to routes are no edits. -/
lemma Log.unedited_of_isOutward (outward : ∀ x ∈ log, x.request.isOutward = true) : log.Unedited :=
  fun x member => Request.writesFilters_of_isOutward (outward x member)

/-- Requests that read the rules are no edits. -/
lemma Log.unedited_of_isReading (reading : ∀ x ∈ log, x.request.isReading = true) : log.Unedited :=
  fun x member => Request.writesFilters_of_isReading (reading x member)

/-- What keeps a confirmation from the channel was not asked before of others than the channels. -/
lemma unconfirmedBy_append {before told : Log} {e : Fault}
    (inward : ∀ x ∈ before, x.request.isOutward = false) :
    UnconfirmedBy c m (before ++ told) e ↔ UnconfirmedBy c m told e := by
  unfold UnconfirmedBy
  refine or_congr_right (exists_congr fun route => and_congr_right fun _ => ?_)
  rw [List.mem_append, or_iff_right]
  intro member
  cases inward _ member

/-- Whether a confirmation fails is told from the requests to routes. -/
lemma unconfirmed_append {before told : Log} (inward : ∀ x ∈ before, x.request.isOutward = false) :
    Unconfirmed c m (before ++ told) ↔ Unconfirmed c m told := by
  simp only [unconfirmed_iff, unconfirmedBy_append inward]

/-- What follows an update: the operator is told if it succeeded, and the result is handed on. -/
def telling (c : Config) (m : Message) (result : CommandResult) : Task CommandResult := do
  if result.success then confirm c m result.message
  return result

/-- The result is a success. -/
def Succeeds (r : Except Fault CommandResult) : Prop :=
  ∃ result, r = .ok result ∧ result.success = true

/-- A result is told to the sender if the command succeeded. -/
lemma runs_telling_iff {result : CommandResult} {r : Except Fault CommandResult} :
    Task.Runs (telling c m result) log r ↔
      (result.success = false ∧ log = [] ∧ r = .ok result) ∨
      (result.success = true ∧ ∃ told, Task.Runs (confirm c m result.message) log told ∧
        r = told.map fun _ => result) := by
  unfold telling
  cases success : result.success with
  | false => simp [Task.runs_pure_iff]
  | true =>
    simp only [if_true, reduceCtorEq, false_and, true_and, false_or]
    exact Task.runs_bind_pure_iff

/-- Telling edits nothing, and succeeds unless the confirmation fails. -/
lemma runs_telling {result : CommandResult} {r : Except Fault CommandResult}
    (run : Task.Runs (telling c m result) log r) :
    log.Unedited ∧ (result.success = true → (Succeeds r ↔ ¬ Unconfirmed c m log)) := by
  obtain ⟨failed, rfl, -⟩ | ⟨success, told, confirming, rfl⟩ := runs_telling_iff.mp run
  · refine ⟨unedited_nil, fun success => ?_⟩
    cases failed.symm.trans success
  · refine ⟨Log.unedited_of_isOutward (confirm_within.runs confirming).1, fun _ => ?_⟩
    rw [← runs_confirm_iff confirming]
    cases told with
    | error e => exact iff_of_false (fun ⟨_, impossible, _⟩ => nomatch impossible) nofun
    | ok u => exact iff_of_true ⟨result, rfl, success⟩ rfl

/-- The two ways of a command: nothing is stored; or an edited filter is handed to the store, and if
the store takes it, the command succeeds unless its confirmation fails. -/
def Ordered (c : Config) (m : Message) (log : Log) (succeeds : Prop) : Prop :=
  log.Unedited ∨
  ∃ name f u answer rest, log = editing name f u answer ++ rest ∧ rest.Unedited ∧
    ∀ g, answer = .ok g → rest.Readable → (succeeds ↔ ¬ Unconfirmed c m rest)

/-- An update succeeds or not as `Ordered` says. -/
lemma runs_update {r : Except Fault CommandResult}
    (run : Task.Runs (updateFilter text >>= telling c m) log r) : Ordered c m log (Succeeds r) := by
  obtain ⟨e, updating, rfl⟩ | ⟨result, log₁, told, rfl, updating, later⟩ :=
    Task.runs_bind_iff.mp run
  · obtain quiet | ⟨name, f, u, answer, rest, rfl,
        ⟨e, rfl, rfl⟩ | ⟨g, read, rfl, reading, ended⟩⟩ :=
      (runs_updateFilter updating).edits
    · exact .inl quiet
    · exact .inr ⟨name, f, u, _, [], rfl, unedited_nil, fun g taken => by cases taken⟩
    · -- only a failure that is no store's could have kept the result from the operator
      refine .inr
        ⟨name, f, u, _, rest, rfl, Log.unedited_of_isReading (refresh_within.runs reading).1,
        fun _ _ readable => ?_⟩
      obtain ⟨filters, rfl⟩ := runs_refresh_of_readable reading readable
      obtain ⟨_, impossible, -⟩ | ⟨_, _, -, impossible, -⟩ := ended <;> cases impossible
  · obtain ⟨quietly, tells⟩ := runs_telling later
    obtain quiet | ⟨name, f, u, answer, rest, rfl,
        ⟨e, rfl, rfl⟩ | ⟨g, read, rfl, reading, ended⟩⟩ :=
      (runs_updateFilter updating).edits
    · exact .inl (quiet.append quietly)
    · exact .inr
        ⟨name, f, u, _, told, by rw [List.append_nil], quietly, fun g taken => by cases taken⟩
    · have reads := (refresh_within.runs reading).1
      refine .inr ⟨name, f, u, _, rest ++ told, List.append_assoc ..,
        (Log.unedited_of_isReading reads).append quietly, fun _ _ _ => ?_⟩
      rw [unconfirmed_append fun x member => Request.isOutward_of_isReading (reads x member)]
      obtain ⟨_, -, impossible⟩ | ⟨_, _, -, same, success⟩ := ended
      · cases impossible
      · cases same
        exact tells success

/-- Listing asks for all filters. -/
lemma listFilters_within {P : Request → Prop} (asks : P .allFilters) :
    Task.Within P listFilters := by
  refine .ask_bind asks fun answer => ?_
  cases answer with
  | ok filters => exact .pure
  | error e =>
    cases store : e.isStore with
    | true =>
      simp only [store]
      exact .pure
    | false =>
      simp only [store]
      exact .throw

/-- What is done about an intent. -/
def carrying (c : Config) (m : Message) : Command.Intent → Task CommandResult
  | .help => return ⟨true, Command.helpText⟩
  | .list => listFilters
  | .update => updateFilter m.text.shown >>= telling c m
  | .unknown => return .refused notRecognized

/-- A command is refused to others than operators, and else what is done about its intent is
done. -/
lemma runs_handle_iff {r : Except Fault CommandResult} :
    Task.Runs (handle c m) log r ↔
      (c.isAdmin m = false ∧ log = [] ∧ r = .ok (.refused unauthorized)) ∨
      (c.isAdmin m = true ∧
        ((∃ e, Command.Intent.ofJson m.text = .error e ∧ log = [] ∧ r = .error e) ∨
          ∃ intent, Command.Intent.ofJson m.text = .ok intent ∧
            Task.Runs (carrying c m intent) log r)) := by
  unfold handle
  cases admin : c.isAdmin m with
  | false => simp [Task.runs_pure_iff]
  | true =>
    simp only [Bool.not_true, Bool.false_eq_true, if_false, reduceCtorEq, false_and,
      true_and, false_or]
    cases asks : Command.Intent.ofJson m.text with
    | error e =>
      simp only [Except.error.injEq, reduceCtorEq, false_and, exists_false, or_false,
        exists_eq_left']
      exact Task.runs_throw_iff
    | ok intent =>
      simp only [Except.ok.injEq, reduceCtorEq, false_and, exists_false, false_or, exists_eq_left']
      cases intent <;> rfl

/-- A command has one of the two ways, whatever goes wrong. -/
lemma runs_handle {r : Except Fault CommandResult} (run : Task.Runs (handle c m) log r) :
    Ordered c m log (Succeeds r) := by
  obtain ⟨-, rfl, -⟩ | ⟨-, ⟨e, -, rfl, -⟩ | ⟨intent, -, carried⟩⟩ := runs_handle_iff.mp run
  · exact .inl unedited_nil
  · exact .inl unedited_nil
  cases intent with
  | help =>
    obtain ⟨rfl, -⟩ := Task.runs_pure_iff.mp carried
    exact .inl unedited_nil
  | list => exact .inl ((listFilters_within (P := (·.writesFilters = false)) rfl).runs carried).1
  | update => exact runs_update carried
  | unknown =>
    obtain ⟨rfl, -⟩ := Task.runs_pure_iff.mp carried
    exact .inl unedited_nil

/-- What the operator gets: the result of the command, or that it failed. -/
def resultOf : Except Fault CommandResult → CommandResult
  | .ok result => result
  | .error _ => .refused internalError

/-- A command that fails has its fault for a result. -/
lemma runs_handleCommand_iff {r : Except Fault CommandResult} :
    Task.Runs (handleCommand c m) log r ↔
      ∃ outcome, Task.Runs (handle c m) log outcome ∧ r = .ok (resultOf outcome) := by
  constructor
  · intro run
    obtain ⟨outcome, log₁, log₂, rfl, handled, later⟩ := Task.runs_attempt_bind_iff.mp run
    cases outcome with
    | ok result | error e =>
      obtain ⟨rfl, rfl⟩ := Task.runs_pure_iff.mp later
      rw [List.append_nil]
      exact ⟨_, handled, rfl⟩
  · rintro ⟨outcome, handled, rfl⟩
    refine Task.runs_attempt_bind_iff.mpr
      ⟨outcome, log, [], (List.append_nil log).symm, handled, ?_⟩
    cases outcome with
    | ok result | error e => exact Task.runs_pure_iff.mpr ⟨rfl, rfl⟩

/-- Such a result is no success. -/
lemma succeeds_resultOf {outcome : Except Fault CommandResult} :
    (resultOf outcome).success = true ↔ Succeeds outcome := by
  cases outcome with
  | ok result => simp [resultOf, Succeeds]
  | error e => simp [resultOf, Succeeds, CommandResult.refused]

/-- A command always ends with a result. -/
lemma runs_handleCommand {r : Except Fault CommandResult}
    (run : Task.Runs (handleCommand c m) log r) :
    ∃ result, r = .ok result ∧ Ordered c m log (result.success = true) := by
  obtain ⟨outcome, handled, rfl⟩ := runs_handleCommand_iff.mp run
  have ordered := runs_handle handled
  rw [← propext succeeds_resultOf] at ordered
  exact ⟨_, rfl, ordered⟩

end ChatTriage.Desk
