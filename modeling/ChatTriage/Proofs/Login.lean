import ChatTriage.Login
import ChatTriage.Proofs.Dialogue.Work

/-!
# What logging in comes to

All the ways that logging in can take: what the client is asked, what it answers, which lines are
read, and with what it ends (`Login.Authorizes`). There is one attempt by the chosen method, or
none; a password is sent only after an attempt that asked for it, and what is told in the end is
what the client answered last: `Login.authorize_confirmed`.
-/

namespace ChatTriage.Login

open Dialogue

/-- What the client was asked, and what it answered. -/
abbrev Log : Type := List (Exchange service)

/-- The menu takes a line for an answer. -/
def Answers (line : String) : Prop :=
  Text.trim line = "1" ∨ Text.trim line = "2" ∨ Text.trim line = "3"

/-- What the menu comes to, and the lines that are left: it reads up to the first line that answers
it, or to the end. -/
inductive Picks : List String → Except Fault Method → List String → Prop where
  | qr {passed line left} :
    (∀ l ∈ passed, ¬ Answers l) →
    Text.trim line = "1" →
    Picks (passed ++ line :: left) (.ok .qr) left
  | phone {passed line left} :
    (∀ l ∈ passed, ¬ Answers l) →
    Text.trim line = "2" →
    Picks (passed ++ line :: left) (.ok .phone) left
  | exit {passed line left} :
    (∀ l ∈ passed, ¬ Answers l) →
    Text.trim line = "3" →
    Picks (passed ++ line :: left) (.error (.exit 0)) left
  | ended {lines} :
    (∀ l ∈ lines, ¬ Answers l) →
    Picks lines (.error .endOfInput) []

/-- The word for a method in the environment. -/
def Method.word : Method → String
  | .qr => "qr"
  | .phone => "phone"

/-- The environment names a method, in any letter case. -/
def Names (env : Environment) (m : Method) : Prop :=
  ∃ text, env.get? "LOGIN_METHOD" = some text ∧ Text.lower (Text.trim text) = m.word

/-- The method that is chosen, and the lines that are left: the one that the environment names, or
what the menu comes to. -/
inductive Chooses (env : Environment) : List String → Except Fault Method → List String → Prop where
  | named {m lines} :
    Names env m →
    Chooses env lines (.ok m) lines
  | asked {lines chosen left} :
    (∀ m, ¬ Names env m) →
    Picks lines chosen left →
    Chooses env lines chosen left

/-- A value that is set in the environment, or else read off the next line. -/
inductive Given (env : Environment) (name : String) (read : String → String) :
    List String → Except Fault String → List String → Prop where
  | set {value lines} :
    env.nonEmpty? name = some value →
    Given env name read lines (.ok value) lines
  | typed {line left} :
    env.nonEmpty? name = none →
    Given env name read (line :: left) (.ok (read line)) left
  | missing :
    env.nonEmpty? name = none →
    Given env name read [] (.error .endOfInput) []

/-- The ways of an attempt by a method: which lines are read, what the client is asked for, and how
it ends. -/
inductive Attempts (env : Environment) :
    Method → List String → Log → Except Fault Unit → List String → Prop where
  | unshown {lines f} :
    Attempts env .qr lines [⟨.requestQr, .error f⟩] (.error f) lines
  | shown {lines url x} :
    Attempts env .qr lines [⟨.requestQr, .ok url⟩, ⟨.awaitScan qrSeconds, x⟩] x lines
  | unnumbered {lines f left} :
    Given env "PHONE" Text.trim lines (.error f) left →
    Attempts env .phone lines [] (.error f) left
  | unsent {lines phone f left} :
    Given env "PHONE" Text.trim lines (.ok phone) left →
    Attempts env .phone lines [⟨.requestCode phone, .error f⟩] (.error f) left
  | uncoded {lines phone} :
    Given env "PHONE" Text.trim lines (.ok phone) [] →
    Attempts env .phone lines [⟨.requestCode phone, .ok ()⟩] (.error .endOfInput) []
  | coded {lines phone line left x} :
    Given env "PHONE" Text.trim lines (.ok phone) (line :: left) →
    Attempts env .phone lines
      [⟨.requestCode phone, .ok ()⟩, ⟨.signIn (.code phone (Text.trim line)), x⟩] x left

/-- The ways of the last question, whether the session is authorized. -/
inductive Concludes : Log → Except Fault Bool → Prop where
  | unknown {f} :
    Concludes [⟨.isAuthorized, .error f⟩] (.error f)
  | refused :
    Concludes [⟨.isAuthorized, .ok false⟩] (.ok false)
  | confirmed {x : Except Fault Unit} :
    Concludes [⟨.isAuthorized, .ok true⟩, ⟨.profile, x⟩] (x.map fun _ => true)

/-- What becomes of an attempt: a password is sent if it ended because one is needed, and any other
fault stays. -/
inductive Resolves (env : Environment) :
    Except Fault Unit → List String → Log → Except Fault Unit → List String →
    Prop where
  | done {lines} :
    Resolves env (.ok ()) lines [] (.ok ()) lines
  | failed {lines f} :
    f ≠ .passwordNeeded →
    Resolves env (.error f) lines [] (.error f) lines
  | unread {lines f left} :
    Given env "2FA" id lines (.error f) left →
    Resolves env (.error .passwordNeeded) lines [] (.error f) left
  | sent {lines password x left} :
    Given env "2FA" id lines (.ok password) left →
    Resolves env (.error .passwordNeeded) lines [⟨.signIn (.password password), x⟩] x left

/-- The ways of logging in: which lines are read, what the client is asked and answers, and what is
told in the end. A session that is authorized needs nothing; else there is one attempt, unless no
method is chosen, and what its fault leaves is the end, or the last question is. -/
inductive Authorizes (env : Environment) :
    List String → Log → Except Fault Bool → List String → Prop where
  | unknown {lines f} :
    Authorizes env lines [⟨.isAuthorized, .error f⟩] (.error f) lines
  | known {lines} :
    Authorizes env lines [⟨.isAuthorized, .ok true⟩] (.ok true) lines
  | unchosen {lines f left} :
    Chooses env lines (.error f) left →
    Authorizes env lines [⟨.isAuthorized, .ok false⟩] (.error f) left
  | broken {lines m lines₁ attempt outcome lines₂ signing f left} :
    Chooses env lines (.ok m) lines₁ →
    Attempts env m lines₁ attempt outcome lines₂ →
    Resolves env outcome lines₂ signing (.error f) left →
    Authorizes env lines (⟨.isAuthorized, .ok false⟩ :: (attempt ++ signing)) (.error f) left
  | concluded {lines m lines₁ attempt outcome lines₂ signing last r left} :
    Chooses env lines (.ok m) lines₁ →
    Attempts env m lines₁ attempt outcome lines₂ →
    Resolves env outcome lines₂ signing (.ok ()) left →
    Concludes last r →
    Authorizes env lines (⟨.isAuthorized, .ok false⟩ :: (attempt ++ signing ++ last)) r left

variable {env : Environment} {c c' : Console} {log attempt signing ending before after : Log}
  {e : Exchange service} {lines lines' left : List String} {line name text : String}
  {m : Method} {chosen : Except Fault Method} {outcome x : Except Fault Unit}
    {r : Except Fault Bool} {f : Fault}

/-! ### The menu -/

/-- A line that does not answer the menu is passed over. -/
lemma Picks.pass (ignored : ¬ Answers line) (picks : Picks lines chosen left) :
    Picks (line :: lines) chosen left := by
  cases picks with
  | qr passed one => exact .qr (List.forall_mem_cons.mpr ⟨ignored, passed⟩) one
  | phone passed two => exact .phone (List.forall_mem_cons.mpr ⟨ignored, passed⟩) two
  | exit passed three => exact .exit (List.forall_mem_cons.mpr ⟨ignored, passed⟩) three
  | ended passed => exact .ended (List.forall_mem_cons.mpr ⟨ignored, passed⟩)

/-- The choices that a line can make. -/
lemma Choice.of_cases (line : String) :
    (Text.trim line = "1" ∧ Choice.of line = .method .qr) ∨
      (Text.trim line = "2" ∧ Choice.of line = .method .phone) ∨
        (Text.trim line = "3" ∧ Choice.of line = .exit) ∨ ¬ Answers line ∧
          Choice.of line = .invalid := by
  unfold Choice.of Answers
  by_cases one : Text.trim line = "1"
  · exact .inl ⟨one, by simp [one]⟩
  by_cases two : Text.trim line = "2"
  · exact .inr (.inl ⟨two, by simp [two]⟩)
  by_cases three : Text.trim line = "3"
  · exact .inr (.inr (.inl ⟨three, by simp [three]⟩))
  · exact .inr (.inr (.inr ⟨by simp [one, two, three], by simp [one, two, three]⟩))

/-- The menu picks a method as `Picks` says. -/
lemma picks_chooseFrom (lines : List String) (c : Console) :
    Picks lines (chooseFrom lines c).1 (chooseFrom lines c).2.lines := by
  induction lines generalizing c with
  | nil =>
    unfold chooseFrom
    exact .ended fun l none => absurd none List.not_mem_nil
  | cons line lines ih =>
    have first : ∀ l ∈ ([] : List String), ¬ Answers l := fun l none => absurd none List.not_mem_nil
    unfold chooseFrom
    obtain ⟨one, chosen⟩ | ⟨two, chosen⟩ | ⟨three, chosen⟩ | ⟨ignored, chosen⟩ :=
      Choice.of_cases line
    · simp only [chosen]
      exact .qr first one
    · simp only [chosen]
      exact .phone first two
    · simp only [chosen]
      exact .exit first three
    · simp only [chosen]
      exact (ih _).pass ignored

/-- A method is configured when the environment names it. -/
lemma configured?_eq_some_iff : configured? env = some m ↔ Names env m := by
  unfold configured? Names
  cases env.get? "LOGIN_METHOD" with
  | none =>
    have blank : Text.lower (Text.trim "") = "" := by decide
    simp [blank]
  | some text =>
    simp only [Option.getD_some, Option.some.injEq, exists_eq_left']
    split
    · rename_i qr
      cases m <;> simp [Method.word, qr]
    · split
      · rename_i phone
        cases m <;> simp [Method.word, phone]
      · rename_i qr phone
        cases m <;> simp [Method.word, qr, phone]

/-- Choosing a method asks the client nothing. -/
lemma works_chooseMethod (run : Works (chooseMethod env) c log chosen c') :
    log = [] ∧ Chooses env c.lines chosen c'.lines := by
  unfold chooseMethod at run
  cases named : configured? env with
  | some m =>
    rw [named] at run
    obtain ⟨rfl, rfl, rfl⟩ := works_pure_iff.mp run
    exact ⟨rfl, .named (configured?_eq_some_iff.mp named)⟩
  | none =>
    rw [named] at run
    obtain ⟨rfl, same⟩ := runs_done_iff.mp run
    have unnamed (m) : ¬ Names env m := fun names => by
      rw [configured?_eq_some_iff.mpr names] at named
      cases named
    have picks := picks_chooseFrom c.lines c
    rw [← same] at picks
    exact ⟨rfl, .asked unnamed picks⟩

/-- What the menu fails with is not that a password is needed. -/
lemma Chooses.ne_passwordNeeded (chooses : Chooses env lines (.error f) left) :
    f ≠ .passwordNeeded := by
  rintro rfl
  cases chooses with
  | asked _ picks => cases picks

/-! ### The attempt -/

/-- A question is answered by the next line, if there is one. -/
lemma works_question {x : Except Fault String} (run : Works (question text) c log x c') :
    log = [] ∧ ((c.lines = [] ∧ x = .error .endOfInput ∧ c'.lines = []) ∨
      ∃ line, c.lines = line :: c'.lines ∧ x = .ok line) := by
  unfold question at run
  rw [works_modify_bind_iff, works_get_bind_iff] at run
  split at run
  · rename_i none
    obtain ⟨rfl, rfl, rfl⟩ := works_throw_iff.mp run
    exact ⟨rfl, .inl ⟨none, rfl, none⟩⟩
  · rename_i line rest typed
    rw [works_modify_bind_iff] at run
    obtain ⟨rfl, rfl, rfl⟩ := works_pure_iff.mp run
    exact ⟨rfl, .inr ⟨line, typed, rfl⟩⟩

/-- Neither does finding a value. -/
lemma works_given {read : String → String} {x : Except Fault String}
    (run : Works (given env name text read) c log x c') :
    log = [] ∧ Given env name read c.lines x c'.lines := by
  unfold given at run
  split at run
  · rename_i value set
    obtain ⟨rfl, rfl, rfl⟩ := works_pure_iff.mp run
    exact ⟨rfl, .set set⟩
  · rename_i unset
    obtain ⟨typed, asked, rfl⟩ := works_map_iff.mp run
    obtain ⟨rfl, ⟨none, rfl, left⟩ | ⟨line, some, rfl⟩⟩ := works_question asked
    · rw [none, left]
      exact ⟨rfl, .missing unset⟩
    · rw [some]
      exact ⟨rfl, .typed unset⟩

/-- An attempt by code goes one of the ways of `Attempts`. -/
lemma works_byQr (run : Works byQr c log outcome c') :
    Attempts env .qr c.lines log outcome c'.lines := by
  obtain ⟨answer, rest, rfl, shown⟩ := works_request_bind_iff.mp run
  obtain ⟨f, rfl, rfl, rfl, rfl⟩ | ⟨url, rfl, drawn⟩ := works_result_bind_iff.mp shown
  · exact .unshown
  · obtain ⟨x, last, rfl, ended⟩ := works_request_bind_iff.mp drawn
    obtain ⟨rfl, rfl, rfl⟩ := works_result_iff.mp ended
    exact .shown

/-- So does an attempt by phone. -/
lemma works_byPhone (run : Works (byPhone env) c log outcome c') :
    Attempts env .phone c.lines log outcome c'.lines := by
  obtain ⟨f, unread, rfl⟩ | ⟨phone, c₁, log₁, log₂, rfl, read, later⟩ := works_bind_iff.mp run
  · obtain ⟨rfl, given⟩ := works_given unread
    exact .unnumbered given
  · obtain ⟨rfl, given⟩ := works_given read
    obtain ⟨answer, rest, rfl, sent⟩ := works_request_bind_iff.mp later
    obtain ⟨f, rfl, rfl, rfl, rfl⟩ | ⟨⟨⟩, rfl, coded⟩ := works_result_bind_iff.mp sent
    · exact .unsent given
    · obtain ⟨f, untyped, rfl⟩ | ⟨code, c₂, log₃, log₄, rfl, typed, last⟩ := works_bind_iff.mp coded
      · obtain ⟨x, asked, failed⟩ := works_map_iff.mp untyped
        obtain ⟨rfl, ⟨none, rfl, left⟩ | ⟨line, -, rfl⟩⟩ := works_question asked
        · cases failed
          rw [none] at given
          rw [left]
          exact .uncoded given
        · cases failed
      · obtain ⟨x, asked, made⟩ := works_map_iff.mp typed
        obtain ⟨rfl, ⟨-, rfl, -⟩ | ⟨line, some, rfl⟩⟩ := works_question asked
        · cases made
        · cases made
          obtain ⟨x, end_, rfl, ended⟩ := works_request_bind_iff.mp last
          obtain ⟨rfl, rfl, rfl⟩ := works_result_iff.mp ended
          rw [some] at given
          exact .coded given

/-- So does an attempt by either method. -/
lemma works_logIn (run : Works (m.logIn env) c log outcome c') :
    Attempts env m c.lines log outcome c'.lines := by
  cases m with
  | qr => exact works_byQr run
  | phone => exact works_byPhone run

/-- The flow is one attempt by the method that is chosen, or none. -/
lemma works_flow (run : Works (flow env) c log outcome c') :
    (∃ f, outcome = .error f ∧ log = [] ∧ Chooses env c.lines (.error f) c'.lines) ∨
      ∃ m lines, Chooses env c.lines (.ok m) lines ∧ Attempts env m lines log outcome c'.lines := by
  obtain ⟨f, unchosen, rfl⟩ | ⟨m, c₁, log₁, log₂, rfl, chosen, attempted⟩ := works_bind_iff.mp run
  · obtain ⟨rfl, chooses⟩ := works_chooseMethod unchosen
    exact .inl ⟨f, rfl, rfl, chooses⟩
  · obtain ⟨rfl, chooses⟩ := works_chooseMethod chosen
    exact .inr ⟨m, c₁.lines, chooses, works_logIn attempted⟩

/-! ### The end -/

/-- The last question goes one of the ways of `Concludes`. -/
lemma works_conclude (run : Works conclude c log r c') : Concludes log r ∧ c' = c := by
  obtain ⟨answer, rest, rfl, told⟩ := works_request_bind_iff.mp run
  obtain ⟨f, rfl, rfl, rfl, rfl⟩ | ⟨b, rfl, rest⟩ := works_result_bind_iff.mp told
  · exact ⟨.unknown, rfl⟩
  · cases b with
    | false =>
      obtain ⟨rfl, rfl, rfl⟩ := works_pure_iff.mp rest
      exact ⟨.refused, rfl⟩
    | true =>
      obtain ⟨x, last, rfl, noted⟩ := works_request_bind_iff.mp rest
      obtain ⟨f, rfl, rfl, rfl, rfl⟩ | ⟨⟨⟩, rfl, ended⟩ := works_result_bind_iff.mp noted
      · exact ⟨.confirmed, rfl⟩
      · obtain ⟨rfl, rfl, rfl⟩ := works_pure_iff.mp ended
        exact ⟨.confirmed, rfl⟩

/-- After an attempt a password is sent if one is needed. -/
lemma works_withPassword {work : Work Unit} (run : Works (withPassword env work) c log outcome c') :
    ∃ x c₁ log₁ log₂, log = log₁ ++ log₂ ∧ Works work c log₁ x c₁ ∧
      Resolves env x c₁.lines log₂ outcome c'.lines := by
  obtain ⟨x, c₁, log₁, log₂, rfl, worked, later⟩ := works_attempt_bind_iff.mp run
  refine ⟨x, c₁, log₁, log₂, rfl, worked, ?_⟩
  split at later
  · obtain ⟨rfl, rfl, rfl⟩ := works_pure_iff.mp later
    exact .done
  · obtain ⟨f, unread, rfl⟩ | ⟨password, c₂, log₃, log₄, rfl, read, sent⟩ := works_bind_iff.mp later
    · obtain ⟨rfl, given⟩ := works_given unread
      exact .unread given
    · obtain ⟨rfl, given⟩ := works_given read
      obtain ⟨x, last, rfl, ended⟩ := works_request_bind_iff.mp sent
      obtain ⟨rfl, rfl, rfl⟩ := works_result_iff.mp ended
      exact .sent given
  · rename_i other
    obtain ⟨rfl, rfl, rfl⟩ := works_throw_iff.mp later
    exact .failed other

/-- A fault that is not about a password stays, and nothing more is asked. -/
lemma Resolves.of_ne (resolves : Resolves env (.error f) lines log outcome left)
    (other : f ≠ .passwordNeeded) :
    log = [] ∧ outcome = .error f ∧ left = lines := by
  cases resolves with
  | failed _ => exact ⟨rfl, rfl, rfl⟩
  | unread _ => exact absurd rfl other
  | sent _ => exact absurd rfl other

/-- The lines, the questions and the end of a login are one of the ways of logging in. -/
lemma works_authorize (run : Works (authorize env) c log r c') :
    Authorizes env c.lines log r c'.lines := by
  obtain ⟨answer, rest, rfl, told⟩ := works_request_bind_iff.mp run
  obtain ⟨f, rfl, rfl, rfl, rfl⟩ | ⟨known, rfl, later⟩ := works_result_bind_iff.mp told
  · exact .unknown
  cases known with
  | true =>
    obtain ⟨rfl, rfl, rfl⟩ := works_pure_iff.mp later
    exact .known
  | false =>
    obtain ⟨f, broken, rfl⟩ | ⟨⟨⟩, c₂, log₁, last, rfl, resolved, ended⟩ := works_bind_iff.mp later
    · obtain ⟨outcome, c₁, attempt, signing, rfl, flows, resolves⟩ := works_withPassword broken
      obtain ⟨f', rfl, rfl, chooses⟩ | ⟨m, lines, chooses, attempts⟩ := works_flow flows
      · obtain ⟨rfl, same, left⟩ := resolves.of_ne chooses.ne_passwordNeeded
        cases same
        rw [left]
        exact .unchosen chooses
      · exact .broken chooses attempts resolves
    · obtain ⟨outcome, c₁, attempt, signing, rfl, flows, resolves⟩ := works_withPassword resolved
      obtain ⟨concludes, rfl⟩ := works_conclude ended
      obtain ⟨f', rfl, rfl, chooses⟩ | ⟨m, lines, chooses, attempts⟩ := works_flow flows
      · obtain ⟨-, impossible, -⟩ := resolves.of_ne chooses.ne_passwordNeeded
        cases impossible
      · exact .concluded chooses attempts resolves concludes

/-! ### What holds of every way -/

/-- A password is sent. -/
def Request.isPassword : Request → Bool
  | .signIn (.password _) => true
  | _ => false

/-- What the client answered when it was asked whether the session is authorized. -/
def confirmation? : Exchange service → Option (Except Fault Bool)
  | ⟨.isAuthorized, x⟩ => some x
  | _ => none

/-- No attempt sends a password. -/
lemma Attempts.passwordless (attempts : Attempts env m lines log outcome left) :
    ∀ e ∈ log, e.request.isPassword = false := by
  cases attempts <;> simp [Request.isPassword]

/-- Neither does the last question. -/
lemma Concludes.passwordless (concludes : Concludes log r) :
    ∀ e ∈ log, e.request.isPassword = false := by
  cases concludes <;> simp [Request.isPassword]

/-- What is sent as a password after an attempt is sent at once, and because the attempt asked for
it. -/
lemma Resolves.password (resolves : Resolves env outcome lines signing x left)
    (none : ∀ e ∈ ending, e.request.isPassword = false)
    (split : signing ++ ending = before ++ e :: after)
    (password : e.request.isPassword = true) :
    before = [] ∧ outcome = .error .passwordNeeded ∧ after = ending := by
  have elsewhere (before : Log) (split : ending = before ++ e :: after) : False := by
    have impossible := none e (split ▸ List.mem_append_right before List.mem_cons_self)
    rw [password] at impossible
    cases impossible
  cases resolves with
  | sent _ =>
    cases before with
    | nil => exact ⟨rfl, rfl, (List.cons.inj split).2.symm⟩
    | cons _ before => exact (elsewhere before (List.cons.inj split).2).elim
  | _ => exact (elsewhere before split).elim

/-- A password that is sent follows an attempt that asked for it, and is the only one. -/
lemma Attempts.password (attempts : Attempts env m lines attempt outcome left)
    (resolves : Resolves env outcome left signing x lines')
    (none : ∀ e ∈ ending, e.request.isPassword = false)
    (split : ⟨.isAuthorized, .ok false⟩ :: (attempt ++ (signing ++ ending)) = before ++ e :: after)
    (password : e.request.isPassword = true) :
    before = ⟨.isAuthorized, .ok false⟩ :: attempt ∧ outcome = .error .passwordNeeded ∧
      after = ending := by
  cases before with
  | nil =>
    cases (List.cons.inj split).1
    cases password
  | cons _ before =>
    obtain ⟨rfl, rest⟩ := List.cons.inj split
    obtain ⟨between, rfl, later⟩ | ⟨between, rfl, later⟩ := List.append_eq_append_iff.mp rest
    · obtain ⟨rfl, needed, same⟩ := resolves.password none later password
      exact ⟨by rw [List.append_nil], needed, same⟩
    · cases between with
      | nil =>
        have first : signing ++ ending = [] ++ e :: after := later.symm
        obtain ⟨-, needed, same⟩ := resolves.password none first password
        exact ⟨by rw [List.append_nil], needed, same⟩
      | cons _ between =>
        obtain ⟨rfl, -⟩ := List.cons.inj later
        have impossible := attempts.passwordless e (List.mem_append_right before List.mem_cons_self)
        rw [password] at impossible
        cases impossible

/-- A password is sent once at most, after an attempt that asked for it. -/
lemma Authorizes.password (authorizes : Authorizes env lines log r left)
    (split : log = before ++ e :: after)
    (password : e.request.isPassword = true) :
    (∃ m lines attempt left, before = ⟨.isAuthorized, .ok false⟩ :: attempt ∧
      Attempts env m lines attempt (.error .passwordNeeded) left) ∧
      ∀ e ∈ after, e.request.isPassword = false := by
  have alone {x} (split : [⟨.isAuthorized, x⟩] = before ++ e :: after) : False := by
    have member : e ∈ [⟨.isAuthorized, x⟩] :=
      split ▸ List.mem_append_right before List.mem_cons_self
    cases List.mem_singleton.mp member
    cases password
  cases authorizes with
  | broken _ attempts resolves =>
    rw [← List.append_nil (_ ++ _), List.append_assoc] at split
    obtain ⟨rfl, rfl, rfl⟩ :=
      attempts.password resolves (fun e none => absurd none List.not_mem_nil) split password
    exact ⟨⟨_, _, _, _, rfl, attempts⟩, fun e none => absurd none List.not_mem_nil⟩
  | concluded _ attempts resolves concludes =>
    rw [List.append_assoc] at split
    obtain ⟨rfl, rfl, rfl⟩ := attempts.password resolves concludes.passwordless split password
    exact ⟨⟨_, _, _, _, rfl, attempts⟩, concludes.passwordless⟩
  | _ => exact (alone split).elim

/-- The last question has the last word. -/
lemma Concludes.getLast?_confirmations {b : Bool} (concludes : Concludes log (.ok b)) :
    (log.filterMap confirmation?).getLast? = some (.ok b) := by
  generalize told : Except.ok b = r at concludes
  cases concludes with
  | unknown => cases told
  | refused =>
    cases told
    rfl
  | @confirmed x =>
    cases x with
    | error f => cases told
    | ok _ =>
      cases told
      rfl

/-- What is told in the end is what the client answered last. -/
lemma Authorizes.getLast?_confirmations {b : Bool}
    (authorizes : Authorizes env lines log (.ok b) left) :
    (log.filterMap confirmation?).getLast? = some (.ok b) := by
  cases authorizes with
  | known => rfl
  | concluded _ _ _ concludes =>
    rw [← List.cons_append, List.filterMap_append, List.getLast?_append,
      concludes.getLast?_confirmations]
    rfl

/-- A session that is known to be authorized is left at that. -/
lemma works_authorize_known (run : Works (authorize env) c log r c')
    (known : log.head? = some ⟨.isAuthorized, .ok true⟩) :
    log = [⟨.isAuthorized, .ok true⟩] ∧ r = .ok true ∧ c' = c := by
  obtain ⟨answer, rest, rfl, told⟩ := works_request_bind_iff.mp run
  cases Option.some.inj known
  obtain ⟨rfl, rfl, rfl⟩ := works_pure_iff.mp told
  exact ⟨rfl, rfl, rfl⟩

/-- Every login goes one of the ways of logging in. A session that is known to be authorized is left
at that, and the console too. A password is sent once at most, after an attempt that asked for it,
and what is told in the end is what the client answered last. -/
theorem authorize_confirmed (run : Works (authorize env) c log r c') :
    Authorizes env c.lines log r c'.lines ∧
      (log.head? = some ⟨.isAuthorized, .ok true⟩ → log = [⟨.isAuthorized, .ok true⟩] ∧
        r = .ok true ∧ c' = c) ∧
      (∀ before e after, log = before ++ e :: after → e.request.isPassword = true →
        (∃ m lines attempt left, before = ⟨.isAuthorized, .ok false⟩ :: attempt ∧
          Attempts env m lines attempt (.error .passwordNeeded) left) ∧
        ∀ e ∈ after, e.request.isPassword = false) ∧
      ∀ b, r = .ok b → (log.filterMap confirmation?).getLast? = some (.ok b) := by
  have authorizes := works_authorize run
  refine ⟨authorizes, works_authorize_known run, fun before e after split password => ?_,
    fun b told => ?_⟩
  · exact authorizes.password split password
  · subst told
    exact authorizes.getLast?_confirmations

namespace Sample

/-- What is typed: an answer that the menu does not know, one that it knows, and a password. -/
def typed : Console :=
  { lines := ["0", " 1 ", "sesame"] }

/-- A client that asks for a password when its code was read, and then confirms the session. -/
def admission : Log :=
  [⟨.isAuthorized, .ok false⟩, ⟨.requestQr, .ok "tg://login?token=AAA"⟩,
    ⟨.awaitScan 120, .error .passwordNeeded⟩, ⟨.signIn (.password "sesame"), .ok ()⟩,
    ⟨.isAuthorized, .ok true⟩, ⟨.profile, .ok ()⟩]

end Sample

open Sample in
/-- The menu is answered by the second line, and the password is sent after the code was read. -/
theorem authorize_confirmed_with_password :
    ∃ c', Works (authorize []) typed admission (.ok true) c' ∧
      Authorizes [] typed.lines admission (.ok true) c'.lines ∧
      c'.lines = [] ∧ (admission.filterMap confirmation?).getLast? = some (.ok true) := by
  have run : ∃ c', Works (authorize []) typed admission (.ok true) c' ∧ c'.lines = [] :=
    ⟨_, .ask (.ask (.ask (.ask (.ask (.ask .done))))), rfl⟩
  obtain ⟨c', run, empty⟩ := run
  obtain ⟨authorizes, -, -, last⟩ := authorize_confirmed run
  exact ⟨c', run, authorizes, empty, last true rfl⟩

end ChatTriage.Login
