import ChatTriage.Channel.Cloud
import ChatTriage.Proofs.Dialogue.Work

/-!
# What a cloud channel asks

The ways that the work of a cloud channel can take: what it asks, with what it ends, and what it
leaves. A text is posted once; after an answer that calls for another token (`Cloud.verdict`) the
token is exchanged (`Cloud.Renews`), and when that went well the text is posted once more
(`Cloud.Delivers`). Everything that holds of the channel is read off these ways.
-/

namespace ChatTriage.Channel

open Dialogue

/-- What a channel asked, and what it was told. -/
abbrev Log : Type := List (Exchange service)

/-- An exchange with a server. -/
abbrev told (request : HttpRequest) (answer : HttpAnswer) : Exchange service :=
  ⟨.exchange request, answer⟩

/-- A look at the clock. -/
abbrev looked (now : DateTime) : Exchange service :=
  ⟨.now, now⟩

namespace Cloud

/-- The request that posts a document. -/
def posting (c : Cloud) (document : Json) : HttpRequest where
  address := address (apiBase ++ "/" ++ c.phoneId.shown ++ "/messages")
  headers := [("content-type", "application/json"), ("authorization", "Bearer " ++ c.token.shown)]
  body := some (Json.write .ascii document)

/-- What a post comes to. -/
def posted : HttpAnswer → Except Fault Json
  | .success body => readBody body "\x7b\x7d"
  | .failure status _ body =>
      .error (.channel (.cloudAnswer (.int status) (Text.decodeUtf8Lenient body)))
  | .unreachable reason => .error (.channel (.cloudUnreachable reason))

/-- Whether the token is to be exchanged after an answer to a post. -/
def verdict (c : Cloud) : HttpAnswer → Except Fault Bool
  | .failure _ _ body => c.mayRefresh (Text.decodeUtf8Lenient body)
  | _ => .ok false

/-- An answer to a post that tells of an expired token. -/
inductive Expired : HttpAnswer → Prop where
  | failure {status reason body codes} :
    errorCodes (Text.decodeUtf8Lenient body) = .ok codes →
    isExpiry codes = true →
    Expired (.failure status reason body)

/-- All that an exchange of the token needs is set. -/
def Renewable (c : Cloud) : Prop :=
  c.refreshToken.truthy = true ∧ c.appId.truthy = true ∧ c.appSecret.truthy = true

/-- The request that exchanges the token. -/
def renewal (c : Cloud) : HttpRequest :=
  ⟨address (tokenEndpoint ++ "?" ++ c.refreshQuery), [], none⟩

/-- A token that was given, and how long it is to last. -/
structure Grant where
  token : Json
  lifetime : Json
  deriving DecidableEq

/-- When a token that was given ends. -/
def Grant.expiry (grant : Grant) (now : DateTime) : Except Fault DateTime :=
  grant.lifetime.toInt >>= later now

/-- The token that an answer gives, and how long it is to last. -/
def Grant.ofJson (answer : Json) : Except Fault Grant := do
  return ⟨← answer.field "access_token", ← answer.get "expires_in"⟩

/-- What an exchange of the token comes to. -/
def granted : HttpAnswer → Except Fault Grant
  | .failure status reason _ =>
    .error (.channel (.refreshFailed ("HTTP Error " ++ toString status ++ ": " ++ reason)))
  | .unreachable reason => .error (.channel (.refreshFailed ("<urlopen error " ++ reason ++ ">")))
  | .success body => readBody body "" >>= Grant.ofJson

/-- The ways of taking a token that was given: it is kept before its end is looked for. -/
inductive Takes (c : Cloud) (grant : Grant) : Log → Except Fault Unit → Cloud → Prop where
  | lasting :
    grant.lifetime.truthy = false →
    Takes c grant [] (.ok ()) { c with token := grant.token }
  | undated {now f} :
    grant.lifetime.truthy = true →
    grant.expiry now = .error f →
    Takes c grant [looked now] (.error f) { c with token := grant.token }
  | dated {now expiry} :
    grant.lifetime.truthy = true →
    grant.expiry now = .ok expiry →
    Takes c grant [looked now] (.ok ()) { c with token := grant.token, expiry := some expiry }

/-- The ways of an exchange of the token. -/
inductive Renews (c : Cloud) : Log → Except Fault Unit → Cloud → Prop where
  | unconfigured :
    ¬ c.Renewable →
    Renews c [] (.error (.channel .refreshUnconfigured)) c
  | refused {x f} :
    c.Renewable →
    granted x = .error f →
    Renews c [told c.renewal x] (.error f) c
  | taken {x grant log r c'} :
    c.Renewable →
    granted x = .ok grant →
    Takes c grant log r c' →
    Renews c (told c.renewal x :: log) r c'

/-- The ways of posting a document until it is there or cannot be brought there. -/
inductive Delivers (c : Cloud) (document : Json) : Log → Except Fault Json → Cloud → Prop where
  | settled {x} :
    c.verdict x = .ok false →
    Delivers c document [told (c.posting document) x] (posted x) c
  | puzzled {x f} :
    c.verdict x = .error f →
    Delivers c document [told (c.posting document) x] (.error f) c
  | stuck {x log f c'} :
    c.verdict x = .ok true →
    Renews c log (.error f) c' →
    Delivers c document (told (c.posting document) x :: log) (.error f) c'
  | renewed {x log c' y} :
    c.verdict x = .ok true →
    Renews c log (.ok ()) c' →
    Delivers c document (told (c.posting document) x :: (log ++ [told (c'.posting document) y]))
      (posted y) c'

variable {c c' : Cloud} {document : Json} {log : Log}

/-- A token is renewable when all that is needed is set. -/
lemma renewable_iff :
    (!(c.refreshToken.truthy && c.appId.truthy && c.appSecret.truthy)) = false ↔ c.Renewable := by
  simp [Renewable, and_assoc]

/-- The token is to be exchanged when it has expired and there is something to exchange. -/
lemma verdict_eq_true_iff {x : HttpAnswer} :
    c.verdict x = .ok true ↔ Expired x ∧ c.refreshToken.truthy = true := by
  constructor
  · intro renew
    cases x with
    | failure status reason body =>
      cases read : errorCodes (Text.decodeUtf8Lenient body) with
      | error f => simp [verdict, mayRefresh, Except.map, read] at renew
      | ok codes =>
        obtain ⟨expired, held⟩ : isExpiry codes = true ∧ c.refreshToken.truthy = true := by
          simpa [verdict, mayRefresh, Except.map, read] using renew
        exact ⟨.failure read expired, held⟩
    | _ => cases renew
  · rintro ⟨expired, held⟩
    cases expired with
    | failure read expired => simp [verdict, mayRefresh, Except.map, read, expired, held]

/-- What may fail ends with its fault or goes on. -/
lemma works_orFail_bind_iff {α β : Type} {x : Except Fault α} {f : α → CloudWork β}
    {r : Except Fault β} :
    Works (orFail x >>= f) c log r c' ↔
      (∃ e, x = .error e ∧ log = [] ∧ r = .error e ∧ c' = c) ∨ ∃ a, x = .ok a ∧
        Works (f a) c log r c' :=
  works_result_bind_iff

/-- Work that begins with a request goes on from its answer. -/
lemma works_ask_bind_iff {β : Type} {q : Request} {f : q.Answer → CloudWork β}
    {r : Except Fault β} :
    Works (Cloud.ask q >>= f) c log r c' ↔ ∃ x rest, log = ⟨q, x⟩ :: rest ∧
      Works (f x) c rest r c' :=
  works_request_bind_iff

/-- A post is one exchange. -/
lemma works_post_iff {r : Except Fault Json} :
    Works (post document) c log r c' ↔
      ∃ x, log = [told (c.posting document) x] ∧ r = posted x ∧ c' = c := by
  constructor
  · intro run
    obtain ⟨x, rest, rfl, judged⟩ := works_ask_bind_iff.mp (works_get_bind_iff.mp run)
    refine ⟨x, ?_⟩
    cases x <;> obtain ⟨rfl, rfl, rfl⟩ := works_result_iff.mp judged <;> exact ⟨rfl, rfl, rfl⟩
  · rintro ⟨x, rfl, rfl, rfl⟩
    refine works_get_bind_iff.mpr (works_ask_bind_iff.mpr ⟨x, [], rfl, ?_⟩)
    cases x <;> exact works_result_iff.mpr ⟨rfl, rfl, rfl⟩

/-- The last part of an exchange, once there is a token in the answer. -/
def take (answer token : Json) : CloudWork Unit := do
  modify fun c => { c with token }
  let lifetime ← orFail (answer.get "expires_in")
  if lifetime.truthy then
    let now ← ask .now
    let expiry ← orFail (lifetime.toInt >>= later now)
    modify fun c => { c with expiry := some expiry }

/-- A grant is taken in one of the ways of `Takes`. -/
lemma works_take_iff {answer : Json} (grant : Grant) {r : Except Fault Unit}
    (asked : answer.get "expires_in" = .ok grant.lifetime) :
    Works (take answer grant.token) c log r c' ↔ Takes c grant log r c' := by
  have kept : Works (take answer grant.token) c log r c' ↔
      Works (if grant.lifetime.truthy then do
        let now ← Cloud.ask .now
        let expiry ← orFail (grant.expiry now)
        modify fun c => { c with expiry := some expiry }
      else pure ()) { c with token := grant.token } log r c' := by
    unfold take
    rw [asked]
    exact works_modify_bind_iff
  rw [kept]
  constructor
  · intro run
    split at run
    · rename_i lasts
      obtain ⟨now, rest, rfl, dates⟩ := works_ask_bind_iff.mp run
      obtain ⟨f, endless, rfl, rfl, rfl⟩ | ⟨expiry, ends, keeps⟩ := works_orFail_bind_iff.mp dates
      · exact .undated lasts endless
      · obtain ⟨rfl, rfl, rfl⟩ := works_modify_iff.mp keeps
        exact .dated lasts ends
    · rename_i lasts
      obtain ⟨rfl, rfl, rfl⟩ := works_pure_iff.mp run
      exact .lasting (Bool.eq_false_iff.mpr lasts)
  · intro takes
    cases takes with
    | lasting lasts =>
      rw [if_neg (Bool.eq_false_iff.mp lasts)]
      exact works_pure_iff.mpr ⟨rfl, rfl, rfl⟩
    | undated lasts endless =>
      rw [if_pos lasts]
      exact works_ask_bind_iff.mpr
        ⟨_, [], rfl, works_orFail_bind_iff.mpr (.inl ⟨_, endless, rfl, rfl, rfl⟩)⟩
    | dated lasts ends =>
      rw [if_pos lasts]
      refine works_ask_bind_iff.mpr ⟨_, [], rfl, works_orFail_bind_iff.mpr (.inr ⟨_, ends, ?_⟩)⟩
      exact works_modify_iff.mpr ⟨rfl, rfl, rfl⟩

/-- Only an object has the part that has to be there, and an object can be asked for any other. -/
lemma get_of_field {answer token : Json} {name : String} (other : String)
    (found : answer.field name = .ok token) :
    ∃ y, answer.get other = .ok y := by
  cases answer with
  | obj fields => exact ⟨_, rfl⟩
  | _ => cases found

/-- There is no grant without a token. -/
lemma Grant.ofJson_eq_error {answer : Json} {f : Fault}
    (missing : answer.field "access_token" = .error f) :
    Grant.ofJson answer = .error f := by
  rw [Grant.ofJson, missing]
  rfl

/-- A grant is a token and its lifetime. -/
lemma Grant.ofJson_eq_ok {answer token lifetime : Json}
    (found : answer.field "access_token" = .ok token)
    (asked : answer.get "expires_in" = .ok lifetime) :
    Grant.ofJson answer = .ok ⟨token, lifetime⟩ := by
  rw [Grant.ofJson, found, asked]
  rfl

/-- What is done with the answer to an exchange. -/
lemma works_answer_iff {answer : Json} {r : Except Fault Unit} :
    Works (orFail (answer.field "access_token") >>= take answer) c log r c' ↔
      (∃ f, Grant.ofJson answer = .error f ∧ log = [] ∧ r = .error f ∧ c' = c) ∨
        ∃ grant, Grant.ofJson answer = .ok grant ∧ Takes c grant log r c' := by
  rw [works_orFail_bind_iff]
  cases found : answer.field "access_token" with
  | error f =>
    rw [Grant.ofJson_eq_error found]
    simp
  | ok token =>
    obtain ⟨lifetime, asked⟩ := get_of_field "expires_in" found
    rw [Grant.ofJson_eq_ok found asked]
    simp [works_take_iff ⟨token, lifetime⟩ asked]

/-- Without all that it needs an exchange asks nothing. -/
lemma works_refresh_of_unready {r : Except Fault Unit} (unready : ¬ c.Renewable) :
    Works refresh c log r c' ↔ log = [] ∧ r = .error (.channel .refreshUnconfigured) ∧ c' = c := by
  unfold refresh
  rw [works_get_bind_iff]
  simp only [Bool.eq_true_of_not_eq_false (renewable_iff.not.mpr unready), if_true]
  exact works_throw_iff

/-- With all that it needs an exchange asks for a token, and what is done then is up to the
answer. -/
lemma works_refresh_of_ready {r : Except Fault Unit} (ready : c.Renewable) :
    Works refresh c log r c' ↔ ∃ x rest, log = told c.renewal x :: rest ∧
      ((∃ f, granted x = .error f ∧ rest = [] ∧ r = .error f ∧ c' = c) ∨
        ∃ grant, granted x = .ok grant ∧ Takes c grant rest r c') := by
  unfold refresh
  rw [works_get_bind_iff]
  simp only [renewable_iff.mpr ready, Bool.false_eq_true, if_false]
  rw [works_ask_bind_iff]
  refine exists_congr fun x => exists_congr fun rest => and_congr_right fun _ => ?_
  cases x with
  | failure status reason body => simp [granted, works_throw_iff]
  | unreachable reason => simp [granted, works_throw_iff]
  | success body =>
    rw [works_orFail_bind_iff, granted]
    cases readBody body "" with
    | error f =>
      have failed : (Except.error f >>= Grant.ofJson) = .error f := rfl
      simp [failed]
    | ok answer =>
      simp only [reduceCtorEq, false_and, exists_false, false_or, Except.ok.injEq, exists_eq_left']
      exact works_answer_iff

/-- An exchange asks for a token at most, and then for the time. -/
lemma works_refresh_iff {r : Except Fault Unit} : Works refresh c log r c' ↔ Renews c log r c' := by
  by_cases ready : c.Renewable
  · rw [works_refresh_of_ready ready]
    constructor
    · rintro ⟨x, rest, rfl, ⟨f, refused, rfl, rfl, rfl⟩ | ⟨grant, given, takes⟩⟩
      · exact .refused ready refused
      · exact .taken ready given takes
    · intro renews
      cases renews with
      | unconfigured unready => exact absurd ready unready
      | refused _ refused => exact ⟨_, [], rfl, .inl ⟨_, refused, rfl, rfl, rfl⟩⟩
      | taken _ given takes => exact ⟨_, _, rfl, .inr ⟨_, given, takes⟩⟩
  · rw [works_refresh_of_unready ready]
    constructor
    · rintro ⟨rfl, rfl, rfl⟩
      exact .unconfigured ready
    · intro renews
      cases renews with
      | unconfigured _ => exact ⟨rfl, rfl, rfl⟩
      | refused configured _ => exact absurd configured ready
      | taken configured _ _ => exact absurd configured ready

/-- What a server sends is not taken for an answer of the provider about a text. -/
lemma readBody_eq_error {body : List Nat} {ifEmpty : String} {f : Fault}
    (garbled : readBody body ifEmpty = .error f) :
    (∃ cause, f = .bytes cause) ∨ ∃ refusal, f = .json refusal := by
  unfold readBody at garbled
  split at garbled
  · cases garbled
    exact .inl ⟨_, rfl⟩
  · split at garbled
    · cases garbled
    · cases garbled
      exact .inr ⟨_, rfl⟩

/-- What is done after a first post. -/
def settle (document : Json) (first : Except Fault Json) : CloudWork Json := do
  match first with
  | .ok answer => return answer
  | .error (.channel (.cloudAnswer status body)) =>
    if ← orFail (mayRefresh (← get) body) then
      refresh
      post document
    else throw (.channel (.cloudAnswer status body))
  | .error f => throw f

/-- A first answer stands, fails, or calls for a second try. -/
lemma works_settle_iff {x : HttpAnswer} {r : Except Fault Json} :
    Works (settle document (posted x)) c log r c' ↔
      (c.verdict x = .ok false ∧ log = [] ∧ r = posted x ∧ c' = c) ∨
        (∃ f, c.verdict x = .error f ∧ log = [] ∧ r = .error f ∧ c' = c) ∨
        c.verdict x = .ok true ∧ Works (refresh >>= fun _ => post document) c log r c' := by
  cases x with
  | success body =>
    cases read : posted (.success body) with
    | ok answer => simp [settle, verdict, works_pure_iff]
    | error f =>
      obtain ⟨cause, rfl⟩ | ⟨refusal, rfl⟩ := readBody_eq_error read
      · simp [settle, verdict, works_throw_iff]
      · simp [settle, verdict, works_throw_iff]
  | unreachable reason => simp [posted, settle, verdict, works_throw_iff]
  | failure status reason body =>
    have looks : Works (settle document (posted (.failure status reason body))) c log r c' ↔
        Works (orFail (c.verdict (.failure status reason body)) >>= fun renew =>
          if renew then refresh >>= fun _ => post document
          else throw (.channel (.cloudAnswer (.int status) (Text.decodeUtf8Lenient body))))
            c log r c' :=
      works_get_bind_iff
    rw [looks, works_orFail_bind_iff]
    cases c.verdict (.failure status reason body) with
    | error f => simp
    | ok renew => cases renew <;> simp [posted, works_throw_iff]

/-- A document is posted, and what is done then is up to the answer. -/
lemma works_postFresh_ways {r : Except Fault Json} :
    Works (postFresh document) c log r c' ↔ ∃ x rest, log = told (c.posting document) x :: rest ∧
      ((c.verdict x = .ok false ∧ rest = [] ∧ r = posted x ∧ c' = c) ∨
        (∃ f, c.verdict x = .error f ∧ rest = [] ∧ r = .error f ∧ c' = c) ∨
        c.verdict x = .ok true ∧ Works (refresh >>= fun _ => post document) c rest r c') := by
  have parts : postFresh document = ExceptT.lift (post document).run >>= settle document := rfl
  rw [parts, works_attempt_bind_iff]
  constructor
  · rintro ⟨first, c₁, log₁, rest, rfl, run, settles⟩
    obtain ⟨x, rfl, rfl, rfl⟩ := works_post_iff.mp run
    exact ⟨x, rest, rfl, works_settle_iff.mp settles⟩
  · rintro ⟨x, rest, rfl, ways⟩
    exact ⟨posted x, c, [told (c.posting document) x], rest, rfl,
      works_post_iff.mpr ⟨x, rfl, rfl, rfl⟩, works_settle_iff.mpr ways⟩

/-- Posting until the document is there takes one of the ways. -/
lemma works_postFresh_iff {r : Except Fault Json} :
    Works (postFresh document) c log r c' ↔ Delivers c document log r c' := by
  rw [works_postFresh_ways]
  constructor
  · rintro ⟨x, rest, rfl, ⟨settled, rfl, rfl, rfl⟩ | ⟨f, puzzling, rfl, rfl, rfl⟩ | ⟨renews, run⟩⟩
    · exact .settled settled
    · exact .puzzled puzzling
    · obtain ⟨f, refreshed, rfl⟩ | ⟨⟨⟩, c₁, log₁, log₂, rfl, refreshed, again⟩ :=
        works_bind_iff.mp run
      · exact .stuck renews (works_refresh_iff.mp refreshed)
      · obtain ⟨y, rfl, rfl, rfl⟩ := works_post_iff.mp again
        exact .renewed renews (works_refresh_iff.mp refreshed)
  · intro delivers
    cases delivers with
    | settled settled => exact ⟨_, [], rfl, .inl ⟨settled, rfl, rfl, rfl⟩⟩
    | puzzled puzzling => exact ⟨_, [], rfl, .inr (.inl ⟨_, puzzling, rfl, rfl, rfl⟩)⟩
    | stuck renews refreshed =>
      exact ⟨_, _, rfl,
        .inr (.inr ⟨renews, works_bind_iff.mpr (.inl ⟨_, works_refresh_iff.mpr refreshed, rfl⟩)⟩)⟩
    | renewed renews refreshed =>
      refine ⟨_, _, rfl, .inr (.inr ⟨renews, works_bind_iff.mpr (.inr ?_)⟩)⟩
      exact ⟨⟨⟩, _, _, _, rfl, works_refresh_iff.mpr refreshed,
        works_post_iff.mpr ⟨_, rfl, rfl, rfl⟩⟩

/-- What a channel reports of a text that was posted. -/
def delivered (destination answer : Json) : Except Fault Desk.Delivery := do
  return ⟨name, destination, ← providerId answer⟩

/-- Sending a text is posting it, and reading what the provider calls it. -/
lemma works_send_iff {destination text : Json} {r : Except Fault Desk.Delivery} :
    Works (send destination text) c log r c' ↔
      ∃ x, Delivers c (payload destination text) log x c' ∧ r = x >>= delivered destination := by
  have parts : send destination text =
      postFresh (payload destination text) >>= fun answer =>
        orFail (delivered destination answer) := by
    refine congrArg (postFresh (payload destination text) >>= ·) (funext fun answer => ?_)
    unfold delivered
    cases providerId answer <;> rfl
  rw [parts, ← exists_congr fun x => and_congr_left' works_postFresh_iff]
  exact works_bind_result_iff

end Cloud

end ChatTriage.Channel
