import ChatTriage.Proofs.Channel.Cloud

/-!
# The tokens of a cloud channel

A text is posted with the token that the last exchange yielded (`Cloud.Uses.token_eq`), whatever
else was done with the channel before. One sending exchanges the token once at most and posts the
text twice at most, the second time with the token that its own exchange yielded:
`Cloud.send_exchanges_once`.
-/

namespace ChatTriage.Channel

open Dialogue

/-- The request posts something to a server. -/
def Request.isPost : Request → Bool
  | .exchange request => request.body.isSome
  | _ => false

/-- The request fetches something from a server. -/
def Request.isFetch : Request → Bool
  | .exchange request => request.body.isNone
  | _ => false

namespace Cloud

/-- The token that an exchange yields: something is fetched, and there is a token in the answer. -/
def yielded? : Exchange service → Option Json
  | ⟨.exchange request, answer⟩ =>
    if request.body.isNone then (granted answer).toOption.map Grant.token else none
  | _ => none

/-- The token after what stands in a log: that of the last exchange that yielded one. -/
def tokenAfter (token : Json) (log : Log) : Json :=
  (log.filterMap yielded?).getLastD token

/-- What can be done with a channel. -/
inductive Use : Cloud → Log → Cloud → Prop where
  | send {c destination text log r c'} :
    Works (send destination text) c log r c' →
    Use c log c'
  | forward {c m destination label log r c'} :
    Works (forward m destination label) c log r c' →
    Use c log c'
  | refresh {c log r c'} :
    Works refresh c log r c' →
    Use c log c'
  | available {c log usable} :
    Runs c.available log usable →
    Use c log c

/-- Any number of things are done with a channel, one after the other. -/
inductive Uses : Cloud → Log → Cloud → Prop where
  | nil {c} :
    Uses c [] c
  | cons {c c₁ c' log₁ log₂} :
    Use c log₁ c₁ →
    Uses c₁ log₂ c' →
    Uses c (log₁ ++ log₂) c'

variable {c c' : Cloud} {document : Json} {log log₁ log₂ : Log} {token : Json}

/-- The token after two logs is told from one after the other. -/
lemma tokenAfter_append :
    tokenAfter token (log₁ ++ log₂) = tokenAfter (tokenAfter token log₁) log₂ := by
  unfold tokenAfter
  rw [List.filterMap_append]
  simp only [List.getLastD_eq_getLast?, List.getLast?_append]
  cases (log₂.filterMap yielded?).getLast? <;> rfl

/-- Nothing is yielded by what is no exchange of the token. -/
lemma tokenAfter_of_none (none : ∀ e ∈ log, yielded? e = none) : tokenAfter token log = token := by
  rw [tokenAfter, List.filterMap_eq_nil_iff.mpr none]
  rfl

/-- A renewal yields the token that it is granted. -/
lemma yielded?_renewal {x : HttpAnswer} :
    yielded? (told c.renewal x) = (granted x).toOption.map Grant.token := rfl

section Ways

variable {grant : Grant} {r : Except Fault Unit}

/-- Taking a token asks for nothing but the time. -/
lemma Takes.forall_looked (takes : Takes c grant log r c') : ∀ e ∈ log, ∃ now, e = looked now := by
  cases takes with
  | lasting _ => exact fun e member => absurd member List.not_mem_nil
  | undated _ _ => exact List.forall_mem_singleton.mpr ⟨_, rfl⟩
  | dated _ _ => exact List.forall_mem_singleton.mpr ⟨_, rfl⟩

/-- A grant that is taken has the token of the channel. -/
lemma Takes.token_eq (takes : Takes c grant log r c') : c'.token = grant.token := by
  cases takes <;> rfl

/-- Taking a grant asks nothing but the time. -/
lemma Takes.countP_eq_zero {p : Request → Bool} (takes : Takes c grant log r c')
    (unasked : p .now = false) :
    log.countP (fun e => p e.request) = 0 := by
  refine List.countP_eq_zero.mpr fun e member => ?_
  obtain ⟨now, rfl⟩ := takes.forall_looked e member
  exact Bool.eq_false_iff.mp unasked

/-- It yields nothing by itself. -/
lemma Takes.yields_nothing (takes : Takes c grant log r c') : log.filterMap yielded? = [] := by
  refine List.filterMap_eq_nil_iff.mpr fun e member => ?_
  obtain ⟨now, rfl⟩ := takes.forall_looked e member
  rfl

/-- An exchange posts nothing and fetches once at most, and only when all that it needs is set. -/
lemma Renews.asks (renews : Renews c log r c') :
    log.countP (·.request.isPost) = 0 ∧ log.countP (·.request.isFetch) ≤ 1 ∧
      ∀ e ∈ log, e.request.isFetch = true → e.request = .exchange c.renewal ∧ c.Renewable := by
  cases renews with
  | unconfigured _ => exact ⟨rfl, Nat.zero_le 1, fun e member => absurd member List.not_mem_nil⟩
  | refused ready _ =>
      exact ⟨rfl, Nat.le_refl 1, List.forall_mem_singleton.mpr fun _ => ⟨rfl, ready⟩⟩
  | @taken x grant rest _ _ ready given takes =>
    have posts : (told c.renewal x :: rest).countP (·.request.isPost) =
        rest.countP (·.request.isPost) :=
      List.countP_cons_of_neg Bool.false_ne_true
    have fetches : (told c.renewal x :: rest).countP (·.request.isFetch) =
        rest.countP (·.request.isFetch) + 1 :=
      List.countP_cons_of_pos rfl
    refine ⟨posts.trans (takes.countP_eq_zero rfl), ?_, ?_⟩
    · rw [fetches, takes.countP_eq_zero rfl]
    · refine List.forall_mem_cons.mpr ⟨fun _ => ⟨rfl, ready⟩, fun e member fetched => ?_⟩
      obtain ⟨now, rfl⟩ := takes.forall_looked e member
      cases fetched

/-- What an exchange yields is the token that is left, also when its end is not found afterwards; an
exchange that yields nothing leaves the token as it was. -/
lemma Renews.yields (renews : Renews c log r c') :
    log.filterMap yielded? = [c'.token] ∨ log.filterMap yielded? = [] ∧ c' = c ∧
      ∃ f, r = .error f := by
  cases renews with
  | unconfigured _ => exact .inr ⟨rfl, rfl, _, rfl⟩
  | refused _ refused =>
    refine .inr ⟨?_, rfl, _, rfl⟩
    rw [List.filterMap_cons_none (by rw [yielded?_renewal, refused]; rfl), List.filterMap_nil]
  | taken _ given takes =>
    refine .inl ?_
    rw [List.filterMap_cons_some (by rw [yielded?_renewal, given]; rfl), takes.yields_nothing,
      takes.token_eq]

/-- After a renewal the token is the last that was yielded. -/
lemma Renews.token_eq (renews : Renews c log r c') : c'.token = tokenAfter c.token log := by
  unfold tokenAfter
  obtain yields | ⟨yields, same, -⟩ := renews.yields
  · rw [yields]
    rfl
  · rw [yields, same]
    rfl

end Ways

/-- What follows a tried exchange: nothing after one that failed, and otherwise a second post of the
document with the token that the exchange yielded. -/
inductive Retries (c' : Cloud) (document : Json) :
    Except Fault Unit → Log → Except Fault Json → Prop where
  | failed {f} :
    Retries c' document (.error f) [] (.error f)
  | posted {y} :
    Retries c' document (.ok ()) [told (c'.posting document) y] (posted y)

variable {r : Except Fault Json}

/-- A document is posted, and nothing else is asked unless the token is to be exchanged. -/
lemma Delivers.course (delivers : Delivers c document log r c') :
    ∃ x rest, log = told (c.posting document) x :: rest ∧
      ((c.verdict x ≠ .ok true ∧ rest = [] ∧ c' = c) ∨
        (c.verdict x = .ok true ∧ ∃ outcome asked again, rest = asked ++ again ∧
          Renews c asked outcome c' ∧
          Retries c' document outcome again r)) := by
  cases delivers with
  | @settled x settled =>
    refine ⟨x, [], rfl, .inl ⟨fun renews => ?_, rfl, rfl⟩⟩
    rw [settled] at renews
    cases renews
  | @puzzled x f puzzling =>
    refine ⟨x, [], rfl, .inl ⟨fun renews => ?_, rfl, rfl⟩⟩
    rw [puzzling] at renews
    cases renews
  | @stuck x rest f _ renews refreshed =>
    exact ⟨x, rest, rfl,
      .inr ⟨renews, _, rest, [], (List.append_nil rest).symm, refreshed, .failed⟩⟩
  | @renewed x rest _ y renews refreshed =>
    exact ⟨x, _, rfl, .inr ⟨renews, _, rest, _, rfl, refreshed, .posted⟩⟩

/-- A second try posts once at most and fetches nothing. -/
lemma Retries.asks {outcome : Except Fault Unit} (retries : Retries c' document outcome log r) :
    log.countP (·.request.isPost) ≤ 1 ∧ log.countP (·.request.isFetch) = 0 := by
  cases retries with
  | failed => exact ⟨Nat.zero_le 1, rfl⟩
  | posted => exact ⟨Nat.le_refl 1, rfl⟩

/-- It yields no token. -/
lemma Retries.yields_nothing {outcome : Except Fault Unit}
    (retries : Retries c' document outcome log r) :
    ∀ e ∈ log, yielded? e = none := by
  cases retries with
  | failed => exact fun e member => absurd member List.not_mem_nil
  | posted => exact List.forall_mem_singleton.mpr rfl

/-- A delivery posts twice and fetches once at most. -/
lemma Delivers.asks (delivers : Delivers c document log r c') :
    log.countP (·.request.isPost) ≤ 2 ∧ log.countP (·.request.isFetch) ≤ 1 := by
  obtain ⟨x, rest, rfl, ⟨-, rfl, -⟩ | ⟨-, outcome, asked, again, rfl, renews, retries⟩⟩ :=
    delivers.course
  · exact ⟨Nat.le_succ 1, Nat.zero_le 1⟩
  · obtain ⟨posts, fetches, -⟩ := renews.asks
    obtain ⟨more, none⟩ := retries.asks
    have first : (told (c.posting document) x).request.isPost = true := rfl
    have other : (told (c.posting document) x).request.isFetch = false := rfl
    simp only [List.countP_cons, List.countP_append, first, other, Bool.false_eq_true,
      if_true, if_false]
    omega

/-- After a delivery the token is the last that was yielded. -/
lemma Delivers.token_eq (delivers : Delivers c document log r c') :
    c'.token = tokenAfter c.token log := by
  obtain ⟨x, rest, rfl, ⟨-, rfl, rfl⟩ | ⟨-, outcome, asked, again, rfl, renews, retries⟩⟩ :=
    delivers.course
  · rfl
  · have first : tokenAfter c.token [told (c.posting document) x] = c.token := rfl
    rw [← List.singleton_append, tokenAfter_append, first, tokenAfter_append, ← renews.token_eq,
      tokenAfter_of_none retries.yields_nothing]

/-- To forward a message is to send a text, unless there is none. -/
lemma works_forward {m : Message} {destination label : Json} {r : Except Fault Desk.Delivery}
    (run : Works (forward m destination label) c log r c') :
    (log = [] ∧ c' = c) ∨ ∃ text, Works (send destination text) c log r c' := by
  obtain ⟨f, -, rfl, -, rfl⟩ | ⟨text, -, sends⟩ :=
    works_orFail_bind_iff.mp (works_get_bind_iff.mp run)
  · exact .inl ⟨rfl, rfl⟩
  · exact .inr ⟨.str text, sends⟩

/-- Whether a channel can be used is told by its state and the clock. -/
lemma runs_available {usable : Bool} (run : Runs c.available log usable) :
    ∀ e ∈ log, ∃ now, e = looked now := by
  have silent (b : Bool) (ends : Runs (.done b : Dialogue service Bool) log usable) :
      ∀ e ∈ log, ∃ now, e = looked now := by
    obtain ⟨rfl, -⟩ := runs_done_iff.mp ends
    exact fun e member => absurd member List.not_mem_nil
  unfold available at run
  split at run
  · exact silent _ run
  · split at run
    · exact silent _ run
    · rename_i expiry _
      obtain ⟨now, rest, rfl, last⟩ := runs_ask_iff.mp run
      replace last : Runs
        (if expiry.instant ≤ DateTime.instant now then pure c.refreshToken.truthy else pure true)
        rest usable := last
      have ended : rest = [] := by split at last <;> exact (runs_done_iff.mp last).1
      subst ended
      exact List.forall_mem_singleton.mpr ⟨now, rfl⟩

/-- So it is after any use. -/
lemma Use.token_eq (use : Use c log c') : c'.token = tokenAfter c.token log := by
  cases use with
  | send run =>
    obtain ⟨x, delivers, -⟩ := works_send_iff.mp run
    exact delivers.token_eq
  | forward run =>
    obtain ⟨rfl, rfl⟩ | ⟨text, sends⟩ := works_forward run
    · rfl
    · obtain ⟨x, delivers, -⟩ := works_send_iff.mp sends
      exact delivers.token_eq
  | refresh run => exact (works_refresh_iff.mp run).token_eq
  | available run =>
    refine (tokenAfter_of_none fun e member => ?_).symm
    obtain ⟨now, rfl⟩ := runs_available run e member
    rfl

/-- The token of a channel is the one that the last exchange yielded, whatever it was used for. -/
lemma Uses.token_eq (uses : Uses c log c') : c'.token = tokenAfter c.token log := by
  induction uses with
  | nil => rfl
  | cons use _ ih => rw [ih, use.token_eq, tokenAfter_append]

/-- One sending posts twice at most and exchanges the token once at most. There is an exchange only
after a first post that told of an expired token, and a second post only after an exchange that went
well; it carries the token that the exchange yielded, and what it comes to is what the sending comes
to. Every sending begins with the token that the last exchange before it yielded. -/
theorem send_exchanges_once {destination text : Json} {r : Except Fault Desk.Delivery}
    (run : Works (send destination text) c log r c') :
    (log.countP (·.request.isPost) ≤ 2 ∧ log.countP (·.request.isFetch) ≤ 1) ∧
      (∃ x rest, log = told (c.posting (payload destination text)) x :: rest ∧
        (rest ≠ [] → Expired x ∧ c.Renewable) ∧
        (Expired x → c.refreshToken.truthy = true → ∃ outcome asked again result,
          rest = asked ++ again ∧
          Works refresh c asked outcome c' ∧
            (outcome = .ok () → asked.filterMap yielded? = [c'.token]) ∧
          Retries c' (payload destination text) outcome again result ∧
            r = result >>= delivered destination)) ∧
      c'.token = tokenAfter c.token log ∧ ∀ c₀ past, Uses c₀ past c →
        c.token = tokenAfter c₀.token past := by
  obtain ⟨result, delivers, rfl⟩ := works_send_iff.mp run
  refine ⟨delivers.asks, ?_, delivers.token_eq, fun c₀ past uses => uses.token_eq⟩
  obtain ⟨x, rest, rfl,
      ⟨settled, rfl, rfl⟩ | ⟨renewing, outcome, asked, again, rfl, renews, retries⟩⟩ :=
    delivers.course
  · refine ⟨x, [], rfl, fun impossible => absurd rfl impossible, fun expired held => ?_⟩
    exact absurd (verdict_eq_true_iff.mpr ⟨expired, held⟩) settled
  · refine ⟨x, _, rfl, fun more => ?_, fun _ _ => ?_⟩
    · refine ⟨(verdict_eq_true_iff.mp renewing).1, ?_⟩
      cases renews with
      | unconfigured _ =>
        cases retries
        exact absurd rfl more
      | refused ready _ => exact ready
      | taken ready _ _ => exact ready
    · refine ⟨outcome, asked, again, result, rfl, works_refresh_iff.mpr renews, ?_, retries, rfl⟩
      rintro rfl
      obtain yields | ⟨-, -, f, impossible⟩ := renews.yields
      · exact yields
      · cases impossible

namespace Sample

/-- A channel whose token is no longer taken. -/
def lapsed : Cloud where
  token := .str "old"
  phoneId := .str "123"
  refreshToken := .str "refresh"
  appId := .str "app"
  appSecret := .str "secret"
  zone := .utc

/-- The channel with a new token. -/
def afresh : Cloud :=
  { lapsed with token := .str "new" }

/-- The text that is sent. -/
def greeting : Json :=
  payload (.str "+393470000001") (.str "hello")

/-- The provider says that the token has expired. -/
def refusal : HttpAnswer :=
  .failure 401 "Unauthorized"
    (Text.encodeUtf8 "\x7b\"error\": \x7b\"code\": 190, \"error_subcode\": 463\x7d\x7d")

/-- The provider gives a new token. -/
def offer : HttpAnswer :=
  .success (Text.encodeUtf8 "\x7b\"access_token\": \"new\"\x7d")

/-- The provider takes the text. -/
def acceptance : HttpAnswer :=
  .success (Text.encodeUtf8 "\x7b\"messages\": [\x7b\"id\": \"wamid.1\"\x7d]\x7d")

/-- The text is posted, the token exchanged, and the text posted again. -/
def course : Log :=
  [told (lapsed.posting greeting) refusal, told lapsed.renewal offer,
    told (afresh.posting greeting) acceptance]

/-- What is reported of the text. -/
def report : Desk.Delivery :=
  ⟨name, .str "+393470000001", .str "wamid.1"⟩

end Sample

open Sample in
/-- A text that is sent with an expired token is posted again with the one that it is exchanged
for. -/
theorem send_exchanges_once_on_expiry :
    Works (send (.str "+393470000001") (.str "hello")) lapsed course (.ok report) afresh ∧
      course.countP (·.request.isPost) ≤ 2 ∧ course.countP (·.request.isFetch) ≤ 1 ∧
      afresh.token = tokenAfter lapsed.token course := by
  have given : granted offer = .ok ⟨.str "new", .null⟩ := by decide +kernel
  have renews : Renews lapsed [told lapsed.renewal offer] (.ok ()) afresh :=
    .taken ⟨rfl, rfl, rfl⟩ given (.lasting rfl)
  have delivers : Delivers lapsed greeting course (posted acceptance) afresh :=
    .renewed (by decide +kernel) renews
  have run : Works (send (.str "+393470000001") (.str "hello")) lapsed course (.ok report) afresh :=
    works_send_iff.mpr ⟨_, delivers, by decide +kernel⟩
  obtain ⟨⟨posts, fetches⟩, -, token, -⟩ := send_exchanges_once run
  exact ⟨run, posts, fetches, token⟩

end Cloud

end ChatTriage.Channel
