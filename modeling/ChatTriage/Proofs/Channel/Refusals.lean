import ChatTriage.Proofs.Channel.Renewal

/-!
# Sendings that end badly

A sending through a cloud channel ends with a report or with a failure of the channel, unless an
answer of the provider derails it (`Cloud.Derails`): a receipt, a description of a failure or a
grant of a token that cannot be read, or a lifetime without an end. Then it ends with what reading
the answer came to, and what the provider said is lost: `Cloud.send_ends_regularly_iff`.
-/

namespace ChatTriage.Channel.Cloud

open Dialogue

/-- The logs in which an answer derails the sending of a document. -/
inductive Derails (c : Cloud) (document : Json) : Log → Prop where
  | receipt {body} :
    ¬ Receipt body →
    Derails c document [told (c.posting document) (.success body)]
  | description {status reason body} :
    Misdescribed (Text.decodeUtf8Lenient body) →
    Derails c document [told (c.posting document) (.failure status reason body)]
  | token {x body} :
    Expired x →
    c.Renewable →
    (∀ grant, ¬ Grants body grant) →
    Derails c document [told (c.posting document) x, told c.renewal (.success body)]
  | lifetime {x grant asked} :
    Expired x →
    Undated c grant asked →
    Derails c document (told (c.posting document) x :: asked)
  | again {x asked c₁ body} :
    Expired x →
    c.refreshToken.truthy = true →
    Works refresh c asked (.ok ()) c₁ →
    ¬ Receipt body →
    Derails c document
      (told (c.posting document) x :: (asked ++ [told (c₁.posting document) (.success body)]))

variable {c c' : Cloud} {destination document text : Json} {log : Log} {f : Fault}

/-- An answer is judged unless it is a failure that is misdescribed. -/
lemma verdict_eq_error {x : HttpAnswer} (puzzling : c.verdict x = .error f) :
    ∃ status reason body, x = .failure status reason body ∧
      Misdescribed (Text.decodeUtf8Lenient body) := by
  cases x with
  | failure status reason body =>
    refine ⟨status, reason, body, rfl, errorCodes_eq_error_iff.mp ?_⟩
    cases read : errorCodes (Text.decodeUtf8Lenient body) with
    | error e => exact ⟨e, rfl⟩
    | ok codes => simp [verdict, mayRefresh, Except.map, read] at puzzling
  | success body => cases puzzling
  | unreachable reason => cases puzzling

/-- An error that is misdescribed breaks the verdict. -/
lemma verdict_of_misdescribed {status : Int} {reason : String} {body : List Nat}
    (misdescribed : Misdescribed (Text.decodeUtf8Lenient body)) :
    ∃ f, f.isChannel = false ∧ c.verdict (.failure status reason body) = .error f := by
  obtain ⟨f, failed⟩ := errorCodes_eq_error_iff.mpr misdescribed
  exact ⟨f, isChannel_of_errorCodes failed, by simp [verdict, mayRefresh, Except.map, failed]⟩

/-- A token is only undated after it was renewable. -/
lemma Undated.renewable {grant : Grant} (undated : Undated c grant log) : c.Renewable := by
  cases undated with
  | intro ready _ _ _ => exact ready

/-- A sending that is derailed fails, and not with a failure of the channel. -/
lemma Derails.works (derails : Derails c (payload destination text) log) :
    ∃ f c', f.isChannel = false ∧ Works (send destination text) c log (.error f) c' := by
  cases derails with
  | receipt unread =>
    obtain ⟨f, failed, other⟩ := derailed_of_no_receipt destination unread
    exact ⟨f, c, other, works_send_iff.mpr ⟨_, .settled rfl, failed.symm⟩⟩
  | description misdescribed =>
    obtain ⟨f, other, puzzling⟩ := verdict_of_misdescribed misdescribed
    exact ⟨f, c, other, works_send_iff.mpr ⟨_, .puzzled puzzling, rfl⟩⟩
  | @token x body expired ready ungranted =>
    cases refused : granted (.success body) with
    | ok grant => exact absurd (granted_success_iff.mp refused) (ungranted grant)
    | error f =>
      have renewing : c.verdict x = .ok true := verdict_eq_true_iff.mpr ⟨expired, ready.1⟩
      exact ⟨f, c, isChannel_of_granted refused,
        works_send_iff.mpr ⟨_, .stuck renewing (.refused ready refused), rfl⟩⟩
  | @lifetime x _ _ expired undated =>
    obtain ⟨f, other, renews⟩ := undated.renews
    have renewing : c.verdict x = .ok true := verdict_eq_true_iff.mpr ⟨expired, undated.renewable.1⟩
    exact ⟨f, _, other, works_send_iff.mpr ⟨_, .stuck renewing renews, rfl⟩⟩
  | @again x _ c₁ _ expired held refreshed unread =>
    obtain ⟨f, failed, other⟩ := derailed_of_no_receipt destination unread
    have renewing : c.verdict x = .ok true := verdict_eq_true_iff.mpr ⟨expired, held⟩
    exact ⟨f, c₁, other,
      works_send_iff.mpr ⟨_, .renewed renewing (works_refresh_iff.mp refreshed), failed.symm⟩⟩

/-- A sending ends as a channel may: with a report of the text, or with a failure of the channel. -/
def Regular (destination : Json) (r : Except Fault Desk.Delivery) : Prop :=
  (∃ id, r = .ok ⟨name, destination, id⟩) ∨ ∃ cause, r = .error (.channel cause)

/-- What is said of a post is regular, or there is a receipt that cannot be read. -/
lemma regular_posted (destination : Json) (y : HttpAnswer) :
    Regular destination (posted y >>= delivered destination) ∨ ∃ body, y = .success body ∧
      ¬ Receipt body := by
  cases y with
  | failure status reason body => exact .inl (.inr ⟨_, rfl⟩)
  | unreachable reason => exact .inl (.inr ⟨_, rfl⟩)
  | success body =>
    by_cases receipt : Receipt body
    · exact .inl (.inl (delivered_of_receipt destination receipt))
    · exact .inr ⟨body, rfl, receipt⟩

/-- Every sending that nothing derails ends regularly. -/
lemma Delivers.regular {x : Except Fault Json} (delivers : Delivers c document log x c') :
    Regular destination (x >>= delivered destination) ∨ Derails c document log := by
  cases delivers with
  | @settled y _ =>
    obtain regular | ⟨body, rfl, unread⟩ := regular_posted destination y
    · exact .inl regular
    · exact .inr (.receipt unread)
  | puzzled puzzling =>
    obtain ⟨status, reason, body, rfl, misdescribed⟩ := verdict_eq_error puzzling
    exact .inr (.description misdescribed)
  | stuck renewing renews =>
    obtain ⟨expired, held⟩ := verdict_eq_true_iff.mp renewing
    cases renews with
    | unconfigured _ => exact .inl (.inr ⟨_, rfl⟩)
    | @refused y f ready refused =>
      cases y with
      | failure status reason body =>
        cases refused
        exact .inl (.inr ⟨_, rfl⟩)
      | unreachable reason =>
        cases refused
        exact .inl (.inr ⟨_, rfl⟩)
      | success body =>
        refine .inr (.token expired ready fun grant grants => ?_)
        rw [granted_success_iff.mpr grants] at refused
        cases refused
    | taken ready given takes =>
      obtain ⟨body, rfl, grants⟩ := exists_body_of_granted given
      cases takes with
      | undated lasts endless =>
        exact .inr
          (.lifetime expired (.intro ready grants lasts (expiry_eq_error_iff.mp ⟨_, endless⟩)))
  | @renewed _ _ _ y renewing renews =>
    obtain ⟨expired, held⟩ := verdict_eq_true_iff.mp renewing
    obtain regular | ⟨body, rfl, unread⟩ := regular_posted destination y
    · exact .inl regular
    · exact .inr (.again expired held (works_refresh_iff.mpr renews) unread)

/-- Requests and answers can be told from what is told of them. -/
lemma told_inj {q q' : HttpRequest} {x x' : HttpAnswer} (same : told q x = told q' x') :
    q = q' ∧ x = x' := by
  injection same with requests answers
  exact ⟨Request.exchange.inj requests, answers⟩

/-- An exchange of the token that failed does not end with a post. -/
lemma Renews.not_post_of_error {asker : Cloud} {x : HttpAnswer}
    (renews : Renews c log (.error f) c') :
    log.getLast? ≠ some (told (asker.posting document) x) := by
  intro last
  cases renews with
  | unconfigured _ => cases last
  | refused _ _ => cases congrArg HttpRequest.body (told_inj (Option.some.inj last)).1
  | taken _ _ takes =>
    cases takes with
    | undated _ _ => cases congrArg Exchange.request (Option.some.inj last)

/-- If a post fails last, so does the sending, unless it was the first one and called for an
exchange or cannot be read. -/
lemma Delivers.error_of_failure {x : Except Fault Json} {asker : Cloud} {status : Int}
    {reason : String}
    {body : List Nat} (delivers : Delivers c document log x c')
    (last : log.getLast? = some (told (asker.posting document) (.failure status reason body))) :
    x = .error (.channel (.cloudAnswer (.int status) (Text.decodeUtf8Lenient body))) ∨
      log.length = 1 ∧ (Misdescribed (Text.decodeUtf8Lenient body) ∨
        x = .error (.channel .refreshUnconfigured) ∧ Expired (.failure status reason body) ∧
          c.refreshToken.truthy = true ∧ ¬ c.Renewable) := by
  cases delivers with
  | settled _ =>
    obtain ⟨-, rfl⟩ := told_inj (Option.some.inj last)
    exact .inl rfl
  | puzzled puzzling =>
    obtain ⟨-, rfl⟩ := told_inj (Option.some.inj last)
    obtain ⟨_, _, _, same, misdescribed⟩ := verdict_eq_error puzzling
    cases same
    exact .inr ⟨rfl, .inl misdescribed⟩
  | @stuck _ rest f _ renewing renews =>
    cases rest with
    | nil =>
      obtain ⟨-, rfl⟩ := told_inj (Option.some.inj last)
      obtain ⟨expired, held⟩ := verdict_eq_true_iff.mp renewing
      cases renews with
      | unconfigured unready => exact .inr ⟨rfl, .inr ⟨rfl, expired, held, unready⟩⟩
    | cons e rest =>
      rw [List.getLast?_cons_cons] at last
      exact absurd last renews.not_post_of_error
  | @renewed _ asked _ y _ _ =>
    rw [← List.cons_append, List.getLast?_concat] at last
    obtain ⟨-, rfl⟩ := told_inj (Option.some.inj last)
    exact .inl rfl

/-- A sending ends with a report of the text or with a failure of the channel exactly when no answer
derails it. If the last answer is a failure of a post, the sending fails with its status and text,
unless it is the first one and cannot be read or calls for an exchange for which something is
missing. The codes of a failure can be told exactly when it is not misdescribed. -/
theorem send_ends_regularly_iff {r : Except Fault Desk.Delivery}
    (run : Works (send destination text) c log r c') :
    (Regular destination r ↔ ¬ Derails c (payload destination text) log) ∧
      (∀ asker status reason body,
        log.getLast? =
          some (told (posting asker (payload destination text)) (.failure status reason body)) →
          r = .error (.channel (.cloudAnswer (.int status) (Text.decodeUtf8Lenient body))) ∨
            log.length = 1 ∧ (Misdescribed (Text.decodeUtf8Lenient body) ∨
              r = .error (.channel .refreshUnconfigured) ∧ Expired (.failure status reason body) ∧
                c.refreshToken.truthy = true ∧ ¬ c.Renewable)) ∧
      ∀ body, (∃ codes, errorCodes body = .ok codes) ↔ ¬ Misdescribed body := by
  refine ⟨⟨fun regular derails => ?_, fun smooth => ?_⟩, fun asker status reason body last => ?_,
    fun body => ?_⟩
  · obtain ⟨f, c₁, other, failing⟩ := derails.works
    obtain ⟨rfl, -⟩ := Prod.mk.inj (Runs.unique run failing)
    obtain ⟨id, impossible⟩ | ⟨cause, same⟩ := regular
    · cases impossible
    · cases same
      cases other
  · obtain ⟨x, delivers, rfl⟩ := works_send_iff.mp run
    exact delivers.regular.resolve_right smooth
  · obtain ⟨x, delivers, rfl⟩ := works_send_iff.mp run
    obtain rfl | ⟨only, misdescribed | ⟨rfl, unready⟩⟩ := delivers.error_of_failure last
    · exact .inl rfl
    · exact .inr ⟨only, .inl misdescribed⟩
    · exact .inr ⟨only, .inr ⟨rfl, unready⟩⟩
  · rw [← errorCodes_eq_error_iff]
    cases errorCodes body <;> simp

namespace Sample

/-- The provider describes a failure by a text. -/
def terse : List Nat :=
  Text.encodeUtf8 "\x7b\"error\": \"x\"\x7d"

end Sample

open Sample in
/-- A failure that is described by a text ends a sending with what asking the text for a code comes
to. -/
theorem send_derailed_by_text :
    Works (send (.str "+393470000001") (.str "hello")) lapsed
        [told (lapsed.posting greeting) (.failure 400 "Bad Request" terse)]
          (.error (.missingPart "str" "get"))
        lapsed ∧
      ¬ Regular (.str "+393470000001") (.error (.missingPart "str" "get")) := by
  have failed : errorCodes (Text.decodeUtf8Lenient terse) = .error (.missingPart "str" "get") := by
    decide +kernel
  have run : Works (send (.str "+393470000001") (.str "hello")) lapsed
      [told (lapsed.posting greeting) (.failure 400 "Bad Request" terse)]
        (.error (.missingPart "str" "get"))
      lapsed :=
    works_send_iff.mpr ⟨_, .puzzled (by simp [verdict, mayRefresh, Except.map, failed]), rfl⟩
  refine ⟨run, fun regular => (send_ends_regularly_iff run).1.mp regular ?_⟩
  exact .description (errorCodes_eq_error_iff.mp ⟨_, failed⟩)

end ChatTriage.Channel.Cloud
