import ChatTriage.Proofs.Channel.Answers
import ChatTriage.Proofs.Channel.Tokens

/-!
# Failed exchanges

An exchange of the token that fails leaves the channel as it was in every case but one: a token is
given with a lifetime that has no end in the calendar (`Cloud.Undated`). Then the new token is kept,
with the end of the one before it, and the exchange fails all the same:
`Cloud.refresh_half_done_iff`.
-/

namespace ChatTriage.Channel.Cloud

open Dialogue

/-- The log of an exchange in which a token was given with a lifetime that has no end. -/
inductive Undated (c : Cloud) (grant : Grant) : Log → Prop where
  | intro {body now} :
    c.Renewable →
    Grants body grant →
    grant.lifetime.truthy = true →
    Undatable now grant.lifetime →
    Undated c grant [told c.renewal (.success body), looked now]

variable {c c' : Cloud} {log : Log} {f : Fault} {grant : Grant}

/-- Only a body gives a token. -/
lemma exists_body_of_granted {x : HttpAnswer} (given : granted x = .ok grant) :
    ∃ body, x = .success body ∧ Grants body grant := by
  cases x with
  | success body => exact ⟨body, rfl, granted_success_iff.mp given⟩
  | failure status reason body => cases given
  | unreachable reason => cases given

/-- A failed exchange left the channel as it was, or has kept a token without an end. -/
lemma Renews.of_error (renews : Renews c log (.error f) c') :
    c' = c ∨ ∃ grant, Undated c grant log ∧ c' = { c with token := grant.token } := by
  cases renews with
  | unconfigured _ => exact .inl rfl
  | refused _ _ => exact .inl rfl
  | taken ready given takes =>
    obtain ⟨body, rfl, grants⟩ := exists_body_of_granted given
    cases takes with
    | undated lasts endless =>
      exact .inr ⟨_, .intro ready grants lasts (expiry_eq_error_iff.mp ⟨f, endless⟩), rfl⟩

/-- A token without an end is kept by an exchange that fails, and not with a fault of the
channel. -/
lemma Undated.renews (undated : Undated c grant log) :
    ∃ f, f.isChannel = false ∧ Renews c log (.error f) { c with token := grant.token } := by
  cases undated with
  | intro ready grants lasts undatable =>
    obtain ⟨f, endless⟩ := expiry_eq_error_iff.mpr undatable
    exact ⟨f, isChannel_of_expiry endless,
      .taken ready (granted_success_iff.mpr grants) (.undated lasts endless)⟩

/-- An exchange fails and yet changes the channel exactly when another token is given with a
lifetime that has no end: that token is kept, and nothing else is changed. So a failed exchange of
any other kind leaves the channel as it was. -/
theorem refresh_half_done_iff :
    (∃ f, Works refresh c log (.error f) c') ∧ c' ≠ c ↔
      ∃ grant, Undated c grant log ∧ grant.token ≠ c.token ∧
        c' = { c with token := grant.token } := by
  constructor
  · rintro ⟨⟨f, run⟩, changed⟩
    obtain same | ⟨grant, undated, rfl⟩ := (works_refresh_iff.mp run).of_error
    · exact absurd same changed
    · exact ⟨grant, undated, fun same => changed (by rw [same]), rfl⟩
  · rintro ⟨grant, undated, other, rfl⟩
    obtain ⟨f, -, renews⟩ := undated.renews
    exact ⟨⟨f, works_refresh_iff.mpr renews⟩, fun same => other (congrArg Cloud.token same)⟩

namespace Sample

/-- A token that lasts no number of seconds. -/
def vague : List Nat :=
  Text.encodeUtf8 "\x7b\"access_token\": \"new\", \"expires_in\": \"soon\"\x7d"

/-- The time at which the token comes. -/
def noon : DateTime where
  wall := ⟨63852926400000000, by decide⟩
  offset := some .zero

/-- The token is given, and its end looked for. -/
def tangle : Log :=
  [told lapsed.renewal (.success vague), looked noon]

end Sample

open Sample in
/-- A token that is said to last until soon is kept although the exchange fails. -/
theorem refresh_half_done_of_vague :
    (∃ f, Works refresh lapsed tangle (.error f) afresh) ∧ afresh ≠ lapsed := by
  have grants : Grants vague ⟨.str "new", .str "soon"⟩ := granted_success_iff.mp (by decide +kernel)
  have unread : Number.readInteger "soon" = .error (.invalid "soon") := by decide +kernel
  exact refresh_half_done_iff.mpr
    ⟨⟨.str "new", .str "soon"⟩, .intro ⟨rfl, rfl, rfl⟩ grants rfl (.text unread),
    by decide, rfl⟩

end ChatTriage.Channel.Cloud
