import ChatTriage.Channel.Wire
import ChatTriage.Forwarding
import ChatTriage.Json.Writer
import ChatTriage.Text.Utf8

/-!
# The cloud channel

Texts are posted to the message endpoint of a provider with an access token. When the provider says
that the token has expired and a refresh token is at hand, the token is exchanged once and the text
is posted once more.
-/

namespace ChatTriage.Channel

/-- The state of a cloud channel. A token is whatever the provider gave, and the settings are values
of the same kind; one that is null, empty or zero counts as missing. -/
structure Cloud where
  token : Json
  phoneId : Json
  refreshToken : Json
  appId : Json
  appSecret : Json
  zone : Zone
  expiry : Option DateTime := none
  deriving DecidableEq, Repr

/-- A channel's work, which may fail; what was done to the state until then stays done. -/
abbrev CloudWork (α : Type) : Type := ExceptT Fault (StateT Cloud (Dialogue service)) α

namespace Cloud

def name : String := "cloud"

def apiBase : String := "https://graph.facebook.com/v18.0"

def tokenEndpoint : String := "https://graph.facebook.com/oauth/access_token"

/-- The provider's server. -/
def server : String := "graph.facebook.com"

/-- An address on the provider's server. -/
def address (text : String) : Address := ⟨text, some server⟩

/-- Asks a request. -/
def ask (q : Request) : CloudWork (Request.Answer q) :=
  ExceptT.lift (StateT.lift (Channel.ask q))

/-- Goes on with a result, or fails. -/
def orFail {α : Type} (r : Except Fault α) : CloudWork α :=
  ExceptT.mk (pure r)

/-- The code and the subcode of an error, as the body of an answer gives them. -/
def errorCodes (body : String) : Except Fault (Json × Json) :=
  match Json.read body with
  | .ok (.obj fields) => do
    let error := (Json.find? fields "error").getD (.obj [])
    return (← error.get "code", ← error.get "error_subcode")
  | .ok _ => .ok (.null, .null)
  | .error refusal => if refusal.isTooDeep then .error (.json refusal) else .ok (.null, .null)

/-- The codes of an expired token. -/
def isExpiry (codes : Json × Json) : Bool :=
  codes.1.same (.int 190) && codes.2.same (.int 463)

/-- The channel can be used: it has a token and a number, and the token has not expired or can be
exchanged. -/
def available (c : Cloud) : Dialogue service Bool := do
  if !c.token.truthy || !c.phoneId.truthy then return false
  match c.expiry with
  | none => return true
  | some expiry =>
    let now ← Channel.ask .now
    if expiry.instant ≤ now.instant then return c.refreshToken.truthy
    return true

/-- The document that is posted for a text. -/
def payload (destination text : Json) : Json :=
  .obj [
    ("messaging_product", .str "whatsapp"),
    ("to", destination),
    ("type", .str "text"),
    ("text", .obj [("body", text)])]

/-- Posts a document to the message endpoint. -/
def post (document : Json) : CloudWork Json := do
  let c ← get
  let request : HttpRequest := {
    address := address (apiBase ++ "/" ++ c.phoneId.shown ++ "/messages")
    headers := [("content-type", "application/json"), ("authorization", "Bearer " ++ c.token.shown)]
    body := some (Json.write .ascii document) }
  match ← ask (.exchange request) with
  | .success body => orFail (readBody body "\x7b\x7d")
  | .failure status _ body =>
      throw (.channel (.cloudAnswer (.int status) (Text.decodeUtf8Lenient body)))
  | .unreachable reason => throw (.channel (.cloudUnreachable reason))

/-- The query that asks for a new token. -/
def refreshQuery (c : Cloud) : String :=
  Text.query [
    ("grant_type", "fb_exchange_token"),
    ("client_id", c.appId.shown),
    ("client_secret", c.appSecret.shown),
    ("fb_exchange_token", c.refreshToken.shown)]

/-- The time a number of seconds after another. -/
def later (t : DateTime) (seconds : Int) : Except Fault DateTime :=
  let days := seconds.fdiv 86400
  if !Number.inSignedWord 31 days then .error (.range .shortInteger)
  else if 999999999 < days.natAbs then .error (.range (.days days))
  else (Wall.of (t.wall.micros + seconds * Time.second)).map fun wall => { t with wall }

/-- Exchanges the refresh token for a new access token. -/
def refresh : CloudWork Unit := do
  let c ← get
  if !(c.refreshToken.truthy && c.appId.truthy && c.appSecret.truthy) then
    throw (.channel .refreshUnconfigured)
  let request : HttpRequest := ⟨address (tokenEndpoint ++ "?" ++ c.refreshQuery), [], none⟩
  match ← ask (.exchange request) with
  | .failure status reason _ =>
    throw (.channel (.refreshFailed ("HTTP Error " ++ toString status ++ ": " ++ reason)))
  | .unreachable reason => throw (.channel (.refreshFailed ("<urlopen error " ++ reason ++ ">")))
  | .success body =>
    let answer ← orFail (readBody body "")
    let token ← orFail (answer.field "access_token")
    modify fun c => { c with token }
    let lifetime ← orFail (answer.get "expires_in")
    if lifetime.truthy then
      let now ← ask .now
      let expiry ← orFail (lifetime.toInt >>= later now)
      modify fun c => { c with expiry := some expiry }

/-- The body of a failed post says that the token has expired, and it can be exchanged. -/
def mayRefresh (c : Cloud) (body : String) : Except Fault Bool :=
  (errorCodes body).map fun codes => isExpiry codes && c.refreshToken.truthy

/-- Posts a document; when the token has expired it is exchanged and the document posted once
more. -/
def postFresh (document : Json) : CloudWork Json := do
  let first : Except Fault Json ← ExceptT.lift (post document).run
  match first with
  | .ok answer => return answer
  | .error (.channel (.cloudAnswer status body)) =>
    if ← orFail (mayRefresh (← get) body) then
      refresh
      post document
    else throw (.channel (.cloudAnswer status body))
  | .error f => throw f

/-- The id that the provider gave to the first message of an answer. -/
def providerId (answer : Json) : Except Fault Json := do
  let messages := (← answer.get "messages").orElse (.arr [.obj []])
  (← messages.first).get "id"

/-- Sends a text. -/
def send (destination text : Json) : CloudWork Desk.Delivery := do
  let answer ← postFresh (payload destination text)
  return ⟨name, destination, ← orFail (providerId answer)⟩

/-- Forwards a message. -/
def forward (m : Message) (destination label : Json) : CloudWork Desk.Delivery := do
  send destination (.str (← orFail (Forwarding.text m label (← get).zone)))

end Cloud

end ChatTriage.Channel
