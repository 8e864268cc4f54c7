import ChatTriage.Channel.Wire
import ChatTriage.Forwarding
import ChatTriage.Json.Writer

/-!
# The webhook channel

Every text and every forwarded message is posted to one address as a document; the destination
travels in the document.
-/

namespace ChatTriage.Channel

/-- The settings of a webhook channel. -/
structure Webhook where
  url : Json
  zone : Zone
  deriving DecidableEq, Repr

namespace Webhook

def name : String := "webhook"

/-- The channel has an address. -/
def available (w : Webhook) : Bool :=
  w.url.truthy

/-- Posts a document, as far as it can be encoded. -/
def post (w : Webhook) (document : Json) : ExceptT Fault (Dialogue service) Unit := do
  let body := Json.write .unicode document
  if !Text.encodable body then throw (.value (.unencodable body))
  let address ← ExceptT.mk (pure (Address.of w.url.shown))
  let request : HttpRequest := {
    address, headers := [("content-type", "application/json")]
    body := some body }
  match ← ExceptT.lift (Channel.ask (.exchange request)) with
  | .success _ => return
  | .failure status _ body =>
      throw (.channel (.webhookAnswer (.int status) (Text.decodeUtf8Lenient body)))
  | .unreachable reason => throw (.channel (.webhookUnreachable reason))

/-- Sends a text. -/
def send (w : Webhook) (destination text : Json) :
    ExceptT Fault (Dialogue service) Desk.Delivery := do
  w.post (.obj [("type", .str "message"), ("destination", destination), ("text", text)])
  return ⟨name, destination, .null⟩

/-- Forwards a message. -/
def forward (w : Webhook) (m : Message) (destination label : Json) :
    ExceptT Fault (Dialogue service) Desk.Delivery := do
  w.post (← ExceptT.mk (pure (Forwarding.payload m destination label w.zone)))
  return ⟨name, destination, .null⟩

end Webhook

end ChatTriage.Channel
