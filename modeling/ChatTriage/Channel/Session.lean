import ChatTriage.Channel.Wire
import ChatTriage.Forwarding

/-!
# The session channel

Texts are sent through the client of a logged-in session, to a phone number or to a user by id.
-/

namespace ChatTriage.Channel

/-- The state of a session channel. -/
structure Session where
  authorized : Bool := false
  zone : Zone
  deriving DecidableEq, Repr

namespace Session

def name : String := "session"

/-- What a destination starts with when it is the id of a user. -/
def userMark : List Char := "id:".toList

/-- Whom a destination stands for: after the mark a user's id, otherwise a phone number. -/
def resolve (destination : String) : Except Fault Entity :=
  let cs := destination.toList
  if userMark.isPrefixOf cs then
    let id := cs.drop userMark.length
    if id.isEmpty || !id.all Text.isDigitSign then .error (.channel (.userId destination))
    else match Number.readInteger (String.ofList id) with
      | .ok n => .ok (.user n)
      | .error cause => .error (.value (.integer cause))
  else match Phone.format (.str destination) with
    | .ok number => .ok (.number number)
    | .error (.value cause) => .error (.channel (.phone cause))
    | .error f => .error f

/-- Whom a value stands for; only texts do. -/
def entity (destination : Json) : Except Fault Entity :=
  destination.asText "startswith" >>= resolve

/-- The channel can be used: the session is logged in and connected. -/
def available (s : Session) : Dialogue service Bool := do
  if s.authorized then Channel.ask .connected else return false

/-- The id of what was sent, if it has one that is not empty. -/
def sentId (id : Option Json) : Json :=
  match id with
  | some x => if x.shown.isEmpty then .null else .str x.shown
  | none => .null

/-- Sends a text. -/
def send (destination text : Json) : ExceptT Fault (Dialogue service) Desk.Delivery := do
  let entity ← ExceptT.mk (pure (entity destination))
  match ← ExceptT.lift (Channel.ask (.deliver entity text)) with
  | .error reason => throw (.channel (.session entity.text reason))
  | .ok id => return ⟨name, destination, sentId id⟩

/-- Forwards a message. -/
def forward (s : Session) (m : Message) (destination label : Json) :
    ExceptT Fault (Dialogue service) Desk.Delivery := do
  send destination (.str (← ExceptT.mk (pure (Forwarding.text m label s.zone))))

end Session

end ChatTriage.Channel
