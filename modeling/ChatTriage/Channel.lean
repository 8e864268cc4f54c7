import ChatTriage.Channel.Cloud
import ChatTriage.Channel.Session
import ChatTriage.Channel.Webhook

/-!
# Channels

The kinds of channels behind one set of operations. An operation gives the channel as it is
afterwards beside its outcome.
-/

namespace ChatTriage

/-- A channel with its state. -/
inductive Channel where
  | cloud (c : Channel.Cloud)
  | webhook (w : Channel.Webhook)
  | session (s : Channel.Session)
  deriving DecidableEq, Repr

namespace Channel

/-- The outcome of an operation, and the channel afterwards. -/
abbrev Outcome (α : Type) : Type := Except Fault α × Channel

/-- The name of a channel. -/
def name : Channel → String
  | .cloud _ => Cloud.name
  | .webhook _ => Webhook.name
  | .session _ => Session.name

/-- The channel can be used. -/
def available : Channel → Dialogue service Bool
  | .cloud c => c.available
  | .webhook w => pure w.available
  | .session s => s.available

/-- Work of a cloud channel. -/
def ofCloud {α : Type} (c : Cloud) (work : CloudWork α) : Dialogue service (Outcome α) := do
  let (outcome, c) ← (work.run).run c
  return (outcome, .cloud c)

/-- An operation that leaves the channel as it is. -/
def unchanged {α : Type} (channel : Channel) (work : ExceptT Fault (Dialogue service) α) :
    Dialogue service (Outcome α) := do
  let outcome ← work.run
  return (outcome, channel)

/-- Sends a text. -/
def send (channel : Channel) (destination text : Json) : Dialogue service (Outcome Desk.Delivery) :=
  match channel with
  | .cloud c => ofCloud c (Cloud.send destination text)
  | .webhook w => unchanged channel (w.send destination text)
  | .session _ => unchanged channel (Session.send destination text)

/-- Forwards a message. -/
def forward (channel : Channel) (m : Message) (destination label : Json) :
    Dialogue service (Outcome Desk.Delivery) :=
  match channel with
  | .cloud c => ofCloud c (Cloud.forward m destination label)
  | .webhook w => unchanged channel (w.forward m destination label)
  | .session s => unchanged channel (s.forward m destination label)

/-- Exchanges the token of a cloud channel. -/
def refreshToken (channel : Channel) : Dialogue service (Outcome Unit) :=
  match channel with
  | .cloud c => ofCloud c Cloud.refresh
  | channel => unchanged channel (throw .noToken)

end Channel

end ChatTriage
