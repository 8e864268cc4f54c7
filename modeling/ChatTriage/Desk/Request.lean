import ChatTriage.Dialogue
import ChatTriage.Filter
import ChatTriage.Message
import ChatTriage.Phone
import ChatTriage.Time.Zone

/-!
# What the desk asks for

The desk works on one message or one command at a time. It reads and writes filters and messages in
stores, keeps a snapshot of the enabled filters, looks at the clock, and hands texts and messages to
channels. Channels are addressed by their place in the list of routes.
-/

namespace ChatTriage.Desk

/-- A channel as the desk knows it: its name, whether messages are forwarded on it, and a
destination that gets every forwarded message. -/
structure Route where
  name : String
  forwards : Bool
  broadcast : Option String
  deriving DecidableEq, Repr

/-- The settings of a desk. -/
structure Config where
  routes : List Route
  admins : Phone.AllowList
  zone : Zone
  deriving DecidableEq, Repr

/-- What a channel reports after a delivery. -/
structure Delivery where
  channel : String
  destination : Json
  providerId : Json
  deriving DecidableEq, Repr

/-- What the desk can ask for. -/
inductive Request where
  | enabledFilters
  | allFilters
  | filterNamed (name : String)
  | storeFilter (filter : Filter)
  | storeStats (id : Json) (stats : FilterStats)
  | createMessage (message : Message)
  | saveMessage (message : Message)
  | snapshot
  | keepSnapshot (filters : List Filter)
  | now
  | available (route : Nat)
  | send (route : Nat) (destination text : String)
  | forward (route : Nat) (message : Message) (destination : String) (label : Option String)
  | reply (text : String)

/-- What each request is answered with. -/
def Request.Answer : Request → Type
  | .enabledFilters | .allFilters => Except Fault (List Filter)
  | .filterNamed _ => Except Fault (Option Filter)
  | .storeFilter _ => Except Fault Filter
  | .storeStats _ _ | .createMessage _ | .saveMessage _ | .reply _ => Except Fault Unit
  | .snapshot => List Filter
  | .keepSnapshot _ => Unit
  | .now => DateTime
  | .available _ => Except Fault Bool
  | .send _ _ _ | .forward _ _ _ _ => Except Fault Delivery

/-- The surroundings of a desk. -/
def service : Service := ⟨Request, Request.Answer⟩

/-- Work that may fail. -/
abbrev Task (α : Type) : Type := ExceptT Fault (Dialogue service) α

/-- Work on a message that may fail; what was done to the message until then stays done. -/
abbrev Work (α : Type) : Type := ExceptT Fault (StateT Message (Dialogue service)) α

/-- Asks a request. -/
def ask (q : Request) : Task (Request.Answer q) :=
  ExceptT.lift (Dialogue.request (S := service) q)

/-- The outcome of a task, its failure included. -/
def attempt {α : Type} (t : Task α) : Task (Except Fault α) :=
  ExceptT.lift t.run

/-- A task as work that leaves the message alone. -/
def Task.toWork {α : Type} (t : Task α) : Work α :=
  ExceptT.mk (StateT.lift t.run)

instance : MonadLift (ExceptT Fault (Dialogue service))
    (ExceptT Fault (StateT Message (Dialogue service))) where
  monadLift t := Task.toWork t

/-- The place of the first route with a name. -/
def Config.routeNamed? (c : Config) (name : Json) : Option Nat :=
  c.routes.findIdx? fun r => name = .str r.name

/-- The place of the last route with a name. -/
def Config.lastRouteNamed? (c : Config) (name : String) : Option Nat :=
  (c.routes.reverse.findIdx? (·.name == name)).map (c.routes.length - 1 - ·)

/-- The sender of a message may give commands. -/
def Config.isAdmin (c : Config) (m : Message) : Bool :=
  c.admins.allows (.str m.sender.phone)

end ChatTriage.Desk
