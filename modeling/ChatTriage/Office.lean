import ChatTriage.Channel
import ChatTriage.Store.Archive

/-!
# The office

What surrounds a desk: the two tables, the snapshot of the rules and a line for each route. The
office answers the desk's requests, and itself only asks for what lies beyond it: what channels
exchange with the world, the clock, and whatever brought a message when that is to be answered. A
line may also be a bare stage, whose deliveries are decided outside. Operations of the stores can be
out of order.
-/

namespace ChatTriage

/-- The operations of the stores. -/
inductive Operation where
  | enabledFilters
  | allFilters
  | filterNamed
  | saveFilter
  | updateFilter
  | createMessage
  | saveMessage
  | getMessage
  deriving DecidableEq, Repr

/-- What is behind a route. -/
inductive Line where
  | channel (channel : Channel)
  | stage (name : String)
  deriving DecidableEq, Repr

/-- The surroundings of a desk. A table may be missing. -/
structure Office where
  filters : Option Store.FilterTable := some {}
  messages : Option Store.MessageTable := some {}
  snapshot : List Filter := []
  loaded : Bool := false
  lines : List Line := []
  outages : List (Operation × Fault) := []
  deriving DecidableEq, Repr

namespace Office

/-- An office with tables and nothing else yet. -/
def ofTables (t : Store.Tables) : Office :=
  { filters := t.filters, messages := t.messages }

/-- The tables of an office. -/
def tables (o : Office) : Store.Tables :=
  ⟨o.filters, o.messages⟩

/-- What an office asks for. -/
inductive Request where
  | wire (line : Nat) (request : Channel.Request)
  | stageAvailable (line : Nat)
  | stageSend (line : Nat) (destination text : Json)
  | stageForward (line : Nat) (message : Message) (destination label : Json)
  | now
  | reply (text : String)

/-- What each request is answered with. -/
def Request.Answer : Request → Type
  | .wire _ q => q.Answer
  | .stageAvailable _ => Except Fault Bool
  | .stageSend _ _ _ | .stageForward _ _ _ _ => Except Fault Desk.Delivery
  | .now => DateTime
  | .reply _ => Except Fault Unit

/-- The world around an office. -/
def service : Service := ⟨Request, Request.Answer⟩

/-- What an office does. -/
abbrev Act (α : Type) : Type := StateT Office (Dialogue service) α

/-- Asks a request. -/
def ask (q : Request) : Act (Request.Answer q) :=
  StateT.lift (Dialogue.request (S := service) q)

/-- The result of an operation, unless it is out of order. -/
def unlessOut {α : Type} (o : Office) (operation : Operation) (result : Except Fault α) :
    Except Fault α :=
  match o.outages.lookup operation with
  | some f => .error f
  | none => result

/-- Puts an operation out of order, or back in order. -/
def setOutage (o : Office) (operation : Operation) (fault : Option Fault) : Office :=
  let others := o.outages.filter (·.1 ≠ operation)
  { o with outages := match fault with | some f => (operation, f) :: others | none => others }

/-- The filter with a name. -/
def filterNamed (o : Office) (name : String) : Except Fault (Option Filter) :=
  o.unlessOut .filterNamed (Store.filterNamed o.filters name)

/-- The filter whose name is equal to a value. -/
def filterMatching (o : Office) (name : Json) : Except Fault (Option Filter) :=
  o.unlessOut .filterNamed (Store.filterMatching o.filters name)

/-- The message whose id is equal to a value. -/
def messageMatching (o : Office) (id : Json) : Except Fault (Option Message) :=
  o.unlessOut .getMessage (Store.messageMatching o.messages id)

/-- The message with an id. -/
def getMessage (o : Office) (id : String) : Except Fault (Option Message) :=
  o.unlessOut .getMessage (Store.getMessage o.messages id)

/-- Saves a filter. -/
def saveFilter (o : Office) (f : Filter) : Except Fault Filter × Office :=
  match o.unlessOut .saveFilter (.ok ()) with
  | .error e => (.error e, o)
  | .ok () =>
    let (filters, result) := Store.saveFilter o.filters f
    (result, { o with filters })

/-- Changes columns of a filter. -/
def updateFilter (o : Office) (id : Json) (changes : List Store.Change) :
    Except Fault Unit × Office :=
  match o.unlessOut .updateFilter (Store.updateFilter o.filters id changes) with
  | .ok filters => (.ok (), { o with filters })
  | .error e => (.error e, o)

/-- Creates the row of a message. -/
def createMessage (o : Office) (m : Message) : Except Fault Unit × Office :=
  match o.unlessOut .createMessage (Store.createMessage o.messages m) with
  | .ok t => (.ok (), { o with messages := some t })
  | .error e => (.error e, o)

/-- Saves a message. When no row can be written the message is looked up, which can itself be out of
order. -/
def saveMessage (o : Office) (m : Message) : Except Fault Unit × Office :=
  match o.unlessOut .saveMessage (Store.writeMessage o.messages m) with
  | .ok (some t) => (.ok (), { o with messages := some t })
  | .ok none => (.error (Store.unwritten m.id (o.getMessage m.id)), o)
  | .error e => (.error e, o)

/-- The office with another line in a place. -/
def setLine (o : Office) (line : Nat) (l : Line) : Office :=
  { o with lines := o.lines.set line l }

/-- An operation of a channel on a line, which keeps the channel's new state. -/
def onChannel {α : Type} (line : Nat) (operation : Dialogue Channel.service (Channel.Outcome α)) :
    Act (Except Fault α) := do
  let (outcome, channel) ← StateT.lift <|
    Dialogue.run (fun q => Dialogue.request (S := service) (.wire line q)) operation
  modify fun o => o.setLine line (.channel channel)
  return outcome

/-- A line can be used. -/
def available (line : Nat) : Act (Except Fault Bool) := do
  match (← get).lines[line]? with
  | none => return .error .noChannel
  | some (.stage _) => ask (.stageAvailable line)
  | some (.channel c) =>
    let usable ← StateT.lift <|
      Dialogue.run (fun q => Dialogue.request (S := service) (.wire line q)) c.available
    return .ok usable

/-- Sends a text on a line. -/
def send (line : Nat) (destination text : Json) : Act (Except Fault Desk.Delivery) := do
  match (← get).lines[line]? with
  | none => return .error .noChannel
  | some (.stage _) => ask (.stageSend line destination text)
  | some (.channel c) => onChannel line (c.send destination text)

/-- Forwards a message on a line. -/
def forward (line : Nat) (m : Message) (destination label : Json) :
    Act (Except Fault Desk.Delivery) := do
  match (← get).lines[line]? with
  | none => return .error .noChannel
  | some (.stage _) => ask (.stageForward line m destination label)
  | some (.channel c) => onChannel line (c.forward m destination label)

/-- Exchanges the token of the channel on a line. -/
def refreshToken (line : Nat) : Act (Except Fault Unit) := do
  match (← get).lines[line]? with
  | some (.channel c) => onChannel line c.refreshToken
  | some (.stage _) => return .error .noToken
  | none => return .error .noChannel

/-- Applies a change of the office that has a result. -/
def change {α : Type} (f : Office → α × Office) : Act α := do
  let (a, o) := f (← get)
  set o
  return a

/-- Answers a request of the desk. -/
def answer : (q : Desk.Request) → Act q.Answer
  | .enabledFilters => do
    let o ← get
    return o.unlessOut .enabledFilters (Store.enabledFilters o.filters)
  | .allFilters => do
    let o ← get
    return o.unlessOut .allFilters (Store.allFilters o.filters)
  | .filterNamed name => do return (← get).filterNamed name
  | .storeFilter f => change (·.saveFilter f)
  | .storeStats id stats => change (·.updateFilter id [.ofStats stats])
  | .createMessage m => change (·.createMessage m)
  | .saveMessage m => change (·.saveMessage m)
  | .snapshot => do return (← get).snapshot
  | .keepSnapshot filters => modify fun o => { o with snapshot := filters, loaded := true }
  | .now => ask .now
  | .available line => available line
  | .send line destination text => send line (.str destination) (.str text)
  | .forward line m destination label => forward line m (.str destination) (.ofText? label)
  | .reply text => ask (.reply text)

/-- Carries out a task of the desk. -/
def carryOut {α : Type} (task : Desk.Task α) : Act (Except Fault α) :=
  Dialogue.run answer task.run

/-- Carries out work on a message; the message comes out as it is afterwards. -/
def workOn {α : Type} (m : Message) (work : Desk.Work α) : Act (Except Fault α × Message) :=
  Dialogue.run answer ((work.run).run m)

end Office

end ChatTriage
