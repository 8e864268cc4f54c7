import ChatTriage.Desk.Dispatch
import ChatTriage.Desk.Orders
import ChatTriage.Message.Intake

/-!
# Taking messages in

A message is validated, stored once, matched against the enabled filters and either dispatched to
those that accept it or marked as processed, and what became of it can be reported as a document.
Commands of operators in direct chats take their own path.
-/

namespace ChatTriage

namespace Desk

/-- Why a message was not taken in. -/
inductive Refusal where
  | invalid (problems : List Problem)
  | duplicate
  | store (fault : Fault)
  deriving DecidableEq, Repr

/-- The wording of a refusal. -/
def Refusal.text : Refusal → String
  | .invalid problems => "invalid: " ++ "; ".intercalate (problems.map Problem.text)
  | .duplicate => "duplicate"
  | .store fault => "store error: " ++ fault.text

/-- What became of a message. -/
inductive Report where
  | refused (id : String) (reason : Refusal)
  | unmatched (id : String) (status : Status)
  | dispatched (id : String) (status : Status) (filters : List String)
      (outcomes : List FilterOutcome)
  deriving DecidableEq, Repr

/-- The message was taken in. -/
def Report.accepted : Report → Bool
  | .refused _ _ => false
  | _ => true

end Desk

/-- The report on a draft that cannot be accepted. -/
def Draft.refusal? (d : Draft) : Option Desk.Report :=
  match d.problems with
  | [] => none
  | problems => some (.refused d.reportedId (.invalid problems))

namespace Desk

/-- Creates the row of the message, whose version then counts from zero. -/
def createRow : Work (Except Fault Unit) := do
  let m ← get
  match ← Task.toWork (ask (.createMessage m)) with
  | .ok () =>
    set { m with version := .count 0 }
    return .ok ()
  | .error f => return .error f

/-- Stores a new message: the reason for which it is not taken in. -/
def create : Work (Option Refusal) := do
  match ← createRow with
  | .ok () => return none
  | .error (.duplicate _) => return some .duplicate
  | .error f => if f.isStore then return some (.store f) else throw f

/-- Saves the message without telling when a store fails. -/
def saveQuietly : Work Unit := do
  match ← save with
  | .ok () => return
  | .error f => if f.isStore then return else throw f

/-- Takes the message in. -/
def process (c : Config) : Work Report := do
  let m ← get
  if let some report := m.draft.refusal? then return report
  if let some reason ← create then return .refused m.draft.reportedId reason
  let filters ← Task.toWork refresh
  let matched ← Task.toWork (matchAll c.zone (← get) filters)
  if matched.isEmpty then
    advance .processed
    saveQuietly
    return .unmatched m.id (← get).status
  else
    let outcomes ← dispatch c matched
    return .dispatched m.id (← get).status (matched.map (·.name)) outcomes

/-- Takes a message in, or carries out the command of an operator in a direct chat. The operator
hears the result through `reply`, unless an update was carried out, which is confirmed on its
own. -/
def route (c : Config) (reply : String → Task Unit) : Work Unit := do
  let m ← get
  let intent ← ExceptT.mk (pure (Command.Intent.ofJson m.text))
  if m.metadata.group.isNone && intent ≠ .unknown && c.isAdmin m then
    let result ← Task.toWork (handleCommand c m)
    if intent ≠ .update || !result.success then
      let _ ← Task.toWork (attempt (reply result.message))
  else
    let _ ← process c

/-- Answers on a channel if there is one and it is open. -/
def replyOn (channel : Option Nat) (destination text : String) : Task Unit := do
  match channel with
  | none => return
  | some route =>
    match ← ask (.available route) with
    | .error f => throw f
    | .ok false => return
    | .ok true =>
      match ← ask (.send route destination text) with
      | .ok _ => return
      | .error f => throw f

/-- Answers through whatever brought the message. -/
def replyDirectly (text : String) : Task Unit := do
  match ← ask (.reply text) with
  | .ok () => return
  | .error f => throw f

/-- Routes one message as a task of its own. -/
def routeMessage (c : Config) (reply : String → Task Unit) (m : Message) : Task Unit :=
  ExceptT.mk (do
    let (outcome, _) ← ((route c reply).run).run m
    return outcome)

/-- Routes messages one after the other, answering commands on the cloud channel; `stop` is the
fault that ended the list of messages, if one did. Gives the number of messages. -/
def ingest (c : Config) (messages : List Message) (stop : Option Fault) : Task Nat := do
  let cloud := c.routeNamed? (.str "cloud")
  for m in messages do
    routeMessage c (replyOn cloud m.sender.phone) m
  match stop with
  | some f => throw f
  | none => return messages.length

/-- The document of a side effect. -/
def SideEffect.toJson (e : SideEffect) : Json :=
  .obj [("action", .str e.action.name), ("target", .str e.target), ("ok", .bool e.ok),
    ("error", .ofText? e.failure)]

/-- The document of what became of one filter's steps. -/
def FilterOutcome.toJson (o : FilterOutcome) : Json :=
  .obj [("filter", .str o.filterName), ("persisted", .bool o.persisted),
    ("persistError", .ofText? o.persistError),
    ("sideEffects", .arr (o.sideEffects.map SideEffect.toJson)),
    ("failures", .int o.failures.length)]

/-- The document of a dispatch. -/
def dispatchDocument (id : String) (outcomes : List FilterOutcome) : Json :=
  .obj [("messageId", .str id), ("outcomes", .arr (outcomes.map FilterOutcome.toJson))]

/-- A document with the fields that every report has. -/
def reportDocument (id : String) (accepted : Bool) (status dispatch reason : Json)
    (filters : List String) : Json :=
  .obj [("messageId", .str id), ("accepted", .bool accepted), ("status", status),
    ("matched", .ofTexts filters), ("dispatch", dispatch), ("reason", reason)]

/-- The document of a report. -/
def Report.toJson (r : Report) : Json :=
  match r with
  | .refused id reason => reportDocument id r.accepted .null .null (.str reason.text) []
  | .unmatched id status => reportDocument id r.accepted (.str status.name) .null .null []
  | .dispatched id status filters outcomes =>
    reportDocument id r.accepted (.str status.name) (dispatchDocument id outcomes) .null filters

/-- The document of a delivery. -/
def Delivery.toJson (d : Delivery) : Json :=
  .obj [("channel", .str d.channel), ("destination", d.destination),
    ("provider_message_id", d.providerId)]

end Desk

end ChatTriage
