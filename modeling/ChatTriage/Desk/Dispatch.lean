import ChatTriage.Desk.Rules

/-!
# Carrying out filters

For each filter that accepted a message, in order: its notes are put on the message, the message is
saved, the sender may get an answer, and the message is forwarded on every open route. A step that
fails is recorded with the filter and the rest goes on.
-/

namespace ChatTriage

namespace Desk

/-- What became of one filter's steps. -/
structure FilterOutcome where
  filterName : String
  persistError : Option String
  sideEffects : List SideEffect
  deriving DecidableEq, Repr

/-- The message was saved, or somebody else had saved it. -/
def FilterOutcome.persisted (o : FilterOutcome) : Bool :=
  o.persistError.isNone

/-- The side effects that failed. -/
def FilterOutcome.failures (o : FilterOutcome) : List SideEffect :=
  o.sideEffects.filter (!·.ok)

end Desk

namespace Message

/-- The notes that actions put on a message, archiving apart. -/
def annotate (m : Message) (a : FilterActions) : Message :=
  { m with
    metadata :=
      let notes := { m.metadata with
        important := m.metadata.important || a.markImportant
        priority := a.setPriority.getD m.metadata.priority }
      a.addTags.foldl (fun notes tag => notes.addTag (.str tag)) notes }

/-- Puts the notes of actions on a message and archives it if they ask for it; a message that cannot
be archived keeps the notes, and the fault is given beside it. -/
def applyActions (m : Message) (a : FilterActions) : Message × Option Fault :=
  let m := m.annotate a
  if a.archive then
    match m.advance .archived with
    | .ok (_, m) => (m, none)
    | .error f => (m, some f)
  else (m, none)

end Message

namespace Desk

/-- Moves the message along its life. -/
def advance (target : Status) : Work Unit := do
  match (← get).advance target with
  | .ok (_, m) => set m
  | .error f => throw f

/-- Saves the message; its version then counts one more save. -/
def save : Work (Except Fault Unit) := do
  let m ← get
  match ← Task.toWork (ask (.saveMessage m)) with
  | .ok () =>
    match m.version.next with
    | .ok version =>
      set { m with version }
      return .ok ()
    | .error f => return .error f
  | .error f => return .error f

/-- Saves the message after a filter: the wording of what failed. Another save of the message in the
meantime is no failure. -/
def persist : Work (Option String) := do
  match ← save with
  | .ok () => return none
  | .error (.conflict _) => return none
  | .error f => if f.isStore then return some f.text else throw f

/-- Puts a filter's notes on the message. -/
def applyNotes (f : Filter) : Work (List SideEffect) := do
  let (m, fault) := (← get).applyActions f.actions
  set m
  return match fault with
    | some e => [⟨.metadata, f.name, some e.text⟩]
    | none => []

/-- Answers the sender on the channel that the message came from. -/
def autoReply (c : Config) (m : Message) (text : String) : Task SideEffect := do
  let unavailable : SideEffect := ⟨.autoReply, m.sender.phone, some "channel unavailable"⟩
  match c.routeNamed? m.metadata.source with
  | none => return unavailable
  | some route =>
    match ← ask (.available route) with
    | .error f => throw f
    | .ok false => return unavailable
    | .ok true =>
      match ← ask (.send route m.sender.phone text) with
      | .ok _ => return ⟨.autoReply, m.sender.phone, none⟩
      | .error f => return ⟨.autoReply, m.sender.phone, some f.text⟩

/-- Forwards the message to one destination. -/
def forwardOne (route : Nat) (channel : String) (m : Message) (label destination : String) :
    Task SideEffect := do
  match ← ask (.forward route m destination (some label)) with
  | .ok _ => return ⟨.forward channel, destination, none⟩
  | .error f => return ⟨.forward channel, destination, some f.text⟩

/-- The destinations of a filter on a route: the route's own first. -/
def destinations (r : Route) (f : Filter) : List String :=
  (match r.broadcast with | some d => if d.isEmpty then [] else [d] | none => []) ++
    f.actions.forwardTo

/-- Forwards the message on one route, unless it is closed or does not tell. -/
def forwardOn (route : Nat) (r : Route) (m : Message) (f : Filter) : Task (List SideEffect) := do
  match ← ask (.available route) with
  | .ok true => (destinations r f).mapM (forwardOne route r.name m f.name)
  | .ok false => return []
  | .error _ => return []

/-- Forwards the message on every route that forwards. -/
def forwardAll (c : Config) (m : Message) (f : Filter) : Task (List SideEffect) := do
  let effects ← (c.routes.zipIdx.filter (·.1.forwards)).mapM fun (r, route) => forwardOn route r m f
  return effects.flatten

/-- Carries out one filter. -/
def runFilter (c : Config) (f : Filter) : Work FilterOutcome := do
  let notes ← applyNotes f
  let persistError ← persist
  let m ← get
  let replies ←
    if f.actions.autoReply.enabled then
      (fun e => [e]) <$> Task.toWork (autoReply c m f.actions.autoReply.message)
    else pure []
  let forwards ← Task.toWork (forwardAll c m f)
  return ⟨f.name, persistError, notes ++ replies ++ forwards⟩

/-- Carries out filters on the message. -/
def dispatch (c : Config) (filters : List Filter) : Work (List FilterOutcome) := do
  if !filters.isEmpty then advance .filtered
  filters.mapM (runFilter c)

end Desk

end ChatTriage
