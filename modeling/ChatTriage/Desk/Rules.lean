import ChatTriage.Desk.Request
import ChatTriage.Matching

/-!
# The rules in force

The snapshot of the enabled filters, which outlives a store that cannot be read, and the selection
of the filters that accept a message, each selected filter being counted.
-/

namespace ChatTriage.Desk

/-- A thing done on behalf of a filter that is not part of storing the message. -/
inductive Action where
  | stats
  | metadata
  | autoReply
  | forward (channel : String)
  deriving DecidableEq, Repr

/-- The word for an action. -/
def Action.name : Action → String
  | .stats => "stats"
  | .metadata => "metadata"
  | .autoReply => "auto_reply"
  | .forward channel => "forward:" ++ channel

/-- What became of an action: whom it was for, and the wording of its failure if it failed. -/
structure SideEffect where
  action : Action
  target : String
  failure : Option String
  deriving DecidableEq, Repr

/-- An action went well. -/
def SideEffect.ok (e : SideEffect) : Bool :=
  e.failure.isNone

/-- Reads the enabled filters anew; when the store cannot be read the last snapshot stays in
force. -/
def refresh : Task (List Filter) := do
  match ← ask .enabledFilters with
  | .ok filters =>
    let enabled := filters.filter (·.enabled)
    ask (.keepSnapshot enabled)
    return enabled
  | .error f => if f.isStore then ask .snapshot else throw f

/-- Counts one more match of a filter at the present time. -/
def recordMatch (f : Filter) : Task SideEffect := do
  if f.id = .null then return ⟨.stats, f.name, some "filter has no id"⟩
  let now ← ask .now
  match ← ask (.storeStats f.id ⟨f.stats.matched + 1, some now⟩) with
  | .ok () => return ⟨.stats, f.name, none⟩
  | .error e => if e.isStore then return ⟨.stats, f.name, some e.text⟩ else throw e

/-- A filter accepts a message and is counted. That the count cannot be stored does not matter. -/
def selects (zone : Zone) (m : Message) (f : Filter) : Task Bool := do
  if ← liftExcept (f.accepts m zone) then
    let _ ← recordMatch f
    return true
  else return false
where
  liftExcept (r : Except Fault Bool) : Task Bool := ExceptT.mk (pure r)

/-- The filters that accept a message, in order. A filter that fails to be asked is passed over. -/
def matchAll (zone : Zone) (m : Message) : List Filter → Task (List Filter)
  | [] => return []
  | f :: filters => do
    let selected ← attempt (selects zone m f)
    let others ← matchAll zone m filters
    return if selected.toOption = some true then f :: others else others

end ChatTriage.Desk
