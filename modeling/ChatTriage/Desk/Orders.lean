import ChatTriage.Command.Text
import ChatTriage.Desk.Rules

/-!
# Operators' orders

An operator's command is refused, answered or carried out; whatever goes wrong ends in a result that
tells so. After an update the operator gets a confirmation on the channel that the command came
from.
-/

namespace ChatTriage.Desk

/-- What a command came to, and what the operator is told. -/
structure CommandResult where
  success : Bool
  message : String
  deriving DecidableEq, Repr

/-- A command that came to nothing. -/
def CommandResult.refused (message : String) : CommandResult := ⟨false, message⟩

def unauthorized : String := "You are not authorized to run commands."

def notRecognized : String := "Command not recognized. Send 'help' for the list of commands."

def internalError : String := "Internal error while running the command."

/-- Lists the filters. -/
def listFilters : Task CommandResult := do
  match ← ask .allFilters with
  | .ok filters => return ⟨true, Command.filterList filters⟩
  | .error f =>
      if f.isStore then return .refused ("Could not load filters: " ++ f.text) else throw f

/-- What an operator is told when an update was not carried out; nothing for a fault that has
nothing to do with the command or the store. -/
def updateRefusal? (f : Fault) : Option String :=
  match f with
  | .command _ => some f.text
  | .duplicate _ => some ("Filter name already in use: " ++ f.text)
  | f => if f.isStore then some ("Could not save filter: " ++ f.text) else none

/-- Reads the command in a text and stores the filter with its new value. -/
def storeUpdate (text : String) :
    Task (Except String (Command.UpdateCommand × Command.Update)) := do
  let command ← ExceptT.mk (pure (Command.UpdateCommand.ofText text))
  match Command.Field.ofWord? command.field with
  | none => return .error ("Unknown field '" ++ command.field ++ "'")
  | some field =>
    let update ← ExceptT.mk (pure (Command.Update.read field command.value))
    match ← ask (.filterNamed command.filterName) with
    | .error f => throw f
    | .ok none => return .error ("Filter '" ++ command.filterName ++ "' not found")
    | .ok (some existing) =>
      match ← ask (.storeFilter (update.apply existing)) with
      | .error f => throw f
      | .ok _ => return .ok (command, update)

/-- Carries out an update command. -/
def updateFilter (text : String) : Task CommandResult := do
  match ← attempt (storeUpdate text) with
  | .error f =>
    match updateRefusal? f with
    | some reason => return .refused reason
    | none => throw f
  | .ok (.error reason) => return .refused reason
  | .ok (.ok (command, update)) =>
    let _ ← refresh
    return ⟨true, "Filter '" ++ command.filterName ++ "' updated: " ++ update.field.name ++ " = " ++
      update.describe⟩

/-- The channel on which a sender is answered: the last one with the name that the message gives for
its source. -/
def confirmationRoute (c : Config) (m : Message) : Except Fault (Option Nat) :=
  match m.metadata.source.orElse (.str "") with
  | .str name => .ok (c.lastRouteNamed? name)
  | source =>
    if source.hashable then .ok none else .error (.wrongKind (.unhashable source.kindName))

/-- Tells the sender that an update was carried out. A confirmation that gets lost does not
matter. -/
def confirm (c : Config) (m : Message) (text : String) : Task Unit := do
  match ← ExceptT.mk (pure (confirmationRoute c m)) with
  | none => return
  | some route =>
    match ← ask (.available route) with
    | .error f => throw f
    | .ok false => return
    | .ok true =>
      let _ ← ask (.send route m.sender.phone text)
      return

/-- Carries out the command in a message. -/
def handle (c : Config) (m : Message) : Task CommandResult := do
  if !c.isAdmin m then return .refused unauthorized
  match ← ExceptT.mk (pure (Command.Intent.ofJson m.text)) with
  | .help => return ⟨true, Command.helpText⟩
  | .list => listFilters
  | .update =>
    let result ← updateFilter m.text.shown
    if result.success then confirm c m result.message
    return result
  | .unknown => return .refused notRecognized

/-- Carries out the command in a message; an unforeseen fault is told as such. -/
def handleCommand (c : Config) (m : Message) : Task CommandResult := do
  match ← attempt (handle c m) with
  | .ok result => return result
  | .error _ => return .refused internalError

end ChatTriage.Desk
