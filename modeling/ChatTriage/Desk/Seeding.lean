import ChatTriage.Desk.Request
import ChatTriage.Filter.Document

/-!
# Default filters

Filters that every desk starts with, given as definitions. A definition that is not acceptable or
whose name is taken is passed over, so that seeding a second time creates nothing.
-/

namespace ChatTriage.Desk

/-- The filter that a definition describes; none if the definition is not acceptable. -/
def acceptable? (definition : Json) : Except Fault (Option Filter) :=
  match Filter.ofJson definition with
  | .ok f => .ok (some f)
  | .error fault => if fault.isRejection then .ok none else .error fault

/-- Stores a filter unless its name is taken; tells whether it was stored. -/
def storeNew (f : Filter) : Task Bool := do
  match ← ask (.filterNamed f.name) with
  | .error fault => throw fault
  | .ok (some _) => return false
  | .ok none =>
    match ← ask (.storeFilter f) with
    | .ok _ => return true
    | .error (.duplicate _) => return false
    | .error fault => throw fault

/-- Creates the filter of each definition that is acceptable and whose name is free; gives the names
of those created. -/
def seed : List Json → Task (List String)
  | [] => return []
  | definition :: rest => do
    match ← ExceptT.mk (pure (acceptable? definition)) with
    | none => seed rest
    | some f =>
      let created ← storeNew f
      let names ← seed rest
      return if created then f.name :: names else names

end ChatTriage.Desk
