import ChatTriage.Json
import ChatTriage.Message.Kind
import ChatTriage.Time.DateTime

/-!
# Filters

A filter is a named rule: criteria that a message may meet and the actions to take when it does.
Criteria of one category are alternatives, and a category without entries asks for nothing.
-/

namespace ChatTriage

/-- A person to look for, by number or by name. -/
structure Author where
  phone : Option String
  name : Option String
  deriving DecidableEq, Repr

/-- How many of the keywords have to be found. -/
inductive KeywordMode where
  | any
  | all
  deriving DecidableEq, Repr

/-- The written name of a mode. -/
def KeywordMode.name : KeywordMode → String
  | .any => "ANY"
  | .all => "ALL"

/-- Hours of the day and days of the week, counted from Sunday = 0. An hour that is missing is
null. -/
structure TimeRange where
  start : Json
  stop : Json
  days : List Int
  deriving DecidableEq, Repr

/-- An answer to the sender. -/
structure AutoReply where
  enabled : Bool
  message : String
  deriving DecidableEq, Repr

/-- What to do with a message that matches. -/
structure FilterActions where
  markImportant : Bool
  setPriority : Option Priority
  addTags : List String
  autoReply : AutoReply
  forwardTo : List String
  archive : Bool
  deriving DecidableEq, Repr

/-- How often a filter matched, and when it last did. -/
structure FilterStats where
  matched : Int := 0
  lastMatch : Option DateTime := none
  deriving DecidableEq, Repr

/-- A named rule. Its id is null until a store has given it one. -/
structure Filter where
  id : Json
  name : String
  description : String
  authors : List Author
  keywords : List String
  keywordMode : KeywordMode
  messageTypes : List ContentType
  timeRange : Option TimeRange
  actions : FilterActions
  enabled : Bool
  stats : FilterStats
  deriving DecidableEq, Repr

end ChatTriage
