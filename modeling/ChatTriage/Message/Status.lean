/-!
# The life of a message

A message is received, and is then either processed or filtered; a filtered one may be archived. The
status only moves along these edges, and asking for a state already passed is no request to move.
-/

namespace ChatTriage

/-- Where a message is in its life. -/
inductive Status where
  | received
  | processed
  | filtered
  | archived
  deriving DecidableEq, Repr

namespace Status

/-- The written name of a status. -/
def name : Status → String
  | .received => "received"
  | .processed => "processed"
  | .filtered => "filtered"
  | .archived => "archived"

/-- Every status. -/
def all : List Status :=
  [.received, .processed, .filtered, .archived]

/-- The status with a written name. -/
def ofName? (s : String) : Option Status :=
  all.find? (·.name == s)

/-- The edges of the life of a message. -/
def next : Status → List Status
  | .received => [.processed, .filtered]
  | .processed => []
  | .filtered => [.archived]
  | .archived => []

/-- The states that a message has left behind. -/
def passed : Status → List Status
  | .received => []
  | .processed => [.received]
  | .filtered => [.received]
  | .archived => [.received, .filtered]

/-- What a request to move comes to. -/
inductive Move where
  | stay
  | go
  | refuse
  deriving DecidableEq, Repr

/-- The move from one status to another: none to the present or a passed state, and otherwise only
along an edge. -/
def move (current target : Status) : Move :=
  if target = current || current.passed.contains target then .stay
  else if current.next.contains target then .go
  else .refuse

/-- A message goes only along the edges of its life. -/
theorem mem_next_of_move_go {current target : Status} (h : current.move target = .go) :
    target ∈ current.next := by
  cases current <;> cases target <;> simp_all [move, next, passed]

end Status

end ChatTriage
