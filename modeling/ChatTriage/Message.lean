import ChatTriage.Message.Version
import ChatTriage.Time.DateTime

/-!
# Messages

A message as the desk works on it, whichever transport brought it. Parts that transports fill in
freely are kept as the values that came; the status, the flag, the priority and the tags change
while filters are applied, and the version counts the saves.
-/

namespace ChatTriage

/-- Who sent a message. -/
structure Sender where
  phone : String
  name : Json := .null
  profileName : Json := .null
  deriving DecidableEq, Repr

/-- A file that comes with a message. -/
structure Media where
  url : Json := .null
  mimeType : Json := .null
  fileName : Json := .null
  fileSize : Json := .null
  deriving DecidableEq, Repr

/-- A place that comes with a message. -/
structure Location where
  latitude : Json := .null
  longitude : Json := .null
  name : Json := .null
  address : Json := .null
  deriving DecidableEq, Repr

/-- What a message carries. -/
structure Content where
  type : ContentType
  text : Json := .null
  media : Option Media := none
  location : Option Location := none
  deriving DecidableEq, Repr

/-- The group chat that a message was sent to. -/
structure Group where
  name : Json
  id : Json := .null
  deriving DecidableEq, Repr

/-- What the desk notes about a message. -/
structure Metadata where
  important : Bool := false
  priority : Priority := .medium
  tags : List Json := []
  notes : Json := .null
  source : Json := .null
  group : Option Group := none
  deriving DecidableEq, Repr

/-- A message. -/
structure Message where
  id : String
  sender : Sender
  content : Content
  timestamp : Option DateTime
  recipient : Json := .null
  status : Status := .received
  metadata : Metadata := {}
  version : Version := .count 0
  deriving DecidableEq, Repr

namespace Metadata

/-- A tag equal to one of the tags. -/
def hasTag (m : Metadata) (tag : Json) : Bool :=
  m.tags.any (·.same tag)

/-- Adds a tag that is not there yet. -/
def addTag (m : Metadata) (tag : Json) : Metadata :=
  if m.hasTag tag then m else { m with tags := m.tags ++ [tag] }

end Metadata

namespace Message

/-- The text of a message, empty if there is none. -/
def text (m : Message) : Json :=
  m.content.text.orElse (.str "")

/-- Moves a message along its life; the flag tells whether its status changed. -/
def advance (m : Message) (target : Status) : Except Fault (Bool × Message) :=
  match m.status.move target with
  | .stay => .ok (false, m)
  | .go => .ok (true, { m with status := target })
  | .refuse => .error (.transition m.id m.status target)

/-- Adds a tag; the flag tells whether it was new. -/
def addTag (m : Message) (tag : Json) : Bool × Message :=
  (!m.metadata.hasTag tag, { m with metadata := m.metadata.addTag tag })

/-- The date of a message as it is written; a message without one has no written form. -/
def timestampText (m : Message) : Except Fault String :=
  match m.timestamp with
  | some t => .ok t.iso
  | none => .error (.missingPart "NoneType" "isoformat")

end Message

end ChatTriage
