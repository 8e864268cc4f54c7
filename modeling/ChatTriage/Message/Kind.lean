/-!
# Kinds and priorities

What a message carries, and how urgent a filter makes it.
-/

namespace ChatTriage

/-- What a message carries. -/
inductive ContentType where
  | text
  | image
  | document
  | audio
  | video
  | location
  | contact
  | sticker
  deriving DecidableEq, Repr

namespace ContentType

/-- The written name of a content type. -/
def name : ContentType → String
  | .text => "text"
  | .image => "image"
  | .document => "document"
  | .audio => "audio"
  | .video => "video"
  | .location => "location"
  | .contact => "contact"
  | .sticker => "sticker"

/-- Every content type, in the order in which they are listed to operators. -/
def all : List ContentType :=
  [.text, .image, .document, .audio, .video, .location, .contact, .sticker]

/-- The content type with a written name. -/
def ofName? (s : String) : Option ContentType :=
  all.find? (·.name == s)

end ContentType

/-- How urgent a message is. -/
inductive Priority where
  | low
  | medium
  | high
  | urgent
  deriving DecidableEq, Repr

namespace Priority

/-- The written name of a priority. -/
def name : Priority → String
  | .low => "low"
  | .medium => "medium"
  | .high => "high"
  | .urgent => "urgent"

/-- Every priority, from the least urgent on. -/
def all : List Priority :=
  [.low, .medium, .high, .urgent]

/-- The priority with a written name. -/
def ofName? (s : String) : Option Priority :=
  all.find? (·.name == s)

end Priority

end ChatTriage
