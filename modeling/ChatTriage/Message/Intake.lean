import ChatTriage.Message

/-!
# What a message needs

A transport may hand over a message that lacks parts. A draft is such a message; the problems of a
draft are all the reasons for which it cannot be accepted, in a fixed order.
-/

namespace ChatTriage

/-- The declared content type: a known one, or whatever else was declared. -/
inductive DeclaredType where
  | known (type : ContentType)
  | other (raw : Json)
  deriving DecidableEq, Repr

/-- A message some of whose parts may be missing, as far as its acceptance depends on them. -/
structure Draft where
  id : Option String
  phone : Option String
  type : Option DeclaredType
  timestamp : Option DateTime
  deriving DecidableEq, Repr

/-- Why a draft cannot be accepted. -/
inductive Problem where
  | noId
  | noPhone
  | noContent
  | unsupportedType (raw : Json)
  | noTimestamp
  | noOffset
  deriving DecidableEq, Repr

/-- The wording of a problem. -/
def Problem.text : Problem → String
  | .noId => "messageId is required"
  | .noPhone => "from.phoneNumber is required"
  | .noContent => "content is required"
  | .unsupportedType raw => "content.type is not supported: " ++ raw.quoted
  | .noTimestamp => "timestamp is required"
  | .noOffset => "timestamp must be timezone-aware"

/-- A message as a draft that lacks nothing. -/
def Message.draft (m : Message) : Draft :=
  ⟨some m.id, some m.sender.phone, some (.known m.content.type), m.timestamp⟩

namespace Draft

/-- A text that is missing or holds only blanks. -/
def isBlank (text : Option String) : Bool :=
  match text with
  | some s => (Text.trim s).isEmpty
  | none => true

/-- The reasons for which a draft cannot be accepted. -/
def problems (d : Draft) : List Problem :=
  (if isBlank d.id then [.noId] else []) ++
  (if isBlank d.phone then [.noPhone] else []) ++
  (match d.type with
    | none => [.noContent]
    | some (.known _) => []
    | some (.other raw) => [.unsupportedType raw]) ++
  (match d.timestamp with
    | none => [.noTimestamp]
    | some t => if t.offset.isNone then [.noOffset] else [])

/-- Accepts a draft without problems. -/
def validate (d : Draft) : Except Fault Unit :=
  match d.problems with
  | [] => .ok ()
  | problems => .error (.invalid (problems.map Problem.text))

/-- The id by which a draft is reported. -/
def reportedId (d : Draft) : String :=
  match d.id with
  | some s => if s.isEmpty then "<missing>" else s
  | none => "<missing>"

end Draft

end ChatTriage
