import ChatTriage.Filter.Document
import ChatTriage.Json.Writer

/-!
# Editing the fields of filters

The fields of a filter that operators may edit from chat, the values they write for them, and the
change that a value makes. A list may be written as a JSON array or, since quoting is awkward on a
phone, as one bare entry.
-/

namespace ChatTriage.Command

/-- A field that operators may edit. -/
inductive Field where
  | keywords
  | authors
  | messageTypes
  | priority
  | important
  | archive
  | active
  deriving DecidableEq, Repr

namespace Field

/-- The word for a field. -/
def name : Field → String
  | .keywords => "keywords"
  | .authors => "authors"
  | .messageTypes => "messagetypes"
  | .priority => "priority"
  | .important => "important"
  | .archive => "archive"
  | .active => "active"

/-- Every field, in the order in which they are listed to operators. -/
def all : List Field :=
  [.keywords, .authors, .messageTypes, .priority, .important, .archive, .active]

/-- The field that a word names, in any letter case. -/
def ofWord? (word : String) : Option Field :=
  let word := Text.lower (Text.trim word)
  all.find? (·.name == word)

end Field

/-- The entries of a list value: the items of a JSON array, or else the text itself. -/
def listValue (raw : String) : Except Fault (List Json) :=
  match Json.read raw with
  | .ok (.arr items) => .ok items
  | .ok _ => .ok [.str raw]
  | .error refusal => if refusal.isTooDeep then .error (.json refusal) else .ok [.str raw]

/-- The truth value that a text writes, in any letter case. -/
def boolValue (raw : String) : Except Fault Bool :=
  let word := Text.lower (Text.trim raw)
  if word = "true" then .ok true
  else if word = "false" then .ok false
  else .error (.command (.notBoolean raw))

/-- The content type that an entry names, in any letter case. -/
def typeValue (raw : Json) : Except Fault ContentType :=
  match ContentType.ofName? (Text.lower (Text.trim raw.shown)) with
  | some t => .ok t
  | none => .error (.command (.unknownType raw))

/-- The priority that a text names, in any letter case. -/
def priorityValue (raw : String) : Except Fault Priority :=
  match Priority.ofName? (Text.lower (Text.trim raw)) with
  | some p => .ok p
  | none => .error (.command (.unknownPriority raw))

/-- A new value for a field of a filter. -/
inductive Update where
  | keywords (keywords : List String)
  | authors (authors : List Author)
  | messageTypes (types : List ContentType)
  | priority (priority : Priority)
  | important (value : Bool)
  | archive (value : Bool)
  | active (value : Bool)
  deriving DecidableEq, Repr

namespace Update

/-- The field that an update is for. -/
def field : Update → Field
  | .keywords _ => .keywords
  | .authors _ => .authors
  | .messageTypes _ => .messageTypes
  | .priority _ => .priority
  | .important _ => .important
  | .archive _ => .archive
  | .active _ => .active

/-- The update of a field that a value asks for. -/
def read (field : Field) (raw : String) : Except Fault Update :=
  match field with
  | .keywords => do return .keywords ((← listValue raw).map Json.shown)
  | .authors => do return .authors ((← listValue raw).map Author.ofJson)
  | .messageTypes => do return .messageTypes (← (← listValue raw).mapM typeValue)
  | .priority => .priority <$> priorityValue raw
  | .important => .important <$> boolValue raw
  | .archive => .archive <$> boolValue raw
  | .active => .active <$> boolValue raw

/-- The filter with the new value. -/
def apply (u : Update) (f : Filter) : Filter :=
  match u with
  | .keywords ks => { f with keywords := ks }
  | .authors as => { f with authors := as }
  | .messageTypes ts => { f with messageTypes := ts }
  | .priority p => { f with actions := { f.actions with setPriority := some p } }
  | .important b => { f with actions := { f.actions with markImportant := b } }
  | .archive b => { f with actions := { f.actions with archive := b } }
  | .active b => { f with enabled := b }

/-- How an author is mentioned to operators. -/
def mention (a : Author) : String :=
  (((a.name.filter (!·.isEmpty)).or (a.phone.filter (!·.isEmpty))).getD "?")

/-- The new value as it is reported to operators. -/
def describe : Update → String
  | .keywords ks => Json.write .unicode (.ofTexts ks)
  | .authors as => listed (as.map mention)
  | .messageTypes ts => listed (ts.map ContentType.name)
  | .priority p => p.name
  | .important b | .archive b | .active b => if b then "true" else "false"

end Update

end ChatTriage.Command
