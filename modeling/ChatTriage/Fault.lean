import ChatTriage.Json.Reader
import ChatTriage.Json.Shown
import ChatTriage.Message.Kind
import ChatTriage.Message.Status
import ChatTriage.Text.Utf8

/-!
# What can go wrong

Every way in which work on a message, a filter or a channel can fail, as causes with the data that
explain them. The wording of each is given once, by `Fault.text`.
-/

namespace ChatTriage

/-- A value of the wrong kind for what is asked of it. -/
inductive KindFault where
  | noFields (kind : String)
  | listByName
  | textByName
  | notIterable (kind : String)
  | notNumeric (kind : String)
  | unhashable (kind : String)
  | unordered (sign kind : String)
  | notJoinable (position : Nat) (kind : String)
  | notNested (kind : String)
  | textPlusNumber
  deriving DecidableEq, Repr

def KindFault.text : KindFault → String
  | .noFields kind => "'" ++ kind ++ "' object is not subscriptable"
  | .listByName => "list indices must be integers or slices, not str"
  | .textByName => "string indices must be integers, not 'str'"
  | .notIterable kind => "'" ++ kind ++ "' object is not iterable"
  | .notNumeric kind =>
    "int() argument must be a string, a bytes-like object or a real number, not '" ++ kind ++ "'"
  | .unhashable kind => "unhashable type: '" ++ kind ++ "'"
  | .unordered sign kind =>
    "'" ++ sign ++ "' not supported between instances of 'str' and '" ++ kind ++ "'"
  | .notJoinable position kind =>
    "sequence item " ++ toString position ++ ": expected str instance, " ++ kind ++ " found"
  | .notNested kind => "'" ++ kind ++ "' object does not support item assignment"
  | .textPlusNumber => "can only concatenate str (not \"int\") to str"

/-- The closed vocabularies whose members are written by name. -/
inductive Vocabulary where
  | contentType
  | priority
  | status
  | keywordMode
  deriving DecidableEq, Repr

def Vocabulary.name : Vocabulary → String
  | .contentType => "ContentType"
  | .priority => "Priority"
  | .status => "MessageStatus"
  | .keywordMode => "KeywordMatchMode"

/-- A value of the right kind that is not acceptable. -/
inductive ValueFault where
  | emptyFilterName
  | unsupportedMode (raw : Json)
  | notMember (raw : Json) (vocabulary : Vocabulary)
  | phoneCharacters (raw : Json)
  | phoneTooShort (raw : Json)
  | integer (cause : Number.IntegerFault)
  | unwritable
  | notANumber
  | date (text : String)
  | year (text : String)
  | notList (name : String)
  | address (url : String)
  | zoneName (name : String)
  | unencodable (text : String)
  deriving DecidableEq, Repr

def ValueFault.text : ValueFault → String
  | .emptyFilterName => "Filter name must not be empty"
  | .unsupportedMode raw => "Unsupported keyword match mode: " ++ raw.shown
  | .notMember raw vocabulary => raw.quoted ++ " is not a valid " ++ vocabulary.name
  | .phoneCharacters raw => "Phone number contains invalid characters: " ++ raw.quoted
  | .phoneTooShort raw => "Phone number is too short: " ++ raw.quoted
  | .integer cause => cause.message
  | .unwritable =>
    "Exceeds the limit (" ++ toString Number.maxDigits ++
      " digits) for integer string conversion; use sys.set_int_max_str_digits() to " ++
      "increase the limit"
  | .notANumber => "cannot convert float NaN to integer"
  | .date text => "Invalid isoformat string: " ++ Text.quoted text
  | .year text => text
  | .notList name => name ++ " must be a JSON list"
  | .address url => "unknown url type: " ++ Text.quoted url
  | .zoneName name => "Time zones are named by plain relative paths, got: " ++ name
  | .unencodable text => Text.unencodableText text

/-- A number beyond what can be held. -/
inductive RangeFault where
  | date
  | infiniteInteger
  | storedInteger
  | shortInteger
  | days (count : Int)
  | timestamp
  deriving DecidableEq, Repr

def RangeFault.text : RangeFault → String
  | .date => "date value out of range"
  | .infiniteInteger => "cannot convert float infinity to integer"
  | .storedInteger => "whole number beyond the 64 bits of a column"
  | .shortInteger => "Python int too large to convert to C int"
  | .days count => "days=" ++ toString count ++ "; must have magnitude <= 999999999"
  | .timestamp => "timestamp out of range for platform time_t"

/-- Why the database refused a statement. -/
inductive SqlFault where
  | noTable (table : String)
  | binding (position : Nat) (kind : String)
  | required (column : String)
  | unopenable
  | notDatabase
  deriving DecidableEq, Repr

def SqlFault.text : SqlFault → String
  | .noTable table => "no such table: " ++ table
  | .binding position kind =>
    "Error binding parameter " ++ toString position ++ ": type '" ++ kind ++ "' is not supported"
  | .required column => "NOT NULL constraint failed: " ++ column
  | .unopenable => "unable to open database file"
  | .notDatabase => "file is not a database"

/-- Why a file cannot be opened under a path. -/
inductive FileFault where
  | missing (path : String)
  | directory (path : String)
  | notDirectory (path : String)
  | nameTooLong (path : String)
  | nulInPath
  deriving DecidableEq, Repr

def FileFault.text : FileFault → String
  | .missing path => "[Errno 2] No such file or directory: " ++ Text.quoted path
  | .directory path => "[Errno 21] Is a directory: " ++ Text.quoted path
  | .notDirectory path => "[Errno 20] Not a directory: " ++ Text.quoted path
  | .nameTooLong path => "[Errno 36] File name too long: " ++ Text.quoted path
  | .nulInPath => "embedded null byte"

/-- Why a read or a write of a store failed. -/
inductive StoreFault where
  | reported (text : String)
  | filterQuery (cause : SqlFault)
  | filterSave (cause : SqlFault)
  | filterUpdate (cause : SqlFault)
  | messageInsert (cause : SqlFault)
  | messageSave (cause : SqlFault)
  | messageQuery (cause : SqlFault)
  | noFilter (id : Json)
  | noMessage (id : String)
  | unsupportedField (name : String)
  deriving DecidableEq, Repr

def StoreFault.text : StoreFault → String
  | .reported text => text
  | .filterQuery cause => "filter query failed: " ++ cause.text
  | .filterSave cause => "filter save failed: " ++ cause.text
  | .filterUpdate cause => "filter update failed: " ++ cause.text
  | .messageInsert cause => "message insert failed: " ++ cause.text
  | .messageSave cause => "message save failed: " ++ cause.text
  | .messageQuery cause => "message query failed: " ++ cause.text
  | .noFilter id => "filter " ++ id.shown ++ " does not exist"
  | .noMessage id => "message " ++ id ++ " does not exist"
  | .unsupportedField name => "unsupported filter field: " ++ name

/-- A key that is taken. -/
inductive DuplicateFault where
  | reported (text : String)
  | filterName (name : String)
  | messageId (id : String)
  deriving DecidableEq, Repr

def DuplicateFault.text : DuplicateFault → String
  | .reported text => text
  | .filterName name => "filter name '" ++ name ++ "' already exists"
  | .messageId id => "message " ++ id ++ " already exists"

/-- A write that lost against another one. -/
inductive ConflictFault where
  | reported (text : String)
  | message (id : String)
  deriving DecidableEq, Repr

def ConflictFault.text : ConflictFault → String
  | .reported text => text
  | .message id => "message " ++ id ++ " was saved concurrently"

/-- Why a channel could not deliver. -/
inductive ChannelFault where
  | reported (text : String)
  | cloudAnswer (status : Json) (body : String)
  | cloudUnreachable (reason : String)
  | refreshUnconfigured
  | refreshFailed (reason : String)
  | webhookAnswer (status : Json) (body : String)
  | webhookUnreachable (reason : String)
  | userId (destination : String)
  | phone (cause : ValueFault)
  | session (entity reason : String)
  deriving DecidableEq, Repr

def ChannelFault.text : ChannelFault → String
  | .reported text => text
  | .cloudAnswer status body => "Cloud API error " ++ status.shown ++ ": " ++ body
  | .cloudUnreachable reason => "Cloud API unreachable: " ++ reason
  | .refreshUnconfigured => "Refresh token, app id or app secret not configured"
  | .refreshFailed reason => "Token refresh failed: " ++ reason
  | .webhookAnswer status body => "Webhook error " ++ status.shown ++ ": " ++ body
  | .webhookUnreachable reason => "Webhook unreachable: " ++ reason
  | .userId destination => "Invalid user id destination: " ++ destination
  | .phone cause => cause.text
  | .session entity reason => "Session send to " ++ entity ++ " failed: " ++ reason

/-- Why an operator's command was not carried out. -/
inductive CommandFault where
  | reported (text : String)
  | usage
  | notBoolean (raw : String)
  | unknownType (raw : Json)
  | unknownPriority (raw : String)
  | unknownField (raw : String)
  deriving DecidableEq, Repr

/-- Names in the order in which they are listed to operators. -/
def listed (names : List String) : String :=
  ", ".intercalate names

def CommandFault.text : CommandFault → String
  | .reported text => text
  | .usage => "Usage: aggiorna filtro <name> <field> <value>"
  | .notBoolean raw => "Expected true or false, got '" ++ raw ++ "'"
  | .unknownType raw =>
    "Unknown message type '" ++ raw.shown ++ "' (allowed: " ++
      listed (ContentType.all.map ContentType.name) ++ ")"
  | .unknownPriority raw =>
    "Unknown priority '" ++ raw ++ "' (allowed: " ++ listed (Priority.all.map Priority.name) ++ ")"
  | .unknownField raw => "Unknown field '" ++ raw ++ "'"

/-- Why work failed. A failure that nothing here names comes with a name of its own and its
wording. -/
inductive Fault where
  | missingKey (key : Json)
  | missingPart (kind part : String)
  | wrongKind (cause : KindFault)
  | value (cause : ValueFault)
  | range (cause : RangeFault)
  | noElement
  | json (refusal : Json.Refusal)
  | bytes (cause : Text.Utf8Fault)
  | system
  | invalid (problems : List String)
  | store (cause : StoreFault)
  | duplicate (cause : DuplicateFault)
  | conflict (cause : ConflictFault)
  | channel (cause : ChannelFault)
  | command (cause : CommandFault)
  | transition (message : String) (current target : Status)
  | runtime (text : String)
  | timeout (text : String)
  | passwordNeeded
  | endOfInput
  | exit (code : Nat)
  | file (cause : FileFault)
  | unknownZone (name : String)
  | constraint (text : String)
  | operation (cause : SqlFault)
  | noChannel
  | noToken
  | foreign (kind text : String)
  deriving DecidableEq, Repr

namespace Fault

/-- The wording of a fault. -/
def text : Fault → String
  | .missingKey key => key.quoted
  | .missingPart kind part => "'" ++ kind ++ "' object has no attribute '" ++ part ++ "'"
  | .wrongKind cause => cause.text
  | .value cause => cause.text
  | .range cause => cause.text
  | .noElement => "list index out of range"
  | .json refusal => refusal.message
  | .bytes cause => cause.message
  | .system => "[Errno 75] Value too large for defined data type"
  | .invalid problems => "; ".intercalate problems
  | .store cause => cause.text
  | .duplicate cause => cause.text
  | .conflict cause => cause.text
  | .channel cause => cause.text
  | .command cause => cause.text
  | .transition message current target =>
    message ++ ": cannot move from " ++ current.name ++ " to " ++ target.name
  | .runtime text => text
  | .timeout text => text
  | .passwordNeeded => "Two-steps verification is enabled and a password is required"
  | .endOfInput => "EOF when reading a line"
  | .exit code => toString code
  | .file cause => cause.text
  | .unknownZone name => "'No time zone found with key " ++ name ++ "'"
  | .constraint text => text
  | .operation cause => cause.text
  | .noChannel => "no such channel"
  | .noToken => "a channel without a token"
  | .foreign _ text => text

/-- A store reported the failure of a read or a write. -/
def isStore : Fault → Bool
  | .store _ | .duplicate _ | .conflict _ => true
  | _ => false

/-- A definition lacks a key, or holds a value that is not acceptable. -/
def isRejection : Fault → Bool
  | .missingKey _ | .value _ | .bytes _ => true
  | .json refusal => !refusal.isTooDeep
  | _ => false

/-- A stored definition cannot be read: it is rejected, or a value is of the wrong kind. -/
def isMalformed : Fault → Bool
  | .wrongKind _ => true
  | f => f.isRejection

/-- What is rejected is malformed. -/
theorem isMalformed_of_isRejection {f : Fault} (h : f.isRejection = true) :
    f.isMalformed = true := by
  cases f <;> simp_all [isRejection, isMalformed]

end Fault

end ChatTriage
