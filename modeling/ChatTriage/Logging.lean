import ChatTriage.Json.Query
import ChatTriage.Path
import ChatTriage.Settings

/-!
# Log lines

How log lines are made and where they go. The values of certain variables are secrets: each of them
is replaced by three asterisks wherever it stands in a line, the longer secrets first.
-/

namespace ChatTriage.Logging

/-- What stands for a secret. -/
def blackened : String := "***"

/-- Longer texts come first, and texts of one length by their characters. -/
def secretBefore (a b : String) : Bool :=
  let longer (s t : String) : Bool := Text.size t.toList < Text.size s.toList
  longer a b || (!longer b a && a ≤ b)

/-- The distinct secrets among values, in the order in which they are blackened. -/
def orderSecrets (values : List String) : List String :=
  ((values.filter (!·.isEmpty)).eraseDups).mergeSort secretBefore

/-- The secrets of an environment: the values of the named variables. -/
def secrets (env : Environment) (enabled : Bool) (names : List String) : List String :=
  if enabled then orderSecrets (names.filterMap env.get?) else []

/-- A variable can have the name: the surrogates in it stand for bytes beyond ASCII. -/
def isName (name : String) : Bool :=
  (Text.spellings name.toList).all fun spelled =>
    let point := Text.point spelled
    !Text.isSurrogate point || (0xdc80 ≤ point && point < 0xdd00)

/-- What is to be blackened, as a configuration gives it: whether anything is, and the names of the
variables. Without a configuration nothing is. -/
def redaction (config : Json) : Except Fault (Bool × List String) := do
  if config = .null then return (false, [])
  if !(← config.get "enabled").truthy then return (false, [])
  let names ← (← config.getOr "patterns" (.arr [])).elements
  match names.find? fun name => !name.text?.any isName with
  | some (.str name) => throw (.value (.unencodable name))
  | some name => throw (.wrongKind (.notIterable name.kindName))
  | none => return (true, names.filterMap Json.text?)

/-- A line with the secrets blackened, one after the other. -/
def redact (secrets : List String) (line : String) : String :=
  secrets.foldl (fun line secret => Text.replaceAll line secret blackened) line

/-- A log line without its time: level, logger and text. -/
def plainLine (level logger text : String) : String :=
  level ++ " " ++ logger ++ ": " ++ text

/-- A log line with its time. -/
def timedLine (time level logger text : String) : String :=
  time ++ " " ++ plainLine level logger text

/-- The number of a level. Names that are no level count as the usual one. -/
def levelNumber (name : String) : Except Fault Nat :=
  match Text.upper name with
  | "DEBUG" => .ok 10
  | "WARN" | "WARNING" => .ok 30
  | "ERROR" => .ok 40
  | "CRITICAL" | "FATAL" => .ok 50
  | "NOTSET" => .ok 0
  | "BASIC_FORMAT" => .error (.value (.year "Unknown level"))
  | "_STYLES" => .error (.wrongKind (.notNumeric "dict"))
  | _ => .ok 20

/-- Where log lines go. -/
inductive Handler where
  | console
  | file (path : String) (maxBytes backups : Int)
  deriving DecidableEq, Repr

/-- The handlers of log lines, the level from which they take them, and the secrets they blacken. -/
structure Setup where
  level : Nat
  handlers : List Handler
  secrets : List String
  deriving DecidableEq, Repr

/-- The path of a log file as seen from the directory of the program. The directories on the way are
created, so the path must not come down to one of them or to one above them. -/
def filePath (root path : String) : Except FileFault String :=
  let inside := if path = root then ""
    else if path.startsWith (root ++ "/") then (path.drop (root.length + 1)).toString
    else path
  let names := Path.names inside
  let target := Path.resolve names
  let directories := (List.range names.length).map fun n => Path.resolve (names.take n)
  if !names.all Path.fits || Path.tooLong ≤ (Text.encodeUtf8 path).length then
    .error (.nameTooLong path)
  else if target.all (· = "..") || directories.contains target then .error (.directory path)
  else .ok ("/".intercalate target)

/-- The handler of a log file. -/
def fileHandler (log : LogSettings) (root : String) : Except Fault Handler :=
  match filePath root log.filePath with
  | .ok path => .ok (.file path log.fileMaxBytes log.fileBackups)
  | .error cause => .error (.file cause)

/-- The set-up that settings ask for; none if nothing is to be logged or nowhere. The console is set
up before the file, and each of them needs to know the level. -/
def setUp (env : Environment) (log : LogSettings) (root : String) :
    Except Fault (Option Setup) := do
  if !log.enabled || !(log.console || log.fileEnabled) then return none
  let setup (level : Nat) (handlers : List Handler) : Setup :=
    ⟨level, handlers, secrets env log.redact log.secretNames⟩
  if log.console then
    let level ← levelNumber log.level
    if log.fileEnabled then return some (setup level [.console, ← fileHandler log root])
    return some (setup level [.console])
  else
    let file ← fileHandler log root
    return some (setup (← levelNumber log.level) [file])

end ChatTriage.Logging
