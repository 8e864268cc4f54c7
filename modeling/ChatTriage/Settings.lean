import ChatTriage.Fault
import ChatTriage.Text.Blank
import ChatTriage.Text.Casing
import ChatTriage.Text.Search
import ChatTriage.Time.Zone

/-!
# Settings

Everything an operator can set, read from variables of the environment. A switch is on for a few
words in any letter case; lists are separated by commas, and blank entries do not count. The
document of settings has the names by which operators know them.
-/

namespace ChatTriage

/-- The variables of an environment, each name once. -/
abbrev Environment : Type := List (String × String)

namespace Environment

/-- The value of a variable. -/
def get? (env : Environment) (name : String) : Option String :=
  env.lookup name

/-- The value of a variable, unless it is empty. -/
def nonEmpty? (env : Environment) (name : String) : Option String :=
  (env.get? name).filter (!·.isEmpty)

/-- The words that turn a switch on. -/
def onWords : List String := ["1", "true", "yes", "on"]

/-- A switch, with its position when the variable is missing or blank. -/
def flag (env : Environment) (name : String) (default : Bool) : Bool :=
  match env.get? name with
  | none => default
  | some raw =>
    let word := Text.trim raw
    if word.isEmpty then default else onWords.contains (Text.lower word)

/-- The entries of a list that is separated by commas. -/
def commaList (env : Environment) (name : String) : List String :=
  ((Text.cut ',' ((env.get? name).getD "")).map Text.trim).filter (!·.isEmpty)

/-- The items of a JSON list. -/
def jsonList (env : Environment) (name : String) : Except Fault (List Json) :=
  match env.nonEmpty? name with
  | none => .ok []
  | some raw =>
    match Json.read raw with
    | .error refusal => .error (.json refusal)
    | .ok (.arr items) => .ok items
    | .ok _ => .error (.value (.notList name))

/-- A whole number, with the one that counts when the variable is missing. -/
def integer (env : Environment) (name : String) (default : Int) : Except Fault Int :=
  match env.get? name with
  | none => .ok default
  | some raw =>
    match Number.readInteger raw with
    | .ok n => .ok n
    | .error cause => .error (.value (.integer cause))

end Environment

/-- Where log lines go, from which level on, and what is blackened in them. -/
structure LogSettings where
  enabled : Bool
  level : String
  console : Bool
  fileEnabled : Bool
  filePath : String
  fileMaxBytes : Int
  fileBackups : Int
  redact : Bool
  secretNames : List String
  deriving DecidableEq, Repr

/-- All settings. -/
structure Settings where
  databasePath : String
  timezone : String
  adminNumbers : List String
  forwardCloud : Bool
  forwardSession : Bool
  forwardWebhook : Bool
  broadcast : Option String
  cloudBroadcast : Option String
  sessionBroadcast : Option String
  webhookUrl : Option String
  accessToken : Option String
  phoneNumberId : Option String
  refreshToken : Option String
  appId : Option String
  appSecret : Option String
  sessionEnabled : Bool
  sessionName : String
  allGroups : Bool
  groups : List String
  defaultFilters : List Json
  log : LogSettings
  deriving DecidableEq, Repr

/-- The variables whose values are blackened in log lines. -/
def secretVariables : List String :=
  ["WHATSAPP_ACCESS_TOKEN", "WHATSAPP_REFRESH_TOKEN", "WHATSAPP_APP_SECRET", "API_HASH", "2FA"]

/-- The settings for logging. -/
def LogSettings.load (env : Environment) : Except Fault LogSettings := do
  let fileMaxBytes ← env.integer "LOG_FILE_MAX_BYTES" (5 * 1024 * 1024)
  let fileBackups ← env.integer "LOG_FILE_BACKUP_COUNT" 5
  return {
    enabled := env.flag "LOG_ENABLED" true
    level := (env.get? "LOG_LEVEL").getD "INFO"
    console := env.flag "LOG_CONSOLE" true
    fileEnabled := (env.nonEmpty? "LOG_FILE").isSome
    filePath := (env.get? "LOG_FILE").getD "logs/chat_organizer.log"
    fileMaxBytes, fileBackups
    redact := env.flag "LOG_REDACT" true
    secretNames := secretVariables }

/-- The settings that an environment gives to a program in a directory. -/
def Settings.load (root : String) (env : Environment) : Except Fault Settings := do
  let broadcast := env.nonEmpty? "FORWARD_SEPARATE_CHAT_NUMBER"
  let defaultFilters ← env.jsonList "DEFAULT_FILTERS"
  let log ← LogSettings.load env
  return {
    databasePath := (env.nonEmpty? "DB_PATH").getD (root ++ "/chat_organizer.db")
    timezone := (env.get? "TIMEZONE").getD ""
    adminNumbers := env.commaList "ADMIN_NUMBERS"
    forwardCloud := env.flag "FORWARD_ENABLE_CLOUD" false
    forwardSession := env.flag "FORWARD_ENABLE_SESSION" false
    forwardWebhook := env.flag "FORWARD_ENABLE_WEBHOOK" false
    broadcast
    cloudBroadcast := (env.nonEmpty? "FORWARD_CLOUD_SEPARATE_CHAT").or broadcast
    sessionBroadcast := (env.nonEmpty? "FORWARD_SESSION_SEPARATE_CHAT").or broadcast
    webhookUrl := env.nonEmpty? "FORWARD_WEBHOOK_URL"
    accessToken := env.nonEmpty? "WHATSAPP_ACCESS_TOKEN"
    phoneNumberId := env.nonEmpty? "WHATSAPP_PHONE_NUMBER_ID"
    refreshToken := env.nonEmpty? "WHATSAPP_REFRESH_TOKEN"
    appId := env.nonEmpty? "WHATSAPP_APP_ID"
    appSecret := env.nonEmpty? "WHATSAPP_APP_SECRET"
    sessionEnabled := env.flag "SESSION_ENABLED" true
    sessionName := (env.get? "SESSION_NAME").getD "chat_organizer"
    allGroups := env.flag "SESSION_GROUPS_ALL" false
    groups := env.commaList "SESSION_GROUPS_LIST"
    defaultFilters, log }

/-- The document of the settings of log lines. -/
def LogSettings.toJson (log : LogSettings) : Json :=
  .obj [
    ("enabled", .bool log.enabled), ("level", .str log.level), ("console", .bool log.console),
    ("file", .obj [
      ("enabled", .bool log.fileEnabled), ("path", .str log.filePath),
      ("max_bytes", .int log.fileMaxBytes), ("backup_count", .int log.fileBackups)]),
    ("redact", .obj [("enabled", .bool log.redact), ("patterns", .ofTexts log.secretNames)])]

/-- The document of settings. -/
def Settings.toJson (s : Settings) : Json :=
  .obj [
    ("DB_PATH", .str s.databasePath),
    ("TIMEZONE", .str s.timezone),
    ("ADMIN_NUMBERS", .ofTexts s.adminNumbers),
    ("FORWARD_ENABLE_CLOUD", .bool s.forwardCloud),
    ("FORWARD_ENABLE_SESSION", .bool s.forwardSession),
    ("FORWARD_ENABLE_WEBHOOK", .bool s.forwardWebhook),
    ("FORWARD_SEPARATE_CHAT_NUMBER", .ofText? s.broadcast),
    ("FORWARD_CLOUD_SEPARATE_CHAT", .ofText? s.cloudBroadcast),
    ("FORWARD_SESSION_SEPARATE_CHAT", .ofText? s.sessionBroadcast),
    ("FORWARD_WEBHOOK_URL", .ofText? s.webhookUrl),
    ("WHATSAPP_ACCESS_TOKEN", .ofText? s.accessToken),
    ("WHATSAPP_PHONE_NUMBER_ID", .ofText? s.phoneNumberId),
    ("WHATSAPP_REFRESH_TOKEN", .ofText? s.refreshToken),
    ("WHATSAPP_APP_ID", .ofText? s.appId),
    ("WHATSAPP_APP_SECRET", .ofText? s.appSecret),
    ("SESSION_ENABLED", .bool s.sessionEnabled),
    ("SESSION_NAME", .str s.sessionName),
    ("SESSION_GROUPS_ALL", .bool s.allGroups),
    ("SESSION_GROUPS_LIST", .ofTexts s.groups),
    ("DEFAULT_FILTERS", .arr s.defaultFilters),
    ("LOGGING", s.log.toJson)]

end ChatTriage
