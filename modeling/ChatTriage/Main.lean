import ChatTriage.CommandLine.Program
import ChatTriage.Store.Archive
import Std.Time.DateTime.Timestamp

/-!
# The program

The commands run in the surroundings that there are: the environment, files, the standard streams
and the clock. Servers and the session's network cannot be reached from here, which is what channels
and logins are told.
-/

namespace ChatTriage.CommandLine

/-- The variables that the program reads. -/
def knownVariables : List String := [
  "DB_PATH", "TIMEZONE", "ADMIN_NUMBERS", "FORWARD_ENABLE_CLOUD", "FORWARD_ENABLE_SESSION",
  "FORWARD_ENABLE_WEBHOOK", "FORWARD_SEPARATE_CHAT_NUMBER", "FORWARD_CLOUD_SEPARATE_CHAT",
  "FORWARD_SESSION_SEPARATE_CHAT", "FORWARD_WEBHOOK_URL", "WHATSAPP_ACCESS_TOKEN",
  "WHATSAPP_PHONE_NUMBER_ID", "WHATSAPP_REFRESH_TOKEN", "WHATSAPP_APP_ID", "WHATSAPP_APP_SECRET",
  "SESSION_ENABLED", "SESSION_NAME", "SESSION_GROUPS_ALL", "SESSION_GROUPS_LIST", "DEFAULT_FILTERS",
  "LOG_ENABLED", "LOG_LEVEL", "LOG_CONSOLE", "LOG_FILE", "LOG_FILE_MAX_BYTES",
  "LOG_FILE_BACKUP_COUNT", "LOG_REDACT", "API_ID", "API_HASH", "PHONE", "LOGIN_METHOD", "2FA"]

/-- The variables that are set. -/
def readEnvironment : IO Environment :=
  knownVariables.filterMapM fun name => do
    return (← IO.getEnv name).map fun value => (name, Text.ofCharacters value)

/-- The time of the clock. -/
def readClock : IO DateTime := do
  let seconds := (← Std.Time.Timestamp.now).toSecondsSinceUnixEpoch.val
  match Inbound.Cloud.dateOfSeconds seconds with
  | .ok t => return t
  | .error _ => return ⟨⟨0, by decide⟩, some .zero⟩

def unreachable : String := "no network"

/-- Answers what an office asks for. -/
def answerOffice : (q : Office.Request) → IO q.Answer
  | .wire _ (.exchange _) => return Channel.HttpAnswer.unreachable unreachable
  | .wire _ .now => readClock
  | .wire _ .connected => return false
  | .wire _ (.deliver _ _) => return .error unreachable
  | .stageAvailable _ => return .ok false
  | .stageSend .. | .stageForward .. => return .error (.channel (.reported unreachable))
  | .now => readClock
  | .reply _ => return .error (.runtime unreachable)

/-- Answers what logging in asks for. -/
def answerLogin : (q : Login.Request) → IO q.Answer
  | .isAuthorized => return .ok false
  | .requestQr => return .error (.runtime unreachable)
  | .awaitScan _ | .requestCode _ | .signIn _ => return .error (.runtime unreachable)
  | .profile => return .ok ()

/-- The text that bytes write. -/
def textOfBytes (bytes : ByteArray) : Except Fault String :=
  match Text.decodeUtf8 (bytes.toList.map UInt8.toNat) with
  | .ok text => .ok text
  | .error cause => .error (.bytes cause)

/-- The text in a file. -/
def readText (path : String) : IO (Except Fault String) := do
  try
    return textOfBytes (← IO.FS.readBinFile (Text.characters path))
  catch
    | .noFileOrDirectory .. => return .error (.file (.missing path))
    | e => return .error (.runtime (toString e))

/-- The tables that are kept in a file. -/
def openTables (path : String) : IO (Except Fault Store.Tables) := do
  match ← readText path with
  | .error (.file (.missing _)) => return .ok {}
  | .error _ => return .error (.operation .unopenable)
  | .ok text =>
    match (Json.read text).toOption.bind Store.Tables.unarchive? with
    | some tables => return .ok tables
    | none => return .error (.operation .notDatabase)

/-- Answers what a command asks for. -/
def answer : (q : Request) → IO q.Answer
  | .office _ q => answerOffice q
  | .client q => answerLogin q
  | .createClient _ | .connect | .disconnect => return ()
  | .listen => return []
  | .openTables path => openTables path
  | .readFile path => readText path
  | .readInput => do
    let input ← (← IO.getStdin).readToEnd
    return .ok (Text.ofCharacters input)

/-- Keeps the tables of an office that was opened. -/
def keepTables (w : Workplace) : IO Unit := do
  match w.office, w.keptAt with
  | some office, some path =>
      IO.FS.writeFile (Text.characters path) (Json.write .ascii office.tables.archive)
  | _, _ => return

/-- A table as lines of text. -/
def tableLines (t : Table) : List String :=
  t.title :: (t.columns.map Prod.fst :: t.rows).map (" | ".intercalate ·)

/-- Shows what a console holds. -/
def showConsole (c : Console) : IO Unit := do
  for p in c.prompts do
    match p with
    | .question text | .qrData text => IO.eprintln (Text.characters text)
    | _ => pure ()
  for o in c.output do
    match o with
    | .line text | .banner text => IO.println (Text.characters text)
  for t in c.tables do
    ((tableLines t).map Text.characters).forM IO.println

/-- The lines that are typed, for a command that may ask questions. -/
def typedLines (args : List String) : IO (List String) := do
  match parse args with
  | .ok .run | .ok .login =>
    return (← (← IO.getStdin).lines).toList.map Text.ofCharacters
  | _ => return []

end ChatTriage.CommandLine

open ChatTriage CommandLine in
/-- Carries out the command line. -/
def main (args : List String) : IO UInt32 := do
  let args := args.map Text.ofCharacters
  let root := Text.ofCharacters (toString (← IO.appDir))
  let env ← readEnvironment
  let place : Workplace := { console := { lines := ← typedLines args } }
  let (outcome, place) ← Dialogue.run answer (((carryOut root env args).run).run place)
  keepTables place
  showConsole place.console
  match outcome with
  | .ok () => return 0
  | .error (.exit code) => return code.toUInt32
  | .error fault =>
    IO.eprintln (Text.characters fault.text)
    return 1
