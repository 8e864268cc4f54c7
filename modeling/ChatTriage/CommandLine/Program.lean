import ChatTriage.CommandLine.Arguments
import ChatTriage.CommandLine.Overview
import ChatTriage.Desk.Intake
import ChatTriage.Desk.Seeding
import ChatTriage.Inbound.Cloud
import ChatTriage.Inbound.Session
import ChatTriage.Logging
import ChatTriage.Login
import ChatTriage.Setup

/-!
# The commands

What each command of the command line does: it opens the office, seeds the default filters, and
takes messages in from the session or from a payload, or lists filters, or logs the session in.
Files, the tables that are kept under a path, the session's client and everything that an office
asks for are asked of the surroundings.
-/

namespace ChatTriage.CommandLine

/-- What a command asks for. What an office asks for comes with the number of the event it is
about. -/
inductive Request where
  | office (event : Option Nat) (request : Office.Request)
  | client (request : Login.Request)
  | createClient (account : Login.Account)
  | connect
  | disconnect
  | listen
  | openTables (path : String)
  | readFile (path : String)
  | readInput

/-- What each request is answered with; listening, with the events that came in. -/
def Request.Answer : Request → Type
  | .office _ q => q.Answer
  | .client q => q.Answer
  | .createClient _ | .connect | .disconnect => Unit
  | .listen => List Json
  | .openTables _ => Except Fault Store.Tables
  | .readFile _ | .readInput => Except Fault String

/-- The surroundings of a command. -/
def service : Service := ⟨Request, Request.Answer⟩

/-- Where a command works: at a console, and in an office once it has been opened, whose tables are
kept under a path. -/
structure Workplace where
  office : Option Office := none
  keptAt : Option String := none
  console : Console := {}
  deriving DecidableEq, Repr

/-- What a command does. -/
abbrev Work (α : Type) : Type := ExceptT Fault (StateT Workplace (Dialogue service)) α

/-- Asks a request. -/
def ask (q : Request) : Work (Request.Answer q) :=
  ExceptT.lift (StateT.lift (Dialogue.request (S := service) q))

/-- Goes on with a result, or fails. -/
def orFail {α : Type} (r : Except Fault α) : Work α :=
  ExceptT.mk (pure r)

/-- Prints a line. -/
def print (line : String) : Work Unit :=
  modify fun w => { w with console := w.console.print line }

/-- Carries out a task of a desk in the office. -/
def inOffice {α : Type} (event : Option Nat) (task : Desk.Task α) : Work (Except Fault α) :=
  ExceptT.lift fun w => do
    let (outcome, office) ← Dialogue.run
      (fun q => Dialogue.request (S := service) (.office event q))
      ((Office.carryOut task).run (w.office.getD {}))
    return (outcome, { w with office := some office })

/-- Logs the session in; tells whether it is authorized. -/
def logIn (env : Environment) : Work Bool :=
  ExceptT.mk fun w => do
    let (outcome, console) ← Dialogue.run
      (fun q => Dialogue.request (S := service) (.client q))
      ((Login.authorize env).run.run w.console)
    return (outcome, { w with console })

/-- The path that stands for memory. Tables that are created there are gone when they are looked
for. -/
def memoryPath : String := ":memory:"

/-- Opens the office, of whose tables those that are missing are created. -/
def openOffice (s : Settings) : Work Unit := do
  let path := s.databasePath
  if path = memoryPath then
    modify fun w => { w with office := some (Office.ofTables {}) }
  else
    let tables := (← orFail (← ask (.openTables path))).complete
    modify fun w => { w with office := some (Office.ofTables tables), keptAt := some path }

/-- Puts lines into the office. -/
def putLines (change : List Line → List Line) : Work Unit :=
  modify fun w => { w with office := w.office.map fun o => { o with lines := change o.lines } }

/-- All filters that are stored. -/
def storedFilters : Work (List Filter) := do
  orFail (← orFail (← inOffice none (Desk.ask .allFilters)))

/-- Creates the default filters; gives the names of those that are new. -/
def seedFilters (s : Settings) : Work (List String) := do
  orFail (← inOffice none (Desk.seed s.defaultFilters))

/-- Opens the office, creates the default filters and puts the lines in place; gives the desk. -/
def startDesk (s : Settings) (session : Option Channel.Session) : Work Desk.Config := do
  openOffice s
  let _ ← seedFilters s
  let zone ← orFail s.zone
  let lines := s.routedLines zone session
  putLines fun _ => lines.map Prod.snd
  return s.desk zone (lines.map Prod.fst)

/-- Whatever is to be logged can be. -/
def checkLog (root : String) (env : Environment) (s : Settings) : Work Unit := do
  let _ ← orFail (Logging.setUp env s.log root)

def title : String := "CHAT ORGANIZER"

/-- Draws the program's title. -/
def showTitle : Work Unit :=
  modify fun w => { w with console := w.console.banner title }

/-- Creates the session's client. -/
def createClient (env : Environment) (s : Settings) : Work Unit := do
  ask (.createClient (← orFail (Login.Account.load env s.sessionName)))

/-- The place of the session's line. -/
def sessionLine : Nat := 2

/-- The message that an event brings, if it is listened to. -/
def heard? (selector : Inbound.Session.GroupSelector) (event : Json) :
    Except Fault (Option Message) := do
  let timestamp ← DateTime.ofJson (Inbound.Session.part event "date")
  let m ← Inbound.Session.message event timestamp
  match m.metadata.group with
  | some group => return if ← selector.accepts group.name then some m else none
  | none => return some m

/-- Takes one event in. Whatever goes wrong with it, the next one is taken in. -/
def takeIn (c : Desk.Config) (selector : Inbound.Session.GroupSelector) (event : Nat × Json) :
    Work Unit := do
  match heard? selector event.2 with
  | .ok (some m) =>
    let _ ← inOffice (some event.1) (Desk.routeMessage c Desk.replyDirectly m)
  | _ => return

def sessionOff : String := "SESSION_ENABLED is off; use 'ingest' for cloud payloads"

/-- Listens to the session and takes its messages in. -/
def run (root : String) (env : Environment) (s : Settings) : Work Unit := do
  showTitle
  checkLog root env s
  if !s.sessionEnabled then throw (.runtime sessionOff)
  createClient env s
  let zone ← orFail s.zone
  let c ← startDesk s (some { zone })
  let _ ← storedFilters
  ask .connect
  let authorized ← logIn env
  putLines fun lines => lines.set sessionLine (.channel (.session { authorized, zone }))
  let selector := Inbound.Session.GroupSelector.of s.allGroups s.groups
  let events : List Json ← ask .listen
  for event in events.zipIdx do
    takeIn c selector (event.2, event.1)

/-- The document at a path, a hyphen standing for the standard input. -/
def readPayload (path : String) : Work Json := do
  let text : Except Fault String ← if path = "-" then ask .readInput else ask (.readFile path)
  match Json.read (← orFail text) with
  | .ok body => return body
  | .error refusal => throw (.json refusal)

/-- Takes in the messages of a payload. -/
def ingest (root : String) (env : Environment) (s : Settings) (path : String) : Work Unit := do
  checkLog root env s
  let c ← startDesk s none
  let batch := Inbound.Cloud.messages (← readPayload path)
  let _ ← orFail (← inOffice none (Desk.ingest c batch.messages batch.stop))

/-- What is said about the filters that were created. -/
def seededText (names : List String) : String :=
  "Created " ++ toString names.length ++ " filter(s): " ++
    (if names.isEmpty then "-" else ", ".intercalate names)

/-- Creates the default filters. -/
def seed (root : String) (env : Environment) (s : Settings) : Work Unit := do
  checkLog root env s
  openOffice s
  print (seededText (← seedFilters s))

/-- Shows all filters. -/
def listFilters (s : Settings) : Work Unit := do
  openOffice s
  let filters ← storedFilters
  modify fun w => { w with console := w.console.display (overview filters) }

/-- What is said after logging in. -/
def loginText (authorized : Bool) : String :=
  if authorized then "Session authorized." else "Session not authorized."

/-- Logs the session in and ends. -/
def login (root : String) (env : Environment) (s : Settings) : Work Unit := do
  showTitle
  checkLog root env s
  createClient env s
  ask .connect
  print (loginText (← logIn env))
  ask .disconnect

/-- Carries out a command. -/
def Command.carryOut (root : String) (env : Environment) (s : Settings) : Command → Work Unit
  | .run => CommandLine.run root env s
  | .ingest path => CommandLine.ingest root env s path
  | .seed => CommandLine.seed root env s
  | .filters => listFilters s
  | .login => CommandLine.login root env s

/-- Carries out a command line in a directory. -/
def carryOut (root : String) (env : Environment) (args : List String) : Work Unit := do
  let s ← orFail (Settings.load root env)
  (← orFail (parse args)).carryOut root env s

end ChatTriage.CommandLine
