import ChatTriage.CommandLine.Program

/-!
# Rehearsals

A world that is written down beforehand: what servers answer, how stages and the session's client
behave, what the clock shows and which files there are. Everything that leaves the program is noted,
so that a program can be tried out without anybody at the other end.
-/

namespace ChatTriage.Rehearsal

/-- How a call of the session's client ends. -/
inductive Ending where
  | fine
  | passwordNeeded
  | timeout
  | failure (text : String)
  deriving DecidableEq, Repr

def Ending.outcome : Ending → Except Fault Unit
  | .fine => .ok ()
  | .passwordNeeded => .error .passwordNeeded
  | .timeout => .error (.timeout "")
  | .failure text => .error (.runtime text)

/-- The session's client. Its authorization is told by a list whose last entry holds from then
on. -/
structure Client where
  connected : Bool := true
  authorized : List Bool := [true]
  waits : List Ending := []
  codes : List Ending := []
  signIns : List Ending := []
  qrUrl : String := "tg://login?token=AAA"
  failing : List (String × String) := []
  sentId : Option Json := none
  deriving DecidableEq, Repr

/-- A stage: its name, whether it is open, the wording of a fault when that is asked, and the
destinations at which deliveries fail. -/
structure Stage where
  name : String := ""
  available : Bool := true
  broken : Option String := none
  failing : List (String × String) := []
  deriving DecidableEq, Repr

/-- What a client was asked to do. -/
inductive Call where
  | create (account : Login.Account)
  | connect
  | disconnect
  | listen
  | login (request : Login.Request)
  | deliver (entity : Channel.Entity) (text : Json)
  | reply (text : String) (arrived : Bool)

/-- Something that left the program. -/
inductive Happening where
  | exchange (request : Channel.HttpRequest)
  | call (call : Call)
  | send (line : Nat) (stage : String) (destination text : Json)
  | forward (line : Nat) (stage messageId : String) (destination label : Json)

/-- What a file holds. -/
inductive File where
  | text (text : String)
  | tables (tables : Store.Tables)
  deriving DecidableEq, Repr

/-- The world of a rehearsal. Clients and stages are given by line. -/
structure World where
  cloudAnswers : List Channel.HttpAnswer := []
  webhookAnswers : List Channel.HttpAnswer := []
  clients : List (Nat × Client) := []
  stages : List (Nat × Stage) := []
  now : DateTime
  replyFails : Bool := false
  events : List (Json × Bool) := []
  files : List (String × File) := []
  input : String := ""
  happened : List Happening := []

/-- Something that happens in the world. -/
abbrev Scene (α : Type) : Type := StateM World α

/-- Notes something that left the program. -/
def note (h : Happening) : Scene Unit :=
  modify fun w => { w with happened := w.happened ++ [h] }

/-- The answer of a server that was told nothing. -/
def usualAnswer : Channel.HttpAnswer := .success [123, 125]

/-- The next answer of a list. -/
def next (answers : List Channel.HttpAnswer) : Channel.HttpAnswer × List Channel.HttpAnswer :=
  match answers with
  | [] => (usualAnswer, [])
  | a :: rest => (a, rest)

/-- A server's answer to a request. -/
def exchange (request : Channel.HttpRequest) : Scene Channel.HttpAnswer := do
  note (.exchange request)
  let w ← get
  if request.address.host = some Channel.Cloud.server then
    let (answer, rest) := next w.cloudAnswers
    set { w with cloudAnswers := rest }
    return answer
  else
    let (answer, rest) := next w.webhookAnswers
    set { w with webhookAnswers := rest }
    return answer

/-- The client on a line. -/
def World.client (w : World) (line : Nat) : Client :=
  (w.clients.lookup line).getD {}

/-- The world with another client on a line. -/
def World.setClient (w : World) (line : Nat) (c : Client) : World :=
  { w with clients := (line, c) :: w.clients.filter (·.1 ≠ line) }

/-- The stage on a line. -/
def World.stage (w : World) (line : Nat) : Stage :=
  (w.stages.lookup line).getD {}

/-- The world with another stage on a line. -/
def World.setStage (w : World) (line : Nat) (s : Stage) : World :=
  { w with stages := (line, s) :: w.stages.filter (·.1 ≠ line) }

/-- A client delivers a text, unless the entity is one at which it fails. -/
def deliver (line : Nat) (entity : Channel.Entity) (text : Json) :
    Scene (Except String (Option Json)) := do
  let c := (← get).client line
  match c.failing.lookup entity.text with
  | some reason => return .error reason
  | none =>
    note (.call (.deliver entity text))
    return .ok c.sentId

/-- The wording with which a stage fails at a destination, if it does. -/
def Stage.failureAt? (s : Stage) (destination : Json) : Except Fault (Option String) :=
  match destination with
  | .str d => .ok (s.failing.lookup d)
  | d => if d.hashable then .ok none else .error (.wrongKind (.unhashable d.kindName))

/-- A stage takes a delivery, unless the destination is one at which it fails. -/
def take (line : Nat) (destination : Json) (happening : String → Happening) :
    Scene (Except Fault Desk.Delivery) := do
  let s := (← get).stage line
  match s.failureAt? destination with
  | .error f => return .error f
  | .ok (some text) => return .error (.channel (.reported text))
  | .ok none =>
    note (happening s.name)
    return .ok ⟨s.name, destination, .null⟩

/-- Answers what an office asks for. -/
def office : (q : Office.Request) → Scene q.Answer
  | .wire _ (.exchange request) => exchange request
  | .wire _ .now => do return (← get).now
  | .wire line .connected => do return ((← get).client line).connected
  | .wire line (.deliver entity text) => deliver line entity text
  | .stageAvailable line => do
    let s := (← get).stage line
    match s.broken with
    | some text => return .error (.runtime text)
    | none => return .ok s.available
  | .stageSend line destination text =>
    take line destination fun name => .send line name destination text
  | .stageForward line m destination label =>
    take line destination fun name => .forward line name m.id destination label
  | .now => do return (← get).now
  | .reply text => do
    let fails := (← get).replyFails
    note (.call (.reply text !fails))
    return if fails then .error (.runtime "reply failed") else .ok ()

/-- Answers what logging in asks of the client on a line. -/
def client (line : Nat) : (q : Login.Request) → Scene q.Answer
  | .isAuthorized => do
    let w ← get
    let c := w.client line
    match c.authorized with
    | known :: later :: rest =>
      set (w.setClient line { c with authorized := later :: rest })
      return .ok known
    | [known] => return .ok known
    | [] => return .ok true
  | .requestQr => do
    note (.call (.login .requestQr))
    return .ok ((← get).client line).qrUrl
  | .awaitScan seconds => do
    note (.call (.login (.awaitScan seconds)))
    let w ← get
    let c := w.client line
    set (w.setClient line { c with waits := c.waits.tail })
    return (c.waits.headD .fine).outcome
  | .requestCode phone => do
    note (.call (.login (.requestCode phone)))
    let w ← get
    let c := w.client line
    set (w.setClient line { c with codes := c.codes.tail })
    return (c.codes.headD .fine).outcome
  | .signIn credentials => do
    note (.call (.login (.signIn credentials)))
    let w ← get
    let c := w.client line
    set (w.setClient line { c with signIns := c.signIns.tail })
    return (c.signIns.headD .fine).outcome
  | .profile => do
    note (.call (.login .profile))
    return .ok ()

/-- The name under which a file is kept: its name in the directory where commands are given, or its
path in the directory of the program. -/
def fileName? (root path : String) : Option String :=
  if path.startsWith (root ++ "/") then
    (Path.name? (path.drop (root.length + 1)).toString).map (root ++ "/" ++ ·)
  else Path.name? path

/-- The tables that are kept under a path; none yet in a file that is empty or missing. -/
def openTables (root : String) (files : List (String × File)) (path : String) :
    Except Fault Store.Tables :=
  match fileName? root path with
  | none => .error (.operation .unopenable)
  | some name =>
    match files.lookup name with
    | none => .ok {}
    | some (.tables tables) => .ok tables
    | some (.text text) => if text.isEmpty then .ok {} else .error (.operation .notDatabase)

/-- The world with tables in the file for a path. -/
def World.keep (w : World) (root path : String) (tables : Store.Tables) : World :=
  match fileName? root path with
  | some name => { w with files := (name, .tables tables) :: w.files.filter (·.1 ≠ name) }
  | none => w

/-- What is found where tables are read as a text: a byte with which no character starts. -/
def strayByte : Text.Utf8Fault := ⟨0x80, 0, 1, .invalidStart⟩

/-- The text in the file to which a path leads. -/
def readText (files : List (String × File)) (path : String) : Except Fault String :=
  match Path.find files path with
  | .error cause => .error (.file cause)
  | .ok (.text text) => .ok text
  | .ok (.tables _) => .error (.bytes strayByte)

/-- Answers what a command asks for. -/
def command (root : String) : (q : CommandLine.Request) → Scene q.Answer
  | .office event q => do
    let w ← get
    let fails := match event with
      | some i => ((w.events[i]?).map Prod.snd).getD false
      | none => false
    set { w with replyFails := fails }
    office q
  | .client q => client CommandLine.sessionLine q
  | .createClient account => note (.call (.create account))
  | .connect => note (.call .connect)
  | .disconnect => note (.call .disconnect)
  | .listen => do
    note (.call .listen)
    return (← get).events.map Prod.fst
  | .openTables path => do
    let w ← get
    let found := openTables root w.files path
    if let .ok tables := found then set (w.keep root path tables)
    return found
  | .readFile path => do return readText (← get).files path
  | .readInput => do return .ok (← get).input

/-- Rehearses an operation of an office. -/
def act {α : Type} (o : Office) (operation : Office.Act α) (w : World) : (α × Office) × World :=
  (Dialogue.run office (operation.run o)).run w

/-- Rehearses a task in an office. -/
def perform {α : Type} (o : Office) (task : Desk.Task α) (w : World) :
    (Except Fault α × Office) × World :=
  act o (Office.carryOut task) w

/-- Rehearses work on a message in an office. -/
def performOn {α : Type} (o : Office) (m : Message) (work : Desk.Work α) (w : World) :
    ((Except Fault α × Message) × Office) × World :=
  act o (Office.workOn m work) w

/-- Rehearses logging in at a console. -/
def performLogin (env : Environment) (console : Console) (w : World) :
    (Except Fault Bool × Console) × World :=
  (Dialogue.run (client CommandLine.sessionLine) ((Login.authorize env).run.run console)).run w

/-- Rehearses a command line at a console. -/
def performCommand (root : String) (env : Environment) (args : List String) (console : Console)
    (w : World) : (Except Fault Unit × Console) × World :=
  let ((outcome, place), w) :=
    (Dialogue.run (command root) (((CommandLine.carryOut root env args).run).run { console })).run w
  let w := match place.office, place.keptAt with
    | some office, some path => w.keep root path office.tables
    | _, _ => w
  ((outcome, place.console), w)

end ChatTriage.Rehearsal
