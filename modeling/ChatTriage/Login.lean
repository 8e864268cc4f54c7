import ChatTriage.Console
import ChatTriage.Dialogue
import ChatTriage.Settings

/-!
# Logging a session in

A session that is not yet authorized is logged in with a QR code or with a code sent to a phone. The
method comes from a setting or from a menu that is shown until a line answers it. When the client
asks for a password it is given once. What counts in the end is only what the client says.
-/

namespace ChatTriage.Login

/-- The client of a session: the session's name, and the application for which it is registered. -/
structure Account where
  session : String
  applicationId : Int
  applicationHash : String
  deriving DecidableEq, Repr

def missingAccount : String := "Missing API_ID or API_HASH in environment"

/-- The account that the environment gives to a session. -/
def Account.load (env : Environment) (session : String) : Except Fault Account :=
  match env.nonEmpty? "API_ID", env.nonEmpty? "API_HASH" with
  | some _, some applicationHash => do
    return { session, applicationId := ← env.integer "API_ID" 0, applicationHash }
  | _, _ => .error (.runtime missingAccount)

/-- What a client is signed in with. -/
inductive Credentials where
  | code (phone code : String)
  | password (password : String)
  deriving DecidableEq, Repr

/-- What can be asked of the session's client. -/
inductive Request where
  | isAuthorized
  | requestQr
  | awaitScan (seconds : Nat)
  | requestCode (phone : String)
  | signIn (credentials : Credentials)
  | profile

/-- What each request is answered with. -/
def Request.Answer : Request → Type
  | .isAuthorized => Except Fault Bool
  | .requestQr => Except Fault String
  | .awaitScan _ | .requestCode _ | .signIn _ | .profile => Except Fault Unit

/-- The client of a session. -/
def service : Service := ⟨Request, Request.Answer⟩

/-- Work at a console with a client. -/
abbrev Work (α : Type) : Type := ExceptT Fault (StateT Console (Dialogue service)) α

/-- Asks the client. -/
def ask (q : Request) : Work (Request.Answer q) :=
  ExceptT.lift (StateT.lift (Dialogue.request (S := service) q))

/-- Prints a line. -/
def print (line : String) : Work Unit :=
  modify (·.print line)

/-- Asks a question and reads a line. -/
def question (text : String) : Work String := do
  modify (·.prompt (.question text))
  match (← get).lines with
  | [] => throw .endOfInput
  | line :: lines =>
    modify fun c => { c with lines }
    return line

/-- A value that is set in the environment, or else asked for; `read` is what a typed line gives. -/
def given (env : Environment) (name text : String) (read : String → String) : Work String :=
  match env.nonEmpty? name with
  | some value => pure value
  | none => read <$> question text

/-- How to log in. -/
inductive Method where
  | qr
  | phone
  deriving DecidableEq, Repr

/-- The lines of the menu. -/
def menu : List String :=
  ["", "Login methods:", "[1] QR code", "[2] Phone code", "[3] Exit"]

def menuPrompt : String := "chat-organizer > "

def invalidOption : String := "Invalid option. Please choose 1, 2, or 3."

/-- What a line answers to the menu. -/
inductive Choice where
  | method (m : Method)
  | exit
  | invalid
  deriving DecidableEq, Repr

/-- The choice that a line makes. -/
def Choice.of (line : String) : Choice :=
  let word := Text.trim line
  if word = "1" then .method .qr
  else if word = "2" then .method .phone
  else if word = "3" then .exit
  else .invalid

/-- Shows the menu until a line answers it or there are no more lines. -/
def chooseFrom : List String → Console → Except Fault Method × Console
  | lines, c =>
    let c := (menu.foldl Console.print c).prompt (.question menuPrompt)
    match lines with
    | [] => (.error .endOfInput, { c with lines := [] })
    | line :: rest =>
      match Choice.of line with
      | .method m => (.ok m, { c with lines := rest })
      | .exit => (.error (.exit 0), { c with lines := rest })
      | .invalid => chooseFrom rest (c.print invalidOption)
termination_by structural lines => lines

/-- The method that the settings name. -/
def configured? (env : Environment) : Option Method :=
  let word := Text.lower (Text.trim ((env.get? "LOGIN_METHOD").getD ""))
  if word = "qr" then some .qr
  else if word = "phone" then some .phone
  else none

/-- The method to log in with. -/
def chooseMethod (env : Environment) : Work Method :=
  match configured? env with
  | some m => pure m
  | none => ExceptT.mk fun c => pure (chooseFrom c.lines c)

/-- How long a QR code is waited for. -/
def qrSeconds : Nat := 120

/-- Logs in with a QR code. -/
def byQr : Work Unit := do
  let url ← ask .requestQr
  let url ← ExceptT.mk (pure url)
  print "Scan this QR code from the app on your phone:"
  for p in [Prompt.qrBorder 1, .qrData url, .qrFit, .qrInverted] do
    modify (·.prompt p)
  let waited ← ask (.awaitScan qrSeconds)
  ExceptT.mk (pure waited)

/-- Logs in with a code that is sent to a phone. -/
def byPhone (env : Environment) : Work Unit := do
  let phone ← given env "PHONE" "Phone number (international format): " Text.trim
  let requested ← ask (.requestCode phone)
  ExceptT.mk (pure requested)
  let code ← Text.trim <$> question "Login code: "
  let signedIn ← ask (.signIn (.code phone code))
  ExceptT.mk (pure signedIn)

/-- The password for an account that needs one. -/
def password (env : Environment) : Work String :=
  given env "2FA" "2FA password: " id

/-- Logs in by a method. -/
def Method.logIn (env : Environment) : Method → Work Unit
  | .phone => byPhone env
  | .qr => byQr

/-- Runs the flow of the method that is chosen. -/
def flow (env : Environment) : Work Unit := do
  let m ← chooseMethod env
  m.logIn env

/-- Signs in with the password if a flow ended because one is needed. -/
def withPassword (env : Environment) (work : Work Unit) : Work Unit := do
  let outcome : Except Fault Unit ← ExceptT.lift work.run
  match outcome with
  | .ok () => return
  | .error .passwordNeeded =>
    let signedIn ← ask (.signIn (.password (← password env)))
    ExceptT.mk (pure signedIn)
  | .error f => throw f

/-- Asks the client whether the session is authorized, and for the profile of one that is. -/
def conclude : Work Bool := do
  let answer : Except Fault Bool ← ask .isAuthorized
  let authorized ← ExceptT.mk (pure answer)
  if authorized then
    let profile : Except Fault Unit ← ask .profile
    ExceptT.mk (pure profile)
  return authorized

/-- Logs the session in if needed; tells whether it is authorized. -/
def authorize (env : Environment) : Work Bool := do
  let answer : Except Fault Bool ← ask .isAuthorized
  let known ← ExceptT.mk (pure answer)
  if known then return true
  withPassword env (flow env)
  conclude

end ChatTriage.Login
