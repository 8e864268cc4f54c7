import ChatTriage.Fault

/-!
# Arguments of the command line

The first argument that is no option names a command; what follows belongs to the command. Only help
can be asked for by option, and its name may be shortened. A lone hyphen, a negative number, a text
with a blank and everything after a double hyphen are no options.
-/

namespace ChatTriage.CommandLine

/-- What the program is asked to do. -/
inductive Command where
  | run
  | ingest (path : String)
  | seed
  | filters
  | login
  deriving DecidableEq, Repr

/-- How one argument is taken. -/
inductive Taken where
  | plain
  | help
  | unknown
  | wrong
  | separator
  deriving DecidableEq, Repr

/-- The program ends after help was shown. -/
def helpShown : Fault := .exit 0

/-- The program cannot be used like this. -/
def misuse : Fault := .exit 2

/-- An ASCII or other decimal digit. -/
def isNumberDigit (c : Char) : Bool :=
  Text.isDecimal c

/-- A negative number: a hyphen and digits, perhaps with a point before the last of them. -/
def isNegativeNumber (cs : List Char) : Bool :=
  match cs with
  | '-' :: rest =>
    let (whole, after) := rest.span isNumberDigit
    match after with
    | [] => !whole.isEmpty
    | '\n' :: [] => !whole.isEmpty
    | '.' :: fraction =>
      let (digits, after) := fraction.span isNumberDigit
      !digits.isEmpty && (after.isEmpty || after = ['\n'])
    | _ => false
  | _ => false

/-- The short help option with more letters behind it. It takes no value: each letter has to be an
option of its own, and there is no other. -/
def clustered (letters : List Char) : Taken :=
  if letters.all (· = 'h') then .help else .wrong

/-- How an argument is taken. -/
def Taken.of (arg : String) : Taken :=
  let cs := arg.toList
  let (name, value) := cs.span (· ≠ '=')
  match cs with
  | '-' :: '-' :: [] => .separator
  | '-' :: '-' :: _ =>
    if name.isPrefixOf "--help".toList then
      if value.isEmpty then .help else .wrong
    else if cs.contains ' ' then .plain
    else .unknown
  | '-' :: 'h' :: '=' :: letters => if letters.isEmpty then .wrong else clustered letters
  | '-' :: 'h' :: letters => clustered letters
  | '-' :: _ :: _ =>
    if isNegativeNumber cs || cs.contains ' ' then .plain else .unknown
  | _ => .plain

/-- Reads the arguments of a command. `wanted` plain ones may be given; `rest` tells whether others
were seen that do not belong to it. -/
def commandArguments (wanted : Nat) (found : List String) (others : Bool) :
    List String → Except Fault (List String × Bool)
  | [] => .ok (found, others)
  | arg :: args =>
    let plain := if found.length < wanted then commandArguments wanted (found ++ [arg]) others args
      else commandArguments wanted found true args
    match Taken.of arg with
    | .plain => plain
    | .help => .error helpShown
    | .wrong => .error misuse
    | .unknown => commandArguments wanted found true args
    | .separator =>
      let taken := args.take (wanted - found.length)
      .ok (found ++ taken, others || taken.length < args.length || wanted = 0)

/-- A command without arguments of its own. -/
def bare (command : Command) (args : List String) (others : Bool) : Except Fault Command := do
  let (_, others) ← commandArguments 0 [] others args
  if others then throw misuse
  return command

/-- The command that a word names, with its arguments. -/
def ofWord (word : String) (args : List String) (others : Bool) : Except Fault Command :=
  match word with
  | "run" => bare .run args others
  | "seed" => bare .seed args others
  | "filters" => bare .filters args others
  | "login" => bare .login args others
  | "ingest" => do
    match ← commandArguments 1 [] others args with
    | ([path], false) => return .ingest path
    | _ => throw misuse
  | _ => .error misuse

/-- Reads arguments up to the command; `others` tells whether unknown options were seen. -/
def parseFrom (others : Bool) : List String → Except Fault Command
  | [] => if others then .error misuse else .ok .run
  | arg :: args =>
    match Taken.of arg with
    | .plain => ofWord arg args others
    | .help => .error helpShown
    | .wrong => .error misuse
    | .unknown => parseFrom true args
    | .separator => .error misuse

/-- What a command line asks for; without any argument the program runs. -/
def parse (args : List String) : Except Fault Command :=
  parseFrom false args

end ChatTriage.CommandLine
