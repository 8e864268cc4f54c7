import ChatTriage.Command.Field
import ChatTriage.Text.Search

/-!
# Commands in chat texts

What an operator asks for, and the parts of an update command: a verb phrase, the name of a filter,
the word for a field and a value. The field is the last word that names one and still leaves a
value, so a filter's name may hold several words, and the value is the rest of the line as it
stands.
-/

namespace ChatTriage.Command

/-- What an operator asks for. -/
inductive Intent where
  | help
  | list
  | update
  | unknown
  deriving DecidableEq, Repr

/-- The word for an intent. -/
def Intent.name : Intent → String
  | .help => "help"
  | .list => "list"
  | .update => "update"
  | .unknown => "unknown"

def helpWords : List String := ["help", "/help", "aiuto", "?"]

def listPhrases : List String := ["lista filtri", "list filters", "/filters"]

def updatePhrases : List String := ["aggiorna filtro", "update filter"]

/-- What a text asks for. -/
def Intent.of (text : String) : Intent :=
  let normalized := Text.lower (Text.trim text)
  if helpWords.contains normalized then .help
  else if listPhrases.any (Text.contains normalized) then .list
  else if updatePhrases.any (Text.contains normalized) then .update
  else .unknown

/-- What the text of a message asks for; an empty one asks for nothing. -/
def Intent.ofJson (text : Json) : Except Fault Intent :=
  ((text.orElse (.str "")).asText "strip").map Intent.of

/-- The text after a word at its start, letter case apart. -/
def afterWord? : List Char → List Char → Option (List Char)
  | [], cs => some cs
  | _ :: _, [] => none
  | w :: word, c :: cs => if Text.sameLetter w c then afterWord? word cs else none

/-- The text after one or more blanks at its start. -/
def afterBlanks? : List Char → Option (List Char)
  | c :: rest => if Text.isBlank c then some (rest.dropWhile Text.isBlank) else none
  | [] => none

/-- The text after a verb phrase of two words, each followed by blanks. -/
def afterPhrase? (verb object : String) (cs : List Char) : Option (List Char) := do
  let cs ← afterWord? verb.toList cs
  let cs ← afterBlanks? cs
  let cs ← afterWord? object.toList cs
  afterBlanks? cs

/-- The text after an update phrase at its start. -/
def afterVerb? (cs : List Char) : Option (List Char) :=
  (afterPhrase? "aggiorna" "filtro" cs).or (afterPhrase? "update" "filter" cs)

/-- The text after the first update phrase in it. -/
def afterFirstVerb? : List Char → Option (List Char)
  | [] => none
  | c :: cs => (afterVerb? (c :: cs)).or (afterFirstVerb? cs)

/-- An update command in its parts. -/
structure UpdateCommand where
  filterName : String
  field : String
  value : String
  deriving DecidableEq, Repr

/-- The command whose field is a word and whose name ends with the word before it. -/
def UpdateCommand.ofSplits (name field : Text.Split) : UpdateCommand :=
  { filterName := String.ofList (name.before ++ name.word)
    field := Text.lower (String.ofList field.word)
    value := String.ofList (Text.trimChars field.after) }

/-- A word that names a field. -/
def isFieldWord (s : Text.Split) : Bool :=
  (Field.ofWord? (String.ofList s.word)).isSome

/-- The parts of an update command. Without a word that names a field the last word but one is taken
for it. -/
def UpdateCommand.ofText (text : String) : Except Fault UpdateCommand :=
  match afterFirstVerb? text.toList with
  | none => .error (.command .usage)
  | some rest =>
    let words := Text.splits (Text.trimChars rest)
    -- a word that may be the field, with the word before it: neither the first nor the last word
    let candidates := (words.zip words.tail).dropLast
    match candidates.reverse with
    | [] => .error (.command .usage)
    | last :: _ =>
      let (name, field) := (candidates.reverse.find? fun c => isFieldWord c.2).getD last
      .ok (.ofSplits name field)

/-- What operators are told about commands. -/
def helpText : String :=
  "\n".intercalate [
    "Available commands:",
    "- help: show this message",
    "- lista filtri / list filters: show every filter with its state",
    "- aggiorna filtro <name> <field> <value>: edit a filter",
    "",
    "Fields: " ++ listed (Field.all.map Field.name),
    "List fields accept a JSON array or a single value.",
    "Boolean fields (important, archive, active) accept true or false."]

/-- One line about a filter. -/
def filterLine (f : Filter) : String :=
  "- " ++ f.name ++ " [" ++ (if f.enabled then "on" else "off") ++ "] matches: " ++
    toString f.stats.matched

/-- The list of filters that operators are shown. -/
def filterList (filters : List Filter) : String :=
  if filters.isEmpty then "No filters configured."
  else "\n".intercalate
    (("Filters (" ++ toString filters.length ++ "):") :: filters.map filterLine)

end ChatTriage.Command
