/-!
# Finding and replacing

Substrings of a text, the replacement of every occurrence from the left without overlap, and cutting
a text at a separator.
-/

namespace ChatTriage.Text

/-- The needle stands somewhere in the text. -/
def occurs (needle : List Char) : List Char → Bool
  | [] => needle.isEmpty
  | c :: rest => needle.isPrefixOf (c :: rest) || occurs needle rest

/-- The needle stands somewhere in the text. -/
def contains (text needle : String) : Bool :=
  occurs needle.toList text.toList

/-- Replaces the occurrences of `needle` from the left; `skip` characters of the last one are still
to be dropped. -/
def replaceFrom (needle new : List Char) (skip : Nat) : List Char → List Char
  | [] => []
  | c :: rest =>
    match skip with
    | k + 1 => replaceFrom needle new k rest
    | 0 =>
      if needle.isPrefixOf (c :: rest) then
        new ++ replaceFrom needle new (needle.length - 1) rest
      else c :: replaceFrom needle new 0 rest

/-- Replaces every occurrence of a non-empty `needle`, from the left and without overlap. -/
def replaceAll (text needle new : String) : String :=
  if needle.isEmpty then text
  else String.ofList (replaceFrom needle.toList new.toList 0 text.toList)

/-- The pieces between the separators; `piece` is the one being read, in reverse. -/
def cutFrom (sep : Char) (piece : List Char) : List Char → List (List Char)
  | [] => [piece.reverse]
  | c :: rest =>
      if c = sep then piece.reverse :: cutFrom sep [] rest else cutFrom sep (c :: piece) rest

/-- The pieces of a text between the separators; a text without one is its own only piece. -/
def cut (sep : Char) (text : String) : List String :=
  (cutFrom sep [] text.toList).map String.ofList

end ChatTriage.Text
