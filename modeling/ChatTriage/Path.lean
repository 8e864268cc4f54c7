import ChatTriage.Fault
import ChatTriage.Text.Search

/-!
# Paths

A path is a row of names between slashes. `Path.resolve` takes a row to the one that it comes down
to, without looking at any directory; `Path.find` follows a path through a directory that holds
files only, and tells why it leads to none of them.
-/

namespace ChatTriage.Path

/-- The names of a path. A slash at an end stands beside an empty name. -/
def names (path : String) : List String :=
  Text.cut '/' path

/-- The most bytes that a name has. -/
def maxName : Nat := 255

/-- The fewest bytes that are too many for a path. -/
def tooLong : Nat := 4096

/-- A name that a file can have, as far as its length goes. -/
def fits (name : String) : Bool :=
  (Text.encodeUtf8 name).length ≤ maxName

/-- A name that leads to where it stands. -/
def isIdle (name : String) : Bool :=
  name.isEmpty || name = "."

/-- Resolves names after those in `kept`, which are in reverse. -/
def resolveFrom (kept : List String) : List String → List String
  | [] => kept.reverse
  | name :: rest =>
    if isIdle name then resolveFrom kept rest
    else if name = ".." then
      match kept with
      | last :: others =>
        if last = ".." then resolveFrom (".." :: kept) rest else resolveFrom others rest
      | [] => resolveFrom [".."] rest
    else resolveFrom (name :: kept) rest

/-- Names without idle ones, in which double dots stand only at the front. -/
def resolve (names : List String) : List String :=
  resolveFrom [] names

/-- Where a path has led so far: to the directory, out of it, or to one of its files. -/
inductive Place (α : Type) where
  | inside
  | outside
  | file (content : α)
  deriving DecidableEq, Repr

/-- Follows one name of a path. -/
def step {α : Type} (files : List (String × α)) (path : String) (place : Place α) (name : String) :
    Except FileFault (Place α) :=
  match place with
  | .file _ => .error (.notDirectory path)
  | place =>
    if isIdle name then .ok place
    else if name = ".." then .ok .outside
    else if !fits name then .error (.nameTooLong path)
    else match place, files.lookup name with
      | .inside, some content => .ok (.file content)
      | _, _ => .error (.missing path)

/-- The file to which a path leads from a directory. -/
def find {α : Type} (files : List (String × α)) (path : String) : Except FileFault α :=
  if path.toList.contains '\x00' then .error .nulInPath
  else if path.isEmpty then .error (.missing path)
  else if tooLong ≤ (Text.encodeUtf8 path).length then .error (.nameTooLong path)
  else
    let start : Place α := if path.startsWith "/" then .outside else .inside
    match (names path).foldlM (step files path) start with
    | .ok (.file content) => .ok content
    | .ok _ => .error (.directory path)
    | .error cause => .error cause

/-- The name in a directory for which a path stands, be there a file or not. -/
def name? (path : String) : Option String :=
  let row := names path
  let last := row.getLastD ""
  if path.startsWith "/" || !row.dropLast.all isIdle || isIdle last || last = ".." ||
    !fits last then none
  else some last

end ChatTriage.Path
