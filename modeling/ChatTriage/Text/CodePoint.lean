/-!
# Code points

A text is a row of code points. Nearly all of them are characters, which stand for themselves. The
surrogates, U+D800 to U+DFFF, are none, but a text can hold one by itself; such a text cannot be
encoded. A surrogate is spelled with two marks, characters from the end of the last private plane,
and so that no two texts are spelled alike each mark is spelled with two marks itself.

What comes first in a spelling never comes second, and marks are neither blanks nor digits nor
letters. So a text is found, cut, trimmed and lowered as it is spelled just as its code points are;
what counts or shows code points goes by their `spellings`.
-/

namespace ChatTriage.Text

/-- The code point of the first mark. The marks that come first in a spelling are this one and the
two after it. -/
def firstMark : Nat := 0x10f7fd

/-- The code point of the first of the marks that come second in a spelling. -/
def secondMark : Nat := 0x10f800

/-- How many marks come second in a spelling, which is also how many surrogates there are. -/
def marks : Nat := 0x800

/-- A code point that is no character. -/
def isSurrogate (point : Nat) : Bool :=
  0xd800 ≤ point && point < 0xe000

/-- The spelling with a number: those of the surrogates come first, those of the marks then. -/
def spelling (n : Nat) : List Char :=
  [Char.ofNat (firstMark + n / marks), Char.ofNat (secondMark + n % marks)]

/-- How a code point stands in a text. -/
def spell (point : Nat) : List Char :=
  if isSurrogate point then spelling (point - 0xd800)
  else if firstMark ≤ point then spelling (point - firstMark + marks)
  else [Char.ofNat point]

/-- A mark that comes first in a spelling. -/
def isFirstMark (c : Char) : Bool :=
  firstMark ≤ c.toNat && c.toNat < secondMark

/-- A mark that comes second in a spelling. -/
def isSecondMark (c : Char) : Bool :=
  secondMark ≤ c.toNat

/-- A text in the spellings of its code points. -/
def spellings : List Char → List (List Char)
  | [] => []
  | c :: [] => [[c]]
  | c :: d :: rest =>
    if isFirstMark c && isSecondMark d then [c, d] :: spellings rest
    else [c] :: spellings (d :: rest)

/-- The code point that is spelled. -/
def point : List Char → Nat
  | [] => 0
  | c :: [] => c.toNat
  | c :: d :: _ =>
    let n := (c.toNat - firstMark) * marks + (d.toNat - secondMark)
    if n < marks then 0xd800 + n else firstMark + (n - marks)

/-- What follows the first code point of a text. -/
def afterPoint : List Char → List Char
  | [] => []
  | _ :: [] => []
  | c :: d :: rest => if isFirstMark c && isSecondMark d then rest else d :: rest

/-- How many code points a text has. -/
def size (cs : List Char) : Nat :=
  (spellings cs).length

/-- The text that has some characters. -/
def ofCharacters (s : String) : String :=
  String.ofList (s.toList.flatMap fun c => spell c.toNat)

/-- The characters of a text that can be encoded. -/
def characters (s : String) : String :=
  String.ofList ((spellings s.toList).map fun spelled => Char.ofNat (point spelled))

/-- The mark that the spelling of every surrogate begins with, and no other. -/
def surrogateMark : Char := Char.ofNat firstMark

/-- A text can be encoded: there is no surrogate in it. -/
def encodable (s : String) : Bool :=
  !s.toList.contains surrogateMark

end ChatTriage.Text
