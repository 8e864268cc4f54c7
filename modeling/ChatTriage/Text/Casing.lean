import ChatTriage.Text.CasingTable
import ChatTriage.Text.Blank

/-!
# Upper and lower case

The full lower-case map on texts: each character by its run in the table, the dotted capital I as an
`i` with a combining dot, and a capital sigma as a final sigma where it ends a word. Upper case is
only ever compared with ASCII words here, so it is given as far as ASCII letters can come out of it.
-/

namespace ChatTriage.Text

/-- The shift that lowers a code point, if a run of the table holds it. -/
def lowerShift? (c : Nat) : Option Int :=
  (lowerRuns.find? fun (first, last, step, _) =>
    first ≤ c && c ≤ last && (c - first) % step == 0).map fun (_, _, _, shift) => shift

/-- The lower case of one character, its surroundings apart. -/
def lowerChar (c : Char) : Char :=
  if c.toNat < 128 then c.toLower
  else match lowerShift? c.toNat with
    | some shift => Char.ofNat (c.toNat + shift).toNat
    | none => c

/-- A letter with case. -/
def isCased (c : Char) : Bool :=
  inRanges casedEdges c.toNat

/-- A character that the decision on a sigma looks through. -/
def isCaseIgnorable (c : Char) : Bool :=
  inRanges caseIgnorableEdges c.toNat

/-- The first character that counts for a sigma is a letter with case. -/
def casedAhead (cs : List Char) : Bool :=
  match cs.dropWhile isCaseIgnorable with
  | [] => false
  | c :: _ => isCased c

/-- A sigma ends a word when a cased letter comes before it and none comes after it. -/
def lowerSigma (before after : List Char) : Char :=
  if casedAhead before && !casedAhead after then 'ς' else 'σ'

/-- The lower case of a text that stands after `before`, which is in reverse. -/
def lowerFrom (before : List Char) : List Char → List Char
  | [] => []
  | c :: rest =>
    if c = 'Σ' then lowerSigma before rest :: lowerFrom (c :: before) rest
    else if c = 'İ' then 'i' :: '\u0307' :: lowerFrom (c :: before) rest
    else lowerChar c :: lowerFrom (c :: before) rest

/-- The lower case of a text. -/
def lowerChars (cs : List Char) : List Char :=
  lowerFrom [] cs

/-- The lower case of a text. -/
def lower (s : String) : String :=
  String.ofList (lowerChars s.toList)

/-- The upper case of a character as far as ASCII letters can come out of it. -/
def upperChar (c : Char) : List Char :=
  if c.toNat < 128 then [c.toUpper]
  else match c with
    | 'ß' => ['S', 'S']
    | 'ı' => ['I']
    | 'ſ' => ['S']
    | 'ﬀ' => ['F', 'F']
    | 'ﬁ' => ['F', 'I']
    | 'ﬂ' => ['F', 'L']
    | 'ﬃ' => ['F', 'F', 'I']
    | 'ﬄ' => ['F', 'F', 'L']
    | 'ﬅ' => ['S', 'T']
    | 'ﬆ' => ['S', 'T']
    | _ => [c]

/-- The upper case of a text, exact wherever it is an ASCII word. -/
def upper (s : String) : String :=
  String.ofList (s.toList.flatMap upperChar)

/-- Two characters are the same letter when the case of ASCII letters is ignored; the dotted capital
and the dotless small I both count as an `i`. -/
def sameLetter (a b : Char) : Bool :=
  let fold (c : Char) : Char := if c = 'İ' || c = 'ı' then 'i' else c.toLower
  fold a == fold b

end ChatTriage.Text
