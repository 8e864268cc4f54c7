/-!
# Blanks

A property of characters is kept as the increasing list of the code points where membership
changes: the first edge opens a range, the second closes it, and so on. The lookup walks the list
once and stops at the first edge beyond the code point.

Of the blanks it says which characters separate words, and what trimming leaves. They are the white
space of Unicode together with the four information separators U+001C to U+001F; the zero-width
space and the byte order mark are not among them.
-/

namespace ChatTriage.Text

/-- The side of the edges on which a code point lies: `inside` flips at every edge at or below
it. -/
def beyondEdges (inside : Bool) : List Nat → Nat → Bool
  | [], _ => inside
  | edge :: edges, c => if edge ≤ c then beyondEdges (!inside) edges c else inside

/-- Membership of a code point in the set with the given edges. -/
def inRanges (edges : List Nat) (c : Nat) : Bool :=
  beyondEdges false edges c

/-- The edges of the blank characters. -/
def blankEdges : List Nat :=
  [0x9, 0xe, 0x1c, 0x21, 0x85, 0x86, 0xa0, 0xa1, 0x1680, 0x1681, 0x2000, 0x200b, 0x2028, 0x202a,
   0x202f, 0x2030, 0x205f, 0x2060, 0x3000, 0x3001]

/-- A character that separates words. -/
def isBlank (c : Char) : Bool :=
  inRanges blankEdges c.toNat

/-- The text without its leading blanks. -/
def trimLeft (cs : List Char) : List Char :=
  cs.dropWhile isBlank

/-- The text without its trailing blanks. -/
def trimRight (cs : List Char) : List Char :=
  (cs.reverse.dropWhile isBlank).reverse

/-- The text without blanks at either end. -/
def trimChars (cs : List Char) : List Char :=
  trimRight (trimLeft cs)

/-- `trimChars` on strings. -/
def trim (s : String) : String :=
  String.ofList (trimChars s.toList)

/-- One way to read a text as something before a word, the word, and something after it. What stands
before the word is kept in reverse, as it was `passed`, so that the splits of one text share it. -/
structure Split where
  passed : List Char
  word : List Char
  after : List Char
  deriving DecidableEq, Repr

/-- What stands before the word. -/
def Split.before (s : Split) : List Char :=
  s.passed.reverse

/-- The words of a text, each with all that stands before and after it. `passed` is what was read
already, in reverse, and `word` the word being read, in reverse. -/
def splitsFrom (passed word : List Char) : List Char → List Split
  | [] => if word.isEmpty then [] else [⟨passed, word.reverse, []⟩]
  | c :: rest =>
    if isBlank c then
      if word.isEmpty then splitsFrom (c :: passed) [] rest
      else ⟨passed, word.reverse, c :: rest⟩ :: splitsFrom (c :: (word ++ passed)) [] rest
    else splitsFrom passed (c :: word) rest

/-- The words of a text, each with its surroundings, from left to right. -/
def splits (cs : List Char) : List Split :=
  splitsFrom [] [] cs

/-- Each split puts the text together again. -/
theorem splitsFrom_append {passed word cs : List Char} {s : Split}
    (h : s ∈ splitsFrom passed word cs) :
    s.before ++ s.word ++ s.after = passed.reverse ++ word.reverse ++ cs := by
  induction cs generalizing passed word with
  | nil =>
    by_cases hw : word.isEmpty <;> simp_all [splitsFrom, Split.before]
  | cons c rest ih =>
    by_cases hc : isBlank c
    · by_cases hw : word.isEmpty
      · have := @ih (c :: passed) [] (by simpa [splitsFrom, hc, hw] using h)
        have hw' : word = [] := by simpa using hw
        simpa [hw'] using this
      · rcases List.mem_cons.1 (by simpa [splitsFrom, hc, hw] using h) with rfl | h
        · simp [Split.before]
        · simpa using ih h
    · simpa using @ih passed (c :: word) (by simpa [splitsFrom, hc] using h)

/-- Reading a text as words loses nothing. -/
theorem splits_append {cs : List Char} {s : Split} (h : s ∈ splits cs) :
    s.before ++ s.word ++ s.after = cs := by
  simpa using splitsFrom_append h

end ChatTriage.Text
