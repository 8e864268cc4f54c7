import Mathlib.Data.Bool.AllAny
import Mathlib.Data.List.DropRight
import ChatTriage.Text.Blank

/-!
# The words of a text

The words of a text are its pieces between blanks, which `words` takes from the library's splitting.
Reading them one by one with their surroundings, as `splits` does, gives the same words in the same
order, and every split puts its word where it stands: `Stands` says that a word is bounded by blanks
or by the ends of the text, and a text has one such place for each number of words before it.
-/

namespace ChatTriage.Text

variable {cs xs ys gap w : List Char} {c : Char}

/-- The words of a text: its pieces between blanks, empty ones apart. -/
def words (cs : List Char) : List (List Char) :=
  (cs.splitOnP isBlank).filter fun w => !w.isEmpty

/-- Blanks and nothing else. -/
def Blank (cs : List Char) : Prop := ∀ c ∈ cs, isBlank c = true

instance : Decidable (Blank cs) :=
  decidable_of_iff (cs.all isBlank = true) List.all_eq_true

/-- One or more blanks. -/
structure Gap (cs : List Char) : Prop where
  wide : cs ≠ []
  blank : Blank cs

/-- One or more characters without a blank among them. -/
structure Solid (cs : List Char) : Prop where
  filled : cs ≠ []
  unbroken : ∀ c ∈ cs, isBlank c = false

instance : Decidable (Gap cs) :=
  decidable_of_iff (cs ≠ [] ∧ Blank cs)
    ⟨fun ⟨wide, blank⟩ => ⟨wide, blank⟩, fun gap => ⟨gap.wide, gap.blank⟩⟩

instance : Decidable (Solid cs) :=
  decidable_of_iff (cs ≠ [] ∧ (cs.all fun c => isBlank c = false) = true) <| by
    rw [List.all_iff_forall_prop]
    exact ⟨fun ⟨filled, unbroken⟩ => ⟨filled, unbroken⟩,
      fun solid => ⟨solid.filled, solid.unbroken⟩⟩

/-- A text that trimming leaves as it is, and that is not empty. -/
structure Trimmed (cs : List Char) : Prop where
  filled : cs ≠ []
  same : trimChars cs = cs

/-- Nothing has no words. -/
lemma words_nil : words [] = [] := by
  rw [words, List.splitOnP_nil]
  rfl

/-- A blank cuts the words of a text in two. -/
lemma words_append_blank (blank : isBlank c = true) :
    words (xs ++ c :: ys) = words xs ++ words ys := by
  rw [words, List.splitOnP_append_cons xs ys blank, List.filter_append]
  rfl

/-- A blank in front makes no difference to the words. -/
lemma words_cons_blank (blank : isBlank c = true) : words (c :: cs) = words cs := by
  rw [← List.nil_append (c :: cs), words_append_blank blank, words_nil, List.nil_append]

/-- Neither do several blanks. -/
lemma words_append_of_blank (blank : Blank gap) : words (gap ++ cs) = words cs := by
  induction gap with
  | nil => rfl
  | cons c gap ih =>
    rw [List.cons_append, words_cons_blank (blank c List.mem_cons_self)]
    exact ih fun d member => blank d (List.mem_cons_of_mem _ member)

/-- Blanks have no words. -/
lemma words_of_blank (blank : Blank cs) : words cs = [] := by
  rw [← List.append_nil cs, words_append_of_blank blank, words_nil]

/-- Blanks between two texts keep their words apart. -/
lemma words_append_gap (wide : Gap gap) : words (xs ++ gap ++ ys) = words xs ++ words ys := by
  obtain ⟨wide, blank⟩ := wide
  cases gap with
  | nil => exact absurd rfl wide
  | cons c gap =>
    rw [List.append_assoc, List.cons_append, words_append_blank (blank c List.mem_cons_self),
      words_append_of_blank fun d member => blank d (List.mem_cons_of_mem _ member)]

/-- A word by itself is its only word. -/
lemma words_of_solid (solid : Solid w) : words w = [w] := by
  rw [words, List.splitOnP_eq_singleton solid.unbroken]
  simp [solid.filled]

/-- Characters that are no blanks go with the word they are before. -/
lemma words_cons_solid (solid : isBlank c = false) : words (c :: cs) ≠ [] := by
  rw [words, List.splitOnP_cons_eq_if_modifyHead, if_neg (by simp [solid])]
  cases pieces : cs.splitOnP isBlank with
  | nil => exact absurd pieces (List.splitOnP_ne_nil isBlank cs)
  | cons piece pieces => simp

/-- Only blanks have no words in them. -/
lemma words_eq_nil_iff : words cs = [] ↔ Blank cs := by
  constructor
  · intro none
    induction cs with
    | nil => exact fun _ absent => absurd absent List.not_mem_nil
    | cons c cs ih =>
      cases blank : isBlank c with
      | false => exact absurd none (words_cons_solid blank)
      | true =>
        rw [words_cons_blank blank] at none
        exact List.forall_mem_cons.mpr ⟨blank, ih none⟩
  · exact words_of_blank

/-! ### Trimming -/

/-- A text stays as it is on the left exactly when it does not begin with a blank. -/
lemma trimLeft_eq_self_iff : trimLeft cs = cs ↔ ∀ c ∈ cs.head?, isBlank c = false := by
  rw [trimLeft, List.dropWhile_eq_self_iff]
  cases cs <;> simp

/-- A text stays as it is on the right exactly when it does not end with a blank. -/
lemma trimRight_eq_self_iff : trimRight cs = cs ↔ ∀ c ∈ cs.getLast?, isBlank c = false := by
  have right : trimRight cs = cs.rdropWhile isBlank := rfl
  rw [right, List.rdropWhile_eq_self_iff]
  cases cs using List.reverseRecOn <;> simp

/-- A text is its leading blanks and the rest. -/
lemma exists_append_trimLeft (cs : List Char) : ∃ gap, Blank gap ∧ cs = gap ++ trimLeft cs :=
  ⟨cs.takeWhile isBlank, fun _ member => List.mem_takeWhile_imp member,
    List.takeWhile_append_dropWhile.symm⟩

/-- A text is the rest and its trailing blanks. -/
lemma exists_trimRight_append (cs : List Char) : ∃ gap, Blank gap ∧ cs = trimRight cs ++ gap :=
  ⟨cs.rtakeWhile isBlank, fun _ member => List.mem_rtakeWhile_imp member,
    List.rdropWhile_append_rtakeWhile.symm⟩

/-- Blanks in front are trimmed off. -/
lemma trimLeft_append_of_blank (blank : Blank gap) : trimLeft (gap ++ cs) = trimLeft cs :=
  List.dropWhile_append_of_pos blank

/-- So are blanks at the end. -/
lemma trimRight_append_of_blank (blank : Blank gap) : trimRight (cs ++ gap) = trimRight cs := by
  rw [trimRight, List.reverse_append, List.dropWhile_append_of_pos]
  · rfl
  · exact fun c member => blank c (List.mem_reverse.mp member)

/-- What was trimmed on the left stays so when it is trimmed on the right. -/
lemma trimLeft_trimRight {cs : List Char} (trimmed : trimLeft cs = cs) :
    trimLeft (trimRight cs) = trimRight cs := by
  have head : trimRight cs <+: cs := List.rdropWhile_prefix isBlank cs
  unfold trimLeft at *
  rw [List.dropWhile_eq_self_iff] at *
  intro some
  rw [head.getElem some]
  exact trimmed (Nat.lt_of_lt_of_le some head.length_le)

/-- What was trimmed has no blanks in front. -/
lemma trimLeft_trimChars (cs : List Char) : trimLeft (trimChars cs) = trimChars cs :=
  trimLeft_trimRight (List.dropWhile_idempotent isBlank cs)

/-- What was trimmed has no blanks at the end. -/
lemma trimRight_trimChars (cs : List Char) : trimRight (trimChars cs) = trimChars cs :=
  List.rdropWhile_idempotent isBlank (trimLeft cs)

/-- Trimming twice is trimming once. -/
lemma trim_trim (s : String) : trim (trim s) = trim s := by
  unfold trim
  rw [String.toList_ofList, trimChars, trimLeft_trimChars, trimRight_trimChars]

/-- A text that is trimmed on both sides is trimmed. -/
lemma Trimmed.mk_of_sides (filled : cs ≠ []) (left : trimLeft cs = cs) (right : trimRight cs = cs) :
    Trimmed cs :=
  ⟨filled, by rw [trimChars, left, right]⟩

/-- A text that trimming leaves alone is trimmed, unless it is empty. -/
lemma trimmed_of_trim {s : String} (filled : s ≠ "") (same : trim s = s) : Trimmed s.toList := by
  refine ⟨fun none => filled (String.toList_eq_nil_iff.mp none), ?_⟩
  have chars := congrArg String.toList same
  rwa [trim, String.toList_ofList] at chars

/-- A trimmed text has no blanks in front. -/
lemma Trimmed.left (trimmed : Trimmed cs) : trimLeft cs = cs := by
  rw [← trimmed.same]
  exact trimLeft_trimChars cs

/-- A trimmed text has no blanks at the end. -/
lemma Trimmed.right (trimmed : Trimmed cs) : trimRight cs = cs := by
  rw [← trimmed.same]
  exact trimRight_trimChars cs

/-- What begins and ends with trimmed texts is trimmed. -/
lemma Trimmed.append (first : Trimmed xs) (last : Trimmed ys) (between : List Char) :
    Trimmed (xs ++ between ++ ys) := by
  have left := trimLeft_eq_self_iff.mp first.left
  have right := trimRight_eq_self_iff.mp last.right
  refine .mk_of_sides (List.append_ne_nil_of_right_ne_nil _ last.filled)
    (trimLeft_eq_self_iff.mpr ?_)
    (trimRight_eq_self_iff.mpr ?_)
  · rwa [List.append_assoc, List.head?_append_of_ne_nil _ first.filled]
  · rwa [List.getLast?_append_of_ne_nil _ last.filled]

/-- Blanks before a text are trimmed. -/
lemma trimChars_append_of_blank (blank : Blank gap) : trimChars (gap ++ cs) = trimChars cs := by
  rw [trimChars, trimLeft_append_of_blank blank, trimChars]

/-- A word has no blanks to be trimmed. -/
lemma Solid.trimmed (solid : Solid cs) : Trimmed cs := by
  refine .mk_of_sides solid.filled (trimLeft_eq_self_iff.mpr ?_) (trimRight_eq_self_iff.mpr ?_)
  · exact fun c head => solid.unbroken c (List.mem_of_head? head)
  · exact fun c last => solid.unbroken c (List.mem_of_getLast? last)

/-- Trimming takes no word away. -/
lemma words_trimChars (cs : List Char) : words (trimChars cs) = words cs := by
  obtain ⟨gap, blank, left⟩ := exists_append_trimLeft cs
  obtain ⟨gap', blank', right⟩ := exists_trimRight_append (trimLeft cs)
  calc words (trimChars cs)
      = words (trimChars cs ++ gap') := by
        cases gap' with
        | nil => rw [List.append_nil]
        | cons c gap' =>
          rw [words_append_blank (blank' c List.mem_cons_self),
            words_of_blank fun d member => blank' d (List.mem_cons_of_mem _ member),
            List.append_nil]
    _ = words (trimLeft cs) := congrArg words right.symm
    _ = words (gap ++ trimLeft cs) := (words_append_of_blank blank).symm
    _ = words cs := congrArg words left.symm

/-- Trimming the front first makes no difference. -/
lemma trimChars_trimLeft (cs : List Char) : trimChars (trimLeft cs) = trimChars cs :=
  congrArg trimRight (List.dropWhile_idempotent isBlank cs)

/-- Trimming the front leaves the words. -/
lemma words_trimLeft (cs : List Char) : words (trimLeft cs) = words cs := by
  rw [← words_trimChars, trimChars_trimLeft, words_trimChars]

/-- A text with a word in it is trimmed to something. -/
lemma trimmed_trimChars (some : words cs ≠ []) : Trimmed (trimChars cs) := by
  refine .mk_of_sides ?_ (trimLeft_trimChars cs) (trimRight_trimChars cs)
  intro none
  rw [← words_trimChars, none, words_nil] at some
  exact some rfl

/-- A text that is trimmed begins with a word. -/
lemma Trimmed.words_ne_nil (trimmed : Trimmed cs) : words cs ≠ [] := by
  have left := trimLeft_eq_self_iff.mp trimmed.left
  cases cs with
  | nil => exact absurd rfl trimmed.filled
  | cons c cs => exact words_cons_solid (left c rfl)

/-- The beginning of a trimmed text is trimmed if it does not end with a blank. -/
lemma Trimmed.of_append_left (trimmed : Trimmed (xs ++ ys)) (filled : xs ≠ [])
    (ends : ∀ c ∈ xs.getLast?, isBlank c = false) : Trimmed xs := by
  have left := trimLeft_eq_self_iff.mp trimmed.left
  rw [List.head?_append_of_ne_nil xs filled] at left
  exact .mk_of_sides filled (trimLeft_eq_self_iff.mpr left) (trimRight_eq_self_iff.mpr ends)

/-- What has a word in it is trimmed on the right on its own. -/
lemma trimRight_append (some : words ys ≠ []) : trimRight (xs ++ ys) = xs ++ trimRight ys := by
  obtain ⟨gap, blank, text⟩ := exists_trimRight_append ys
  have filled : trimRight ys ≠ [] := by
    intro none
    rw [text, none, List.nil_append, words_of_blank blank] at some
    exact some rfl
  have right : trimRight (trimRight ys) = trimRight ys := List.rdropWhile_idempotent isBlank ys
  calc trimRight (xs ++ ys)
      = trimRight (xs ++ trimRight ys ++ gap) := by rw [List.append_assoc, ← text]
    _ = trimRight (xs ++ trimRight ys) := trimRight_append_of_blank blank
    _ = xs ++ trimRight ys := by
      rw [trimRight_eq_self_iff, List.getLast?_append_of_ne_nil xs filled]
      exact trimRight_eq_self_iff.mp right

/-- The end of a trimmed text has no blanks after its last word. -/
lemma Trimmed.trimChars_of_append_right (trimmed : Trimmed (xs ++ ys)) (some : words ys ≠ []) :
    trimChars ys = trimLeft ys := by
  obtain ⟨gap, blank, text⟩ := exists_append_trimLeft ys
  have filled : trimLeft ys ≠ [] := by
    intro none
    rw [text, none, List.append_nil, words_of_blank blank] at some
    exact some rfl
  have right := trimRight_eq_self_iff.mp trimmed.right
  rw [text, ← List.append_assoc, List.getLast?_append_of_ne_nil _ filled] at right
  exact trimRight_eq_self_iff.mpr right

/-! ### Where words stand -/

/-- A word between two texts that it does not run into. -/
structure Stands (before word after : List Char) : Prop where
  solid : Solid word
  opens : ∀ c ∈ before.getLast?, isBlank c = true
  closes : ∀ c ∈ after.head?, isBlank c = true

variable {before before' word word' after after' : List Char}

/-- What begins with a blank has its own words. -/
lemma words_append_of_closes (closes : ∀ c ∈ ys.head?, isBlank c = true) :
    words (xs ++ ys) = words xs ++ words ys := by
  cases ys with
  | nil => rw [List.append_nil, words_nil, List.append_nil]
  | cons c ys =>
    have blank : isBlank c = true := closes c rfl
    rw [words_append_blank blank, words_cons_blank blank]

/-- What comes after a blank has its own words. -/
lemma words_append_of_opens (opens : ∀ c ∈ xs.getLast?, isBlank c = true) :
    words (xs ++ ys) = words xs ++ words ys := by
  cases xs using List.reverseRecOn with
  | nil => rw [words_nil, List.nil_append, List.nil_append]
  | append_singleton xs c =>
    have blank : isBlank c = true := opens c (by simp)
    rw [List.append_assoc, List.singleton_append, words_append_blank blank,
      words_append_blank blank, words_nil, List.append_nil]

/-- A word that stands in a text is one of its words. -/
lemma Stands.words_eq (stands : Stands before word after) :
    words (before ++ word ++ after) = words before ++ word :: words after := by
  rw [words_append_of_closes stands.closes, words_append_of_opens stands.opens,
    words_of_solid stands.solid, List.append_assoc, List.singleton_append]

/-- What a word begins is not a text of blanks. -/
lemma Stands.words_ne_nil_of_prefix (stands : Stands before word after) (some : xs ≠ [])
    (same : word ++ after = xs ++ ys) : words xs ≠ [] := by
  obtain ⟨⟨filled, unbroken⟩, -, -⟩ := stands
  cases word with
  | nil => exact absurd rfl filled
  | cons c word =>
    cases xs with
    | nil => exact absurd rfl some
    | cons d xs =>
      obtain ⟨rfl, -⟩ := List.cons.inj same
      exact words_cons_solid (unbroken c List.mem_cons_self)

/-- The word is as long as the text goes on without a blank. -/
lemma Stands.takeWhile_eq (stands : Stands before word after) :
    (word ++ after).takeWhile (fun c => !isBlank c) = word := by
  have stop : after.takeWhile (fun c => !isBlank c) = [] := by
    cases after with
    | nil => rfl
    | cons c after => rw [List.takeWhile_cons_of_neg (by simp [stands.closes c rfl])]
  rw [List.takeWhile_append_of_pos, stop, List.append_nil]
  exact fun c member => by simp [stands.solid.unbroken c member]

/-- What ends with a word does not end with a blank. -/
lemma Stands.ends (stands : Stands before word after) :
    ∀ c ∈ (before ++ word).getLast?, isBlank c = false := by
  rw [List.getLast?_append_of_ne_nil before stands.solid.filled]
  exact fun c last => stands.solid.unbroken c (List.mem_of_getLast? last)

/-- Going on from where a word begins adds to the words passed. -/
lemma Stands.eq_nil_of_words (stands : Stands before word after) {more : List Char}
    (same : word ++ after = more ++ xs)
    (count : (words (before ++ more)).length = (words before).length) :
    more = [] := by
  by_contra some
  have counted : words more ≠ [] := stands.words_ne_nil_of_prefix some same
  rw [words_append_of_opens stands.opens, List.length_append] at count
  have positive := List.length_pos_iff.mpr counted
  omega

/-- A text has one place for a word with a given number of words before it. -/
lemma Stands.unique (stands : Stands before word after) (stands' : Stands before' word' after')
    (same : before ++ word ++ after = before' ++ word' ++ after')
    (count : (words before).length = (words before').length) :
    before = before' ∧ word = word' ∧ after = after' := by
  have start : before = before' := by
    rw [List.append_assoc, List.append_assoc] at same
    rcases List.append_eq_append_iff.mp same with ⟨more, rfl, rest⟩ | ⟨more, rfl, rest⟩
    · rw [stands.eq_nil_of_words rest count.symm, List.append_nil]
    · rw [stands'.eq_nil_of_words rest count, List.append_nil]
  subst start
  have rest : word ++ after = word' ++ after' := by
    rw [List.append_assoc, List.append_assoc] at same
    exact List.append_cancel_left same
  have alike : word = word' := by rw [← stands.takeWhile_eq, rest, stands'.takeWhile_eq]
  subst alike
  exact ⟨rfl, rfl, List.append_cancel_left rest⟩

/-! ### Reading word by word -/

variable {passed : List Char} {s a b : Split} {pre post : List Split}

/-- The last word is split off at the end. -/
lemma splitsFrom_nil (some : word ≠ []) :
    splitsFrom passed word [] = [⟨passed, word.reverse, []⟩] := by
  simp [splitsFrom, some]

/-- A word ends at a blank. -/
lemma splitsFrom_blank (blank : isBlank c = true) (some : word ≠ []) :
    splitsFrom passed word (c :: cs) =
      ⟨passed, word.reverse, c :: cs⟩ :: splitsFrom (c :: (word ++ passed)) [] cs := by
  simp [splitsFrom, blank, some]

/-- A blank between words is passed over. -/
lemma splitsFrom_blank_nil (blank : isBlank c = true) :
    splitsFrom passed [] (c :: cs) = splitsFrom (c :: passed) [] cs := by
  simp [splitsFrom, blank]

/-- A word goes on until there is a blank. -/
lemma splitsFrom_solid (solid : isBlank c = false) :
    splitsFrom passed word (c :: cs) = splitsFrom passed (c :: word) cs := by
  simp [splitsFrom, solid]

/-- The letters of a word that is being read make a word. -/
lemma Solid.of_reading (some : word ≠ []) (unbroken : ∀ c ∈ word, isBlank c = false) :
    Solid word.reverse :=
  ⟨by rwa [ne_eq, List.reverse_eq_nil_iff], fun c member => unbroken c (List.mem_reverse.mp member)⟩

/-- The words of the splits are the words of what was being read and what is still to be read. -/
lemma map_word_splitsFrom (unbroken : ∀ c ∈ word, isBlank c = false) :
    (splitsFrom passed word cs).map Split.word = words (word.reverse ++ cs) := by
  induction cs generalizing passed word with
  | nil =>
    by_cases some : word = []
    · subst some
      exact words_nil.symm
    · rw [splitsFrom_nil some, List.append_nil, words_of_solid (.of_reading some unbroken)]
      rfl
  | cons c cs ih =>
    cases blank : isBlank c with
    | false =>
      rw [splitsFrom_solid blank, ih (List.forall_mem_cons.mpr ⟨blank, unbroken⟩),
        List.reverse_cons, List.append_assoc, List.singleton_append]
    | true =>
      have later {passed : List Char} : (splitsFrom passed [] cs).map Split.word = words cs :=
        ih (by simp)
      rw [words_append_blank blank]
      by_cases some : word = []
      · subst some
        rw [splitsFrom_blank_nil blank, later, List.reverse_nil, words_nil, List.nil_append]
      · rw [splitsFrom_blank blank some, List.map_cons, later,
          words_of_solid (.of_reading some unbroken), List.singleton_append]

/-- The words that are split off are the words of the text. -/
lemma map_word_splitsFrom_nil : (splitsFrom passed [] cs).map Split.word = words cs :=
  map_word_splitsFrom (by simp)

/-- The splits of a text have its words. -/
lemma map_word_splits (cs : List Char) : (splits cs).map Split.word = words cs :=
  map_word_splitsFrom_nil

/-- The words that come after a split are the words of what is after it. -/
lemma words_after_of_splitsFrom (found : splitsFrom passed word cs = pre ++ s :: post) :
    words s.after = post.map Split.word := by
  induction cs generalizing passed word pre with
  | nil =>
    by_cases some : word = []
    · subst some
      exact absurd found.symm (List.append_ne_nil_of_right_ne_nil pre (List.cons_ne_nil s post))
    · rw [splitsFrom_nil some] at found
      obtain ⟨rfl, last⟩ | ⟨_, _, absent⟩ := List.cons_eq_append_iff.mp found
      · obtain ⟨rfl, rfl⟩ := List.cons.inj last
        exact words_nil
      · exact absurd absent.symm (List.append_ne_nil_of_right_ne_nil _ (List.cons_ne_nil s post))
  | cons c cs ih =>
    cases blank : isBlank c with
    | false =>
      rw [splitsFrom_solid blank] at found
      exact ih found
    | true =>
      by_cases some : word = []
      · subst some
        rw [splitsFrom_blank_nil blank] at found
        exact ih found
      · rw [splitsFrom_blank blank some] at found
        obtain ⟨rfl, first⟩ | ⟨pre, rfl, later⟩ := List.cons_eq_append_iff.mp found
        · obtain ⟨rfl, rfl⟩ := List.cons.inj first
          rw [words_cons_blank blank]
          exact map_word_splitsFrom_nil.symm
        · exact ih later

/-- A split puts its word where it stands. -/
lemma stands_of_mem_splitsFrom (opens : ∀ c ∈ passed.head?, isBlank c = true)
    (unbroken : ∀ c ∈ word, isBlank c = false) (member : s ∈ splitsFrom passed word cs) :
    Stands s.before s.word s.after := by
  induction cs generalizing passed word with
  | nil =>
    by_cases some : word = []
    · subst some
      exact absurd member List.not_mem_nil
    · rw [splitsFrom_nil some, List.mem_singleton] at member
      subst member
      exact ⟨.of_reading some unbroken, by rwa [Split.before, List.getLast?_reverse], by simp⟩
  | cons c cs ih =>
    cases blank : isBlank c with
    | false =>
      rw [splitsFrom_solid blank] at member
      exact ih opens (List.forall_mem_cons.mpr ⟨blank, unbroken⟩) member
    | true =>
      by_cases some : word = []
      · subst some
        rw [splitsFrom_blank_nil blank] at member
        exact ih (by simpa using blank) (by simp) member
      · rw [splitsFrom_blank blank some] at member
        rcases List.mem_cons.mp member with rfl | later
        · exact ⟨.of_reading some unbroken, by rwa [Split.before, List.getLast?_reverse],
            by simpa using blank⟩
        · exact ih (by simpa using blank) (by simp) later

/-- A split of a text stands between the words before it and the words after it. -/
lemma Split.stands (found : splits cs = pre ++ s :: post) : Stands s.before s.word s.after :=
  stands_of_mem_splitsFrom (by simp) (by simp)
    (found ▸ List.mem_append_right pre List.mem_cons_self)

/-- A split cuts the text in three. -/
lemma Split.text_eq (found : splits cs = pre ++ s :: post) : s.before ++ s.word ++ s.after = cs :=
  splits_append (found ▸ List.mem_append_right pre List.mem_cons_self)

/-- After a split come the words of the later ones. -/
lemma Split.words_after (found : splits cs = pre ++ s :: post) :
    words s.after = post.map Split.word :=
  words_after_of_splitsFrom found

/-- Before a split stand the words of the earlier ones. -/
lemma Split.words_before (found : splits cs = pre ++ s :: post) :
    words s.before = pre.map Split.word := by
  have all : words s.before ++ s.word :: words s.after = pre.map Split.word ++
      s.word :: words s.after := by
    rw [← (Split.stands found).words_eq, Split.text_eq found, ← map_word_splits, found,
      Split.words_after found, List.map_append, List.map_cons]
  exact List.append_cancel_right all

/-- Two words that follow each other have blanks between them and nothing else. -/
lemma Split.exists_gap (found : splits cs = pre ++ a :: b :: post) :
    ∃ gap, Gap gap ∧ b.before = a.before ++ a.word ++ gap := by
  have found' : splits cs = (pre ++ [a]) ++ b :: post := by rw [found, List.append_cons]
  have stands := Split.stands found
  have stands' := Split.stands found'
  have before : words b.before = words a.before ++ [a.word] := by
    rw [Split.words_before found', Split.words_before found, List.map_append, List.map_singleton]
  have same : a.before ++ a.word ++ a.after = b.before ++ (b.word ++ b.after) := by
    rw [Split.text_eq found, ← List.append_assoc, Split.text_eq found']
  -- the second word does not begin before the first has ended, as no word would be between them
  -- then
  obtain ⟨gap, between, rest⟩ : ∃ gap, b.before = a.before ++ a.word ++ gap ∧
      a.after = gap ++ (b.word ++ b.after) := by
    rcases List.append_eq_append_iff.mp same with later | ⟨more, excess, rest⟩
    · exact later
    · have none : more = [] := stands'.eq_nil_of_words rest (by
        rw [← excess, before, ← List.append_nil (a.before ++ a.word),
          Stands.words_eq ⟨stands.solid, stands.opens, by simp⟩, words_nil])
      subst none
      exact ⟨[], by simpa using excess.symm, by simpa using rest.symm⟩
  have wide : gap ≠ [] := by
    rintro rfl
    rw [List.append_nil] at between
    have some : a.before ++ a.word ≠ [] := List.append_ne_nil_of_right_ne_nil _ stands.solid.filled
    have last := List.getLast?_eq_some_getLast some
    have blank := stands'.opens _ (by rw [between]; exact last)
    exact Bool.noConfusion (blank.symm.trans (stands.ends _ last))
  have closes : ∀ c ∈ gap.head?, isBlank c = true := by
    have closes := stands.closes
    rwa [rest, List.head?_append_of_ne_nil gap wide] at closes
  have none : words gap = [] := by
    have apart : Stands a.before a.word gap := ⟨stands.solid, stands.opens, closes⟩
    have all := apart.words_eq
    rw [← between, before] at all
    simpa using all
  exact ⟨gap, ⟨wide, words_eq_nil_iff.mp none⟩, between⟩

end ChatTriage.Text
