import ChatTriage.Proofs.Command.Phrase

/-!
# Update commands in their parts

An update command is read without loss: what follows its verb phrase is a name, a word and a value
with blanks between them, as `Parted` says, and the word is the one that `Chosen` describes. A text
has no more than one such reading, so the command that is read is the command that is written.
-/

namespace ChatTriage.Command

open Text (words splits Split Trimmed Gap Solid Stands trimLeft trimRight trimChars)

variable {α : Type} {cs rest name gap word gap' value : List Char} {s a b : Split}
    {pre post : List Split}
  {text : String} {command : UpdateCommand}

/-! ### The word for the field -/

/-- A word that names a field. -/
def Names (word : List Char) : Prop := (Field.ofWord? (String.ofList word)).isSome = true

/-- Which word stands for the field, with the words of the name before it and those of the value
after it: the last that names a field and is not the last of all; or, if none but the first and the
last of all may, the last but one. -/
inductive Chosen (name : List (List Char)) (word : List Char) (value : List (List Char)) : Prop
  | named : Names word → (∀ w ∈ value.dropLast, ¬ Names w) → Chosen name word value
  | unnamed : (∀ w ∈ (name ++ word :: value).tail.dropLast, ¬ Names w) → value.length = 1 →
    Chosen name word value

/-- A text as a name, a word for the field and a value, each apart from the next by blanks. -/
structure Parted (cs name gap word gap' value : List Char) : Prop where
  text : cs = name ++ gap ++ word ++ gap' ++ value
  named : Trimmed name
  before : Gap gap
  solid : Solid word
  after : Gap gap'
  valued : Trimmed value
  chosen : Chosen (words name) word (words value)

/-- The word of a command is one of those that may stand for the field. -/
lemma mem_tail_dropLast {xs ys : List α} {x : α} (before : xs ≠ []) (after : ys ≠ []) :
    x ∈ (xs ++ x :: ys).tail.dropLast := by
  cases xs with
  | nil => exact absurd rfl before
  | cons y xs =>
    rw [List.cons_append, List.tail_cons, List.dropLast_append_cons,
      List.dropLast_cons_of_ne_nil after]
    exact List.mem_append_right xs List.mem_cons_self

/-- No word further to the right than the chosen one could be chosen. -/
lemma Chosen.not_lt {names names' : List (List Char)} {w w' : List Char}
    {values values' : List (List Char)}
    (chosen : Chosen names w values) (chosen' : Chosen names' w' values')
    (same : names ++ w :: values = names' ++ w' :: values') (before : names ≠ [])
    (after : values' ≠ []) :
    ¬ values'.length < values.length := by
  intro longer
  obtain ⟨more, rfl⟩ : ∃ more, values = more ++ w' :: values' := by
    obtain ⟨_ | ⟨x, more⟩, -, rest⟩ | ⟨_ | ⟨x, more⟩, -, rest⟩ := List.append_eq_append_iff.mp same
    · rw [List.nil_append, List.cons.injEq] at rest
      exact absurd (rest.2 ▸ longer) (Nat.lt_irrefl _)
    · exact ⟨more, (List.cons.inj rest).2⟩
    · rw [List.nil_append, List.cons.injEq] at rest
      exact absurd (rest.2 ▸ longer) (Nat.lt_irrefl _)
    · rw [List.cons_append, List.cons.injEq] at rest
      rw [rest.2, List.length_append, List.length_cons] at longer
      omega
  cases chosen with
  | unnamed _ one =>
    rw [List.length_append, List.length_cons] at one
    exact absurd (List.length_pos_iff.mpr after) (by omega)
  | named known none =>
    have inside : w' ∈ (more ++ w' :: values').dropLast := by
      rw [List.dropLast_append_cons, List.dropLast_cons_of_ne_nil after]
      exact List.mem_append_right more List.mem_cons_self
    cases chosen' with
    | named known' _ => exact none w' inside known'
    | unnamed none' _ =>
      rw [← same] at none'
      exact none' w (mem_tail_dropLast before (by simp)) known

/-! ### One reading -/

/-- The parts make up the text. -/
lemma Parted.append_eq (parted : Parted cs name gap word gap' value) :
    name ++ gap ++ word ++ (gap' ++ value) = cs := by
  rw [parted.text, List.append_assoc _ gap']

/-- The field stands between blanks. -/
lemma Parted.stands (parted : Parted cs name gap word gap' value) :
    Stands (name ++ gap) word (gap' ++ value) := by
  refine ⟨parted.solid, ?_, ?_⟩
  · rw [List.getLast?_append_of_ne_nil name parted.before.wide]
    exact fun c last => parted.before.blank c (List.mem_of_getLast? last)
  · rw [List.head?_append_of_ne_nil gap' parted.after.wide]
    exact fun c head => parted.after.blank c (List.mem_of_head? head)

/-- The words before the field are those of the name. -/
lemma Parted.words_before (parted : Parted cs name gap word gap' value) :
    words (name ++ gap) = words name := by
  rw [← List.append_nil (name ++ gap), Text.words_append_gap parted.before, Text.words_nil,
    List.append_nil]

/-- The words after it are those of the value. -/
lemma Parted.words_after (parted : Parted cs name gap word gap' value) :
    words (gap' ++ value) = words value :=
  Text.words_append_of_blank parted.after.blank

/-- The words of the text are those of its parts. -/
lemma Parted.words_eq (parted : Parted cs name gap word gap' value) :
    words cs = words name ++ word :: words value := by
  rw [← parted.append_eq, parted.stands.words_eq, parted.words_before, parted.words_after]

/-- The word for the field names one exactly when a word other than the first and the last does. -/
lemma Parted.known_iff (parted : Parted cs name gap word gap' value) :
    Names word ↔ ∃ w ∈ (words cs).tail.dropLast, Names w := by
  rw [parted.words_eq]
  constructor
  · exact fun known =>
      ⟨word, mem_tail_dropLast parted.named.words_ne_nil parted.valued.words_ne_nil, known⟩
  · rintro ⟨w, member, known⟩
    cases parted.chosen with
    | named known' _ => exact known'
    | unnamed none _ => exact absurd known (none w member)

/-- A text has no more than one reading in parts. -/
lemma Parted.unique {name₂ gap₂ word₂ gap₂' value₂ : List Char}
    (parted : Parted cs name gap word gap' value)
    (parted₂ : Parted cs name₂ gap₂ word₂ gap₂' value₂) :
    name = name₂ ∧ word = word₂ ∧ value = value₂ := by
  have same : words name ++ word :: words value = words name₂ ++ word₂ :: words value₂ :=
    parted.words_eq.symm.trans parted₂.words_eq
  have count : (words value).length = (words value₂).length := by
    have left := parted.chosen.not_lt parted₂.chosen same parted.named.words_ne_nil
      parted₂.valued.words_ne_nil
    have right := parted₂.chosen.not_lt parted.chosen same.symm parted₂.named.words_ne_nil
      parted.valued.words_ne_nil
    omega
  have counts := congrArg List.length same
  simp only [List.length_append, List.length_cons] at counts
  obtain ⟨before, rfl, after⟩ := parted.stands.unique parted₂.stands
    (parted.append_eq.trans parted₂.append_eq.symm)
    (by rw [parted.words_before, parted₂.words_before]; omega)
  refine ⟨?_, rfl, ?_⟩
  · rw [← parted.named.right, ← Text.trimRight_append_of_blank parted.before.blank, before,
      Text.trimRight_append_of_blank parted₂.before.blank, parted₂.named.right]
  · rw [← parted.valued.left, ← Text.trimLeft_append_of_blank parted.after.blank, after,
      Text.trimLeft_append_of_blank parted₂.after.blank, parted₂.valued.left]

/-! ### Reading -/

/-- The words inside a list are the second parts of its neighbours, the last apart. -/
lemma map_snd_zip_tail (xs : List α) :
    (xs.zip xs.tail).dropLast.map Prod.snd = xs.tail.dropLast := by
  rw [List.map_dropLast, List.map_snd_zip]
  simp

/-- Neighbours in a list that leave another behind them. -/
lemma exists_of_zip_tail {xs : List α} {x y : α} {before after : List (α × α)}
    (found : (xs.zip xs.tail).dropLast = before ++ (x, y) :: after) :
    ∃ pre post, xs = pre ++ x :: y :: post ∧ post ≠ [] ∧ before.map Prod.fst = pre ∧
      after.map Prod.snd = post.dropLast := by
  induction before generalizing xs with
  | nil =>
    match xs with
    | [] | [_] | [_, _] => exact absurd found (by simp)
    | u :: v :: w :: rest =>
      obtain ⟨pair, rfl⟩ := List.cons.inj found
      obtain ⟨rfl, rfl⟩ := Prod.mk.inj pair
      exact ⟨[], w :: rest, rfl, List.cons_ne_nil w rest, rfl, map_snd_zip_tail (v :: w :: rest)⟩
  | cons p before ih =>
    match xs with
    | [] | [_] | [_, _] => exact absurd found (by simp)
    | u :: v :: w :: rest =>
      obtain ⟨rfl, later⟩ := List.cons.inj found
      obtain ⟨pre, post, text, some, fst, snd⟩ := @ih (v :: w :: rest) later
      exact ⟨u :: pre, post, by rw [text]; rfl, some, by rw [List.map_cons, fst], snd⟩

/-- The parts of a text at two words that follow each other with another after them. -/
lemma parted_of_splits (trimmed : Trimmed cs) (found : splits cs = pre ++ a :: b :: post)
    (some : post ≠ [])
    (chosen : Chosen ((pre ++ [a]).map Split.word) b.word (post.map Split.word)) :
    ∃ gap gap', Parted cs (a.before ++ a.word) gap b.word gap' (trimChars b.after) := by
  have found' : splits cs = (pre ++ [a]) ++ b :: post := by rw [found, List.append_cons]
  have stands := Split.stands found
  have stands' := Split.stands found'
  have after : words b.after = post.map Split.word := Split.words_after found'
  have many : words b.after ≠ [] := by
    rw [after]
    exact fun none => some (List.map_eq_nil_iff.mp none)
  have name : words (a.before ++ a.word) = (pre ++ [a]).map Split.word := by
    rw [Text.words_append_of_opens stands.opens, Split.words_before found,
      Text.words_of_solid stands.solid, List.map_append, List.map_singleton]
  obtain ⟨gap, wide, before⟩ := Split.exists_gap found
  have text : a.before ++ a.word ++ gap ++ b.word ++ b.after = cs := by
    rw [← before, Split.text_eq found']
  have opens : Opens b.after := by
    cases rest : b.after with
    | nil => exact absurd (by rw [rest, Text.words_nil]) many
    | cons c rest' => exact ⟨c, rfl, stands'.closes c (by rw [rest]; rfl)⟩
  obtain ⟨gap', wide', between⟩ := opens.exists_gap
  have value : trimChars b.after = trimLeft b.after := by
    rw [← text] at trimmed
    exact trimmed.trimChars_of_append_right many
  refine ⟨gap, gap', ?_, ?_, wide, stands'.solid, wide', Text.trimmed_trimChars many, ?_⟩
  · rw [value, List.append_assoc _ gap', ← between, text]
  · have whole : Trimmed (a.before ++ a.word ++ (gap ++ b.word ++ b.after)) := by
      rwa [← List.append_assoc, ← List.append_assoc, text]
    exact whole.of_append_left
      (List.append_ne_nil_of_right_ne_nil _ stands.solid.filled) stands.ends
  · rwa [name, Text.words_trimChars, after]

/-- A word of a text with the word before it, another word being left after them. -/
def neighbours (cs : List Char) : List (Split × Split) :=
  ((splits cs).zip (splits cs).tail).dropLast

/-- The words that may stand for the field: all but the first and the last. -/
lemma map_word_neighbours (cs : List Char) :
    (neighbours cs).map (fun c => c.2.word) = (words cs).tail.dropLast := by
  have inner := congrArg (List.map Split.word) (map_snd_zip_tail (splits cs))
  rwa [List.map_map, List.map_dropLast (f := Split.word), List.map_tail,
    Text.map_word_splits] at inner

/-- The last neighbours of which the second names a field, or the last of all. -/
lemma ofText_of_neighbours {last : Split × Split} {more : List (Split × Split)}
    (scanned : afterFirstVerb? text.toList = some rest)
    (there : (neighbours (trimChars rest)).reverse = last :: more) :
    UpdateCommand.ofText text = .ok (.ofSplits
      (((last :: more).find? fun c => isFieldWord c.2).getD last).1
      (((last :: more).find? fun c => isFieldWord c.2).getD last).2) := by
  unfold neighbours at there
  simp only [UpdateCommand.ofText, scanned, there]

/-- A command needs three words after its verb. -/
lemma ofText_of_few (scanned : afterFirstVerb? text.toList = some rest)
    (few : (words rest).length < 3) : UpdateCommand.ofText text = .error (.command .usage) := by
  have none : (neighbours (trimChars rest)).reverse = [] := by
    have count := congrArg List.length (map_word_neighbours (trimChars rest))
    rw [List.length_map, List.length_dropLast, List.length_tail, Text.words_trimChars] at count
    rw [List.reverse_eq_nil_iff, ← List.length_eq_zero_iff]
    omega
  unfold neighbours at none
  simp only [UpdateCommand.ofText, scanned, none]

/-- A command needs a verb. -/
lemma ofText_of_none (scanned : afterFirstVerb? text.toList = none) :
    UpdateCommand.ofText text = .error (.command .usage) := by
  simp only [UpdateCommand.ofText, scanned]

/-- With three words or more a text is read in its parts. -/
lemma exists_parted (scanned : afterFirstVerb? text.toList = some rest)
    (many : 3 ≤ (words rest).length) :
    ∃ name gap word gap' value, Parted (trimChars rest) name gap word gap' value ∧
      UpdateCommand.ofText text =
        .ok ⟨String.ofList name, Text.lower (String.ofList word), String.ofList value⟩ := by
  have inner := map_word_neighbours (trimChars rest)
  have count := congrArg List.length inner
  rw [List.length_map, List.length_dropLast, List.length_tail, Text.words_trimChars] at count
  have trimmed : Trimmed (trimChars rest) :=
    Text.trimmed_trimChars fun none => by rw [none] at many; exact absurd many (by decide)
  obtain ⟨last, more, there⟩ : ∃ last more, (neighbours (trimChars rest)).reverse =
      last :: more := by
    refine List.exists_cons_of_ne_nil fun none => ?_
    rw [List.reverse_eq_nil_iff] at none
    rw [none, List.length_nil] at count
    omega
  have read := ofText_of_neighbours scanned there
  cases found : (last :: more).find? fun c => isFieldWord c.2 with
  | some pair =>
    obtain ⟨a, b⟩ := pair
    obtain ⟨known, later, earlier, order, none⟩ := List.find?_eq_some_iff_append.mp found
    have placed : neighbours (trimChars rest) = earlier.reverse ++ (a, b) :: later.reverse := by
      rw [← List.reverse_reverse (neighbours _), there, order, List.reverse_append,
        List.reverse_cons, List.append_assoc, List.singleton_append]
    obtain ⟨pre, post, text, some, -, after⟩ := exists_of_zip_tail placed
    have unnamed : ∀ w ∈ (post.map Split.word).dropLast, ¬ Names w := by
      rw [← List.map_dropLast, ← after, List.forall_mem_map, List.forall_mem_map]
      intro c member known
      have unknown := none c (List.mem_reverse.mp member)
      rw [show isFieldWord c.2 = true from known] at unknown
      exact Bool.noConfusion unknown
    obtain ⟨gap, gap', parted⟩ := parted_of_splits trimmed text some (.named known unnamed)
    rw [found] at read
    exact ⟨_, gap, _, gap', _, parted, read⟩
  | none =>
    obtain ⟨a, b⟩ := last
    have placed : neighbours (trimChars rest) = more.reverse ++ (a, b) :: [] := by
      rw [← List.reverse_reverse (neighbours _), there, List.reverse_cons]
    obtain ⟨pre, post, text, some, -, after⟩ := exists_of_zip_tail placed
    have one : (post.map Split.word).length = 1 := by
      have none := congrArg List.length after
      have positive := List.length_pos_iff.mpr some
      rw [List.map_nil, List.length_nil, List.length_dropLast] at none
      rw [List.length_map]
      omega
    have unnamed : ∀ w ∈ (words (trimChars rest)).tail.dropLast, ¬ Names w := by
      rw [← inner, List.forall_mem_map]
      intro c member
      rw [← List.mem_reverse, there] at member
      exact List.find?_eq_none.mp found c member
    have all : words (trimChars rest) =
        (pre ++ [a]).map Split.word ++ b.word :: post.map Split.word := by
      rw [← Text.map_word_splits, text, List.append_cons, List.map_append, List.map_cons]
    rw [all] at unnamed
    obtain ⟨gap, gap', parted⟩ := parted_of_splits trimmed text some (.unnamed unnamed one)
    rw [found] at read
    exact ⟨_, gap, _, gap', _, parted, read⟩

/-! ### Field words in lower case -/

/-- A word is for a field when it is its name, in any letter case. -/
lemma ofWord?_eq_some_iff {s : String} {field : Field} :
    Field.ofWord? s = some field ↔ Text.lower (Text.trim s) = field.name := by
  have names : Field.all.find? (·.name == field.name) = some field := by
    cases field <;> decide +kernel
  rw [Field.ofWord?]
  constructor
  · intro named
    have same := List.find?_some named
    rw [beq_iff_eq] at same
    exact same.symm
  · intro named
    rw [named]
    exact names

/-- There is nothing to trim from a word. -/
lemma trim_of_solid (solid : Solid word) : Text.trim (String.ofList word) = String.ofList word := by
  rw [Text.trim, String.toList_ofList, solid.trimmed.same]

/-- What was lowered once is the name of a field if lowering it again gives that name. -/
lemma lower_lower_eq_name {field : Field} (solid : Solid word) :
    Text.lower (Text.lower (String.ofList word)) = field.name ↔
      Text.lower (String.ofList word) = field.name := by
  constructor
  · intro named
    have ascii : ∀ c ∈ field.name.toList, c.toNat < 128 :=
      List.all_iff_forall_prop.mp (by cases field <;> decide +kernel)
    have lowered : ∀ c ∈ Text.lowerChars word, Text.Lowered c := fun c member =>
      Text.lowered_of_mem_lowerFrom solid.unbroken member
    rw [Text.lower, Text.lower, String.toList_ofList, String.toList_ofList] at named
    rw [← named, String.toList_ofList] at ascii
    rw [← named, Text.lower, String.toList_ofList]
    exact congrArg String.ofList (Text.lowerFrom_eq_self lowered ascii).symm
  · intro named
    rw [named]
    cases field <;> decide +kernel

/-- What a word names it names in lower case too. -/
lemma ofWord?_lower (solid : Solid word) :
    Field.ofWord? (Text.lower (String.ofList word)) = Field.ofWord? (String.ofList word) := by
  have lowered : Text.lower (String.ofList word) = String.ofList (Text.lowerChars word) := by
    rw [Text.lower, String.toList_ofList]
  apply Option.ext
  intro field
  rw [ofWord?_eq_some_iff, ofWord?_eq_some_iff, trim_of_solid solid, lowered,
    trim_of_solid solid.lowerChars, ← lowered, lower_lower_eq_name solid]

/-! ### The whole text -/

variable {before phrase : List Char}

/-- The first update phrase of a text leaves one rest to be trimmed. -/
lemma FirstPhrase.scanned (first : FirstPhrase cs before phrase rest) :
    afterFirstVerb? cs = some (trimLeft rest) :=
  afterFirstVerb?_eq_some_iff.mpr ⟨before, phrase, rest, first, rfl⟩

/-- After its phrase a command needs three words. -/
lemma FirstPhrase.ofText_of_few (first : FirstPhrase text.toList before phrase rest)
    (few : (words rest).length < 3) : UpdateCommand.ofText text = .error (.command .usage) :=
  Command.ofText_of_few first.scanned (by rwa [Text.words_trimLeft])

/-- With three words a command has its parts. -/
lemma FirstPhrase.exists_parted (first : FirstPhrase text.toList before phrase rest)
    (many : 3 ≤ (words rest).length) :
    ∃ name gap word gap' value, Parted (trimChars rest) name gap word gap' value ∧
      UpdateCommand.ofText text =
        .ok ⟨String.ofList name, Text.lower (String.ofList word), String.ofList value⟩ := by
  rw [← Text.trimChars_trimLeft]
  exact Command.exists_parted first.scanned (by rwa [Text.words_trimLeft])

/-- A text without an update phrase is refused. -/
lemma ofText_of_no_phrase
    (none : ¬ ∃ before phrase rest, FirstPhrase text.toList before phrase rest) :
    UpdateCommand.ofText text = .error (.command .usage) := by
  cases scanned : afterFirstVerb? text.toList with
  | none => exact ofText_of_none scanned
  | some found =>
    obtain ⟨before, phrase, rest, first, -⟩ := afterFirstVerb?_eq_some_iff.mp scanned
    exact absurd ⟨before, phrase, rest, first⟩ none

/-- What has parts has three words or more. -/
lemma Parted.three_le (parted : Parted (trimChars rest) name gap word gap' value) :
    3 ≤ (words rest).length := by
  have before := List.length_pos_iff.mpr parted.named.words_ne_nil
  have after := List.length_pos_iff.mpr parted.valued.words_ne_nil
  rw [← Text.words_trimChars, parted.words_eq, List.length_append, List.length_cons]
  omega

/-- A command is read from a text exactly when these are the parts of what its first update phrase
leaves. -/
lemma ofText_eq_ok_iff :
    UpdateCommand.ofText text = .ok command ↔
      ∃ before phrase rest name gap word gap' value, FirstPhrase text.toList before phrase rest ∧
        Parted (trimChars rest) name gap word gap' value ∧
        command = ⟨String.ofList name, Text.lower (String.ofList word), String.ofList value⟩ := by
  constructor
  · intro read
    by_cases phrased : ∃ before phrase rest, FirstPhrase text.toList before phrase rest
    · obtain ⟨before, phrase, rest, first⟩ := phrased
      rcases Nat.lt_or_ge (words rest).length 3 with few | many
      · rw [first.ofText_of_few few] at read
        cases read
      · obtain ⟨name, gap, word, gap', value, parted, read'⟩ := first.exists_parted many
        exact ⟨before, phrase, rest, name, gap, word, gap', value, first, parted,
          (Except.ok.inj (read'.symm.trans read)).symm⟩
    · rw [ofText_of_no_phrase phrased] at read
      cases read
  · rintro ⟨before, phrase, rest, name, gap, word, gap', value, first, parted, rfl⟩
    obtain ⟨name', gap₂, word', gap₂', value', parted', read⟩ := first.exists_parted parted.three_le
    obtain ⟨rfl, rfl, rfl⟩ := parted.unique parted'
    exact read

/-- A command that is read has the name of a filter without blanks around it. -/
lemma trim_filterName (read : UpdateCommand.ofText text = .ok command) :
    Text.trim command.filterName = command.filterName := by
  obtain ⟨before, phrase, rest, name, gap, word, gap', value, -, parted, rfl⟩ :=
    ofText_eq_ok_iff.mp read
  rw [Text.trim, String.toList_ofList, parted.named.same]

/-- A command that is written with single spaces is read in the parts that it was written in. -/
lemma ofText_written {opening name word value : String} (phrase : Phrase opening.toList)
    (named : Trimmed name.toList) (solid : Solid word.toList) (valued : Trimmed value.toList)
    (known : Names word.toList) (last : ∀ w ∈ (words value.toList).dropLast, ¬ Names w) :
    UpdateCommand.ofText (opening ++ " " ++ name ++ " " ++ word ++ " " ++ value) =
      .ok ⟨name, Text.lower word, value⟩ := by
  have gap : Gap [' '] := by decide
  have parted :
    Parted (name.toList ++ [' '] ++ word.toList ++ [' '] ++ value.toList) name.toList [' ']
      word.toList [' '] value.toList :=
    ⟨rfl, named, gap, solid, gap, valued, .named known last⟩
  have trimmed : Trimmed (name.toList ++ [' '] ++ word.toList ++ [' '] ++ value.toList) := by
    simpa only [List.append_assoc] using named.append valued ([' '] ++ word.toList ++ [' '])
  have rest : trimChars ([' '] ++ (name.toList ++ [' '] ++ word.toList ++ [' '] ++ value.toList)) =
      name.toList ++ [' '] ++ word.toList ++ [' '] ++ value.toList := by
    rw [Text.trimChars_append_of_blank gap.blank, trimmed.same]
  have first : FirstPhrase (opening ++ " " ++ name ++ " " ++ word ++ " " ++ value).toList
    [] opening.toList
      ([' '] ++ (name.toList ++ [' '] ++ word.toList ++ [' '] ++ value.toList)) := by
    refine ⟨⟨?_, phrase, .of_gap gap⟩, fun _ _ _ _ => Nat.zero_le _⟩
    simp
  rw [← rest] at parted
  refine ofText_eq_ok_iff.mpr ⟨_, _, _, _, _, _, _, _, first, parted, ?_⟩
  simp

/-- A text is refused exactly when it has no update phrase that a blank follows, or fewer than three
words after the first. -/
lemma ofText_eq_error_iff {fault : Fault} :
    UpdateCommand.ofText text = .error fault ↔ fault = .command .usage ∧
      ¬ ∃ before phrase rest, FirstPhrase text.toList before phrase rest ∧
        3 ≤ (words rest).length := by
  by_cases phrased : ∃ before phrase rest, FirstPhrase text.toList before phrase rest
  · obtain ⟨before, phrase, rest, first⟩ := phrased
    rcases Nat.lt_or_ge (words rest).length 3 with few | many
    · rw [first.ofText_of_few few, Except.error.injEq, eq_comm]
      refine ⟨fun usage => ⟨usage, ?_⟩, And.left⟩
      rintro ⟨before', phrase', rest', first', many⟩
      have same : trimLeft rest = trimLeft rest' :=
        Option.some.inj (first.scanned.symm.trans first'.scanned)
      rw [← Text.words_trimLeft, ← same, Text.words_trimLeft] at many
      exact absurd few (Nat.not_lt.mpr many)
    · obtain ⟨name, gap, word, gap', value, -, read⟩ := first.exists_parted many
      rw [read]
      exact ⟨nofun, fun none => absurd ⟨before, phrase, rest, first, many⟩ none.2⟩
  · rw [ofText_of_no_phrase phrased, Except.error.injEq, eq_comm]
    refine ⟨fun usage => ⟨usage, ?_⟩, And.left⟩
    rintro ⟨before, phrase, rest, first, -⟩
    exact phrased ⟨before, phrase, rest, first⟩

/-- An update command is split without loss. A text is refused exactly when it has no update phrase
that a blank follows, or fewer than three words after the first; otherwise what is left after the
phrase is a name, a word and a value as they stand, with blanks between them, the word is the one
for the field, and it is known exactly when a word other than the first and the last is. -/
theorem ofText_lossless (text : String) :
    (∀ fault, UpdateCommand.ofText text = .error fault ↔ fault = .command .usage ∧
      ¬ ∃ before phrase rest, FirstPhrase text.toList before phrase rest ∧
        3 ≤ (words rest).length) ∧
    ∀ command, UpdateCommand.ofText text = .ok command ↔
      ∃ before phrase rest name gap word gap' value, FirstPhrase text.toList before phrase rest ∧
        Parted (trimChars rest) name gap word gap' value ∧
        command = ⟨String.ofList name, Text.lower (String.ofList word), String.ofList value⟩ ∧
        ((Field.ofWord? command.field).isSome = true ↔ ∃ w ∈ (words rest).tail.dropLast,
          Names w) := by
  refine ⟨fun fault => ofText_eq_error_iff, fun command => ofText_eq_ok_iff.trans ?_⟩
  constructor
  · rintro ⟨before, phrase, rest, name, gap, word, gap', value, first, parted, rfl⟩
    refine ⟨before, phrase, rest, name, gap, word, gap', value, first, parted, rfl, ?_⟩
    rw [ofWord?_lower parted.solid, ← Text.words_trimChars rest]
    exact parted.known_iff
  · rintro ⟨before, phrase, rest, name, gap, word, gap', value, first, parted, same, -⟩
    exact ⟨before, phrase, rest, name, gap, word, gap', value, first, parted, same⟩

/-- Words that name fields may belong to the name and to the value. -/
example : UpdateCommand.ofText "Aggiorna Filtro archive Priority  active  false, priority" =
    .ok ⟨"archive Priority", "active", "false, priority"⟩ := by decide +kernel

end ChatTriage.Command
