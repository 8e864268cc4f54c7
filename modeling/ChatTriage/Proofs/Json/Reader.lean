import Mathlib.Data.List.Infix
import Mathlib.Data.List.TakeWhile
import ChatTriage.Json.Reader

/-!
# What the reader leaves and how deep it goes

Whatever is read, what follows it is the end of the text; and a text is refused for its depth only
if there are more brackets in it than the depth allows. Both hold of every part of the reader
(`Bounded`), by one induction over the reader of values.
-/

namespace ChatTriage.Json

variable {α β : Type} {cs cs' rest : List Char} {x : Json} {depth fuel : Nat}

/-- The brackets and braces that open in a text. -/
def openings (cs : List Char) : Nat :=
  cs.countP fun c => c = '[' || c = '\x7b'

/-- What follows is the end of the text, and a refusal for the depth has a cause in it. -/
def Bounded (depth : Nat) (cs : List Char) : Except Stop (α × List Char) → Prop
  | .ok (_, rest) => rest <:+ cs
  | .error stop => ∀ container, stop.cause = .tooDeep container → depth < openings cs

/-- What remains has no more openings. -/
lemma openings_le (suffix : cs' <:+ cs) : openings cs' ≤ openings cs :=
  suffix.sublist.countP_le

namespace Bounded

/-- What is bounded by the end of a text is bounded by the text. -/
lemma mono {r : Except Stop (α × List Char)} (bounded : Bounded depth cs' r) (suffix : cs' <:+ cs) :
    Bounded depth cs r := by
  cases r with
  | ok found => exact List.IsSuffix.trans bounded suffix
  | error stop => exact fun container deep => (bounded container deep).trans_le (openings_le suffix)

/-- Two parts of a text are bounded if each of them is. -/
lemma bind {x : Except Stop (α × List Char)} {g : α × List Char → Except Stop (β × List Char)}
    (first : Bounded depth cs x)
    (second : ∀ a rest, rest <:+ cs → Bounded depth rest (g (a, rest))) :
    Bounded depth cs (x >>= g) := by
  cases x with
  | ok found => exact (second found.1 found.2 first).mono first
  | error stop => exact first

/-- A refusal for another reason than the depth. -/
lemma of_ne {stop : Stop} (other : ∀ container, stop.cause ≠ .tooDeep container) :
    Bounded (α := α) depth cs (.error stop) :=
  fun container deep => absurd deep (other container)

/-- What stands in a bracket is one deeper. -/
lemma inside {c : Char} {r : Except Stop (α × List Char)} (opens : c = '[' ∨ c = '\x7b')
    (bounded : Bounded depth cs r) : Bounded (depth + 1) (c :: cs) r := by
  cases r with
  | ok found => exact List.IsSuffix.trans bounded (List.suffix_cons c cs)
  | error stop =>
    intro container deep
    have counted : openings (c :: cs) = openings cs + 1 :=
      List.countP_cons_of_pos (by simpa using opens)
    rw [counted]
    exact Nat.succ_lt_succ (bounded container deep)

end Bounded

/-! ### Texts -/

/-- Skipping blanks leaves the end of a text. -/
lemma skipSpace_suffix (cs : List Char) : skipSpace cs <:+ cs :=
  List.dropWhile_suffix isSpace

/-- So does reading a code unit. -/
lemma unit?_suffix {n : Nat} (found : unit? cs = some (n, rest)) : rest <:+ cs := by
  unfold unit? at found
  split at found
  · simp only [Option.bind_eq_bind, Option.bind_eq_some_iff] at found
    obtain ⟨_, -, _, -, _, -, _, -, same⟩ := found
    cases same
    exact List.suffix_append [_, _, _, _] _
  · cases found

/-- Joining units leaves the end of a text or fails. -/
lemma bounded_joinUnits (unit : Nat) (cs : List Char) : Bounded depth cs (joinUnits unit cs) := by
  unfold joinUnits
  split
  · split
    · split
      · exact List.suffix_rfl
      · split
        · exact .of_ne nofun
        · rename_i found
          have behind := unit?_suffix found
          split
          · exact behind.trans (List.suffix_append ['\\', 'u'] _)
          · exact List.suffix_rfl
    · exact List.suffix_rfl
  · exact List.suffix_rfl

/-- So does reading an escape. -/
lemma bounded_escaped (start : Nat) (cs : List Char) : Bounded depth cs (escaped start cs) := by
  unfold escaped
  split
  · exact .of_ne nofun
  · split
    · exact .of_ne nofun
    · rename_i found
      exact (bounded_joinUnits _ _).mono ((unit?_suffix found).trans (List.suffix_cons _ _))
  · split
    · exact List.suffix_cons _ _
    · exact .of_ne nofun

/-- The induction is on the number of characters that may be read. -/
lemma bounded_stringFrom (start fuel : Nat) (read cs : List Char) :
    Bounded depth cs (stringFrom start read fuel cs) := by
  induction fuel generalizing read cs with
  | zero => cases cs <;> exact .of_ne nofun
  | succ fuel ih =>
    cases cs with
    | nil => exact .of_ne nofun
    | cons c cs =>
      unfold stringFrom
      split
      · exact List.suffix_cons c cs
      · split
        · exact .mono (.bind (bounded_escaped start cs) fun point rest _ =>
            ih ((Text.spell point).reverse ++ read) rest) (List.suffix_cons c cs)
        · split
          · exact .of_ne nofun
          · exact (ih (c :: read) cs).mono (List.suffix_cons c cs)

/-- So does reading a string. -/
lemma bounded_string (cs : List Char) : Bounded depth cs (string cs) :=
  bounded_stringFrom _ _ _ _

/-! ### Numbers and words -/

/-- What follows the longest run is the end of a text. -/
lemma span_suffix (p : Char → Bool) (cs : List Char) : (cs.span p).2 <:+ cs := by
  rw [List.span_eq_takeWhile_dropWhile]
  exact List.dropWhile_suffix p

/-- The whole part of a number leaves the end of a text. -/
lemma wholePart_suffix (cs : List Char) : (wholePart cs).2 <:+ cs := by
  unfold wholePart
  split
  · exact List.suffix_cons _ _
  · exact span_suffix isDigit cs

/-- So does its fraction. -/
lemma fractionPart_suffix (cs : List Char) : (fractionPart cs).2 <:+ cs := by
  unfold fractionPart
  split
  · rename_i rest
    dsimp only
    split
    · exact List.suffix_rfl
    · exact (span_suffix isDigit rest).trans (List.suffix_cons _ _)
  · exact List.suffix_rfl

/-- So does its exponent. -/
lemma exponentPart_suffix (cs : List Char) : (exponentPart cs).2 <:+ cs := by
  unfold exponentPart
  split
  · rename_i c rest
    split
    · split
      rename_i negative body signed
      have behind : body <:+ rest := by
        split at signed <;> cases signed
        · exact List.suffix_cons _ _
        · exact List.suffix_cons _ _
        · exact List.suffix_rfl
      dsimp only
      split
      · exact List.suffix_rfl
      · exact ((span_suffix isDigit body).trans behind).trans (List.suffix_cons c rest)
    · exact List.suffix_rfl
  · exact List.suffix_rfl

/-- Reading a number leaves the end of a text. -/
lemma bounded_number (cs : List Char) : Bounded depth cs (number cs) := by
  unfold number
  split
  rename_i negative body signed
  have behind : body <:+ cs := by
    split at signed <;> cases signed
    · exact List.suffix_cons _ _
    · exact List.suffix_rfl
  dsimp only
  have read :=
    ((exponentPart_suffix _).trans ((fractionPart_suffix _).trans (wholePart_suffix body))).trans
      behind
  split
  · exact .of_ne nofun
  · split
    · split
      · exact .of_ne nofun
      · exact read
    · exact read

/-- So does reading a value without parts. -/
lemma bounded_scalar (cs : List Char) : Bounded depth cs (scalar cs) := by
  unfold scalar
  split
  · exact List.suffix_append ['n', 'u', 'l', 'l'] _
  · exact List.suffix_append ['t', 'r', 'u', 'e'] _
  · exact List.suffix_append ['f', 'a', 'l', 's', 'e'] _
  · exact List.suffix_append ['N', 'a', 'N'] _
  · exact List.suffix_append ['I', 'n', 'f', 'i', 'n', 'i', 't', 'y'] _
  · exact List.suffix_append ['-', 'I', 'n', 'f', 'i', 'n', 'i', 't', 'y'] _
  · exact bounded_number cs

/-! ### Values -/

/-- A container that may not be opened has a bracket of its own. -/
lemma bounded_closed {c : Char} (opens : c = '[' ∨ c = '\x7b') (container : Container)
    (left : Nat) :
    Bounded (α := α) 0 (c :: cs) (.error ⟨.tooDeep container, left⟩) := by
  intro _ _
  exact List.countP_pos_iff.mpr ⟨c, List.mem_cons_self, by simpa using opens⟩

/-- What comes after the blanks of a text is bounded by the text. -/
lemma Bounded.skip {r : Except Stop (α × List Char)} (bounded : Bounded depth (skipSpace cs) r) :
    Bounded depth cs r :=
  bounded.mono (skipSpace_suffix cs)

/-- A mark after blanks leaves the end of the text. -/
lemma suffix_of_skipSpace {c : Char} (found : skipSpace cs = c :: rest) : rest <:+ cs :=
  (List.suffix_cons c rest).trans (found ▸ skipSpace_suffix cs)

mutual

/-- The induction is on the fuel. -/
lemma bounded_value : ∀ (depth fuel : Nat) (cs : List Char), Bounded depth cs (value depth fuel cs)
  | _, 0, cs => .of_ne nofun
  | depth, fuel + 1, cs => by
    unfold value
    split
    · exact .mono (.bind (bounded_string _) fun s rest _ => List.suffix_rfl) (List.suffix_cons _ _)
    · cases depth with
      | zero => exact bounded_closed (.inl rfl) _ _
      | succ depth =>
        rw [if_neg depth.succ_ne_zero]
        refine .inside (.inl rfl) ?_
        split
        · rename_i found
          exact suffix_of_skipSpace found
        · exact .skip (.bind (bounded_items depth fuel _) fun xs rest _ => List.suffix_rfl)
    · cases depth with
      | zero => exact bounded_closed (.inr rfl) _ _
      | succ depth =>
        rw [if_neg depth.succ_ne_zero]
        refine .inside (.inr rfl) ?_
        split
        · rename_i found
          exact suffix_of_skipSpace found
        · exact .skip (.bind (bounded_fields depth fuel _) fun fs rest _ => List.suffix_rfl)
    · exact bounded_scalar cs

/-- So does reading items, unless they are too deep. -/
lemma bounded_items : ∀ (depth fuel : Nat) (cs : List Char), Bounded depth cs (items depth fuel cs)
  | _, 0, cs => .of_ne nofun
  | depth, fuel + 1, cs => by
    unfold items
    refine .bind (bounded_value depth fuel cs) fun x rest _ => ?_
    dsimp only
    split
    · rename_i found
      exact suffix_of_skipSpace found
    · rename_i found
      refine .mono (.skip ?_) (suffix_of_skipSpace found)
      exact .bind (bounded_items depth fuel _) fun xs rest _ => List.suffix_rfl
    · exact .of_ne nofun

/-- So does reading fields. -/
lemma bounded_fields :
    ∀ (depth fuel : Nat) (cs : List Char), Bounded depth cs (fields depth fuel cs)
  | _, 0, cs => .of_ne nofun
  | depth, fuel + 1, cs => by
    unfold fields
    split
    · refine .mono (.bind (bounded_string _) fun k rest _ => ?_) (List.suffix_cons _ _)
      dsimp only
      split
      · rename_i found
        refine .mono (.skip (.bind (bounded_value depth fuel _) fun x rest _ => ?_))
          (suffix_of_skipSpace found)
        dsimp only
        split
        · rename_i found
          exact suffix_of_skipSpace found
        · rename_i found
          refine .mono (.skip ?_) (suffix_of_skipSpace found)
          exact .bind (bounded_fields depth fuel _) fun fs rest _ => List.suffix_rfl
        · exact .of_ne nofun
      · exact .of_ne nofun
    · exact .of_ne nofun

end

/-- What is read in two parts is read in both. -/
lemma read_bind {r : Except Stop α} {g : α → Except Stop β} {b : β} (read : r >>= g = .ok b) :
    ∃ a, r = .ok a ∧ g a = .ok b := by
  cases r with
  | error stop => cases read
  | ok a => exact ⟨a, rfl, read⟩

/-- After a value comes the end of the text. -/
lemma suffix_of_value (read : value depth fuel cs = .ok (x, rest)) : rest <:+ cs := by
  have bounded := bounded_value depth fuel cs
  rwa [read] at bounded

/-! ### Whole texts -/

variable {text : String}

/-- A text is read as the one value that it writes. -/
lemma read_eq_ok_iff : Json.read text = .ok x ↔ document text.toList = .ok x := by
  unfold Json.read
  dsimp only
  cases document text.toList with
  | ok y => simp
  | error stop => exact iff_of_false nofun nofun

/-- What is read of a document is a value with blanks before and after it. -/
lemma document_eq_ok_iff : document cs = .ok x ↔ (∀ cs', cs ≠ '\ufeff' :: cs') ∧
    ∃ rest, value maxDepth (2 * cs.length + 1) (skipSpace cs) = .ok (x, rest) ∧
      skipSpace rest = [] := by
  unfold document
  split
  · rename_i cs'
    exact iff_of_false nofun fun ⟨marked, _⟩ => marked cs' rfl
  · rename_i unmarked
    cases found : value maxDepth (2 * cs.length + 1) (skipSpace cs) with
    | error stop => exact iff_of_false nofun fun ⟨_, _, impossible, _⟩ => nomatch impossible
    | ok read =>
      obtain ⟨y, rest⟩ := read
      simp only [bind, Except.bind]
      split
      · rename_i ended
        constructor
        · intro same
          cases same
          exact ⟨unmarked, rest, rfl, ended⟩
        · rintro ⟨-, rest', same, -⟩
          cases same
          rfl
      · rename_i more
        refine iff_of_false nofun ?_
        rintro ⟨-, rest', same, ended⟩
        cases same
        exact more ended

/-- A document is refused where its value is. -/
lemma document_of_error {stop : Stop} (unmarked : ∀ cs', cs ≠ '\ufeff' :: cs')
    (refused : value maxDepth (2 * cs.length + 1) (skipSpace cs) = .error stop) :
    document cs = .error stop := by
  unfold document
  split
  · exact absurd rfl (unmarked _)
  · rw [refused]
    rfl

/-- The text is refused for its depth. -/
def Overdeep (text : String) : Prop :=
  ∃ refusal, Json.read text = .error refusal ∧ refusal.isTooDeep = true

/-- A refusal is for depth when its cause is. -/
lemma isTooDeep_at {cause : Cause} {position : Nat} :
    (Refusal.at cause cs position).isTooDeep = true ↔ ∃ container, cause = .tooDeep container := by
  cases cause <;> simp [Refusal.isTooDeep, Refusal.at]

/-- A text is refused for its depth where the reader of documents is. -/
lemma overdeep_iff :
    Overdeep text ↔ ∃ stop container, document text.toList = .error stop ∧
      stop.cause = .tooDeep container := by
  unfold Overdeep Json.read
  dsimp only
  cases document text.toList with
  | ok x => exact ⟨nofun, nofun⟩
  | error stop =>
    constructor
    · rintro ⟨refusal, same, deep⟩
      cases same
      obtain ⟨container, cause⟩ := isTooDeep_at.mp deep
      exact ⟨stop, container, rfl, cause⟩
    · rintro ⟨stop', container, same, cause⟩
      cases same
      exact ⟨_, rfl, isTooDeep_at.mpr ⟨container, cause⟩⟩

/-- A text that is refused for its depth has more openings than containers may stand in each
other. -/
lemma Overdeep.openings (deep : Overdeep text) : maxDepth < openings text.toList := by
  obtain ⟨stop, container, refused, cause⟩ := overdeep_iff.mp deep
  have bounded := bounded_value maxDepth (2 * text.toList.length + 1) (skipSpace text.toList)
  unfold document at refused
  split at refused
  · cases refused
    cases cause
  · cases found : value maxDepth (2 * text.toList.length + 1) (skipSpace text.toList) with
    | error stop' =>
      rw [found] at refused bounded
      cases refused
      exact (bounded container cause).trans_le (openings_le (skipSpace_suffix _))
    | ok read =>
      rw [found] at refused
      obtain ⟨x, rest⟩ := read
      simp only [bind, Except.bind] at refused
      split at refused
      · cases refused
      · cases refused
        cases cause

/-- Brackets that open one after the other go too deep. The induction is on the depth, and each
bracket takes two steps of the fuel. -/
lemma value_brackets {count : Nat} (deep : depth < count) (enough : 2 * depth < fuel) :
    ∃ left, value depth fuel (List.replicate count '[' ++ cs) = .error ⟨.tooDeep .array, left⟩ := by
  induction depth generalizing count fuel with
  | zero =>
    obtain ⟨count, rfl⟩ := Nat.exists_eq_add_one.mpr deep
    obtain ⟨fuel, rfl⟩ := Nat.exists_eq_add_one.mpr enough
    exact ⟨_, rfl⟩
  | succ depth ih =>
    obtain ⟨count, rfl⟩ : ∃ n, count = n + 2 := ⟨count - 2, by omega⟩
    obtain ⟨fuel, rfl⟩ : ∃ n, fuel = n + 2 := ⟨fuel - 2, by omega⟩
    have inner : depth < count + 1 := by omega
    have less : 2 * depth < fuel := by omega
    obtain ⟨left, refused⟩ := ih inner less
    have opened : value (depth + 1) (fuel + 2) (List.replicate (count + 2) '[' ++ cs) =
        (items depth (fuel + 1) (List.replicate (count + 1) '[' ++ cs) >>= fun r =>
          pure (.arr r.1, r.2)) := rfl
    have first : items depth (fuel + 1) (List.replicate (count + 1) '[' ++ cs) =
        .error ⟨.tooDeep .array, left⟩ := by
      unfold items
      rw [refused]
      rfl
    rw [opened, first]
    exact ⟨left, rfl⟩

/-- A text that begins with too many brackets is refused for its depth. -/
lemma overdeep_of_brackets {count : Nat} (begins : text.toList = List.replicate count '[' ++ cs)
    (many : maxDepth < count) : Overdeep text := by
  have enough : 2 * maxDepth < 2 * text.toList.length + 1 := by
    rw [begins, List.length_append, List.length_replicate]
    omega
  obtain ⟨left, refused⟩ := value_brackets many enough
  obtain ⟨count, rfl⟩ := Nat.exists_eq_add_one.mpr (Nat.zero_lt_of_lt many)
  refine overdeep_iff.mpr ⟨⟨.tooDeep .array, left⟩, .array, ?_, rfl⟩
  rw [begins] at refused ⊢
  exact document_of_error nofun refused

/-! ### Arrays -/

/-- The text stands in square brackets, blanks apart. -/
def Bracketed (cs : List Char) : Prop :=
  ∃ before inside after, cs = before ++ '[' :: inside ++ ']' :: after ∧
    (∀ c ∈ before, isSpace c = true) ∧ ∀ c ∈ after, isSpace c = true

/-- Items end with a bracket that closes. The induction is on the fuel. -/
lemma suffix_of_items {xs : List Json} (read : items depth fuel cs = .ok (xs, rest)) :
    ']' :: rest <:+ cs := by
  induction fuel generalizing cs xs with
  | zero => cases read
  | succ fuel ih =>
    unfold items at read
    obtain ⟨⟨x, middle⟩, found, read⟩ := read_bind read
    have behind : skipSpace middle <:+ cs := (skipSpace_suffix middle).trans (suffix_of_value found)
    dsimp only at read
    split at read
    · rename_i closed
      cases read
      exact closed ▸ behind
    · rename_i more comma
      obtain ⟨⟨others, ending⟩, found, same⟩ := read_bind read
      cases same
      have later := (ih found).trans (skipSpace_suffix more)
      exact (later.trans (List.suffix_cons ',' more)).trans (comma ▸ behind)
    · cases read

/-- A number is no list. -/
lemma number_ne_arr {xs : List Json} : number cs ≠ .ok (.arr xs, rest) := by
  unfold number
  split
  dsimp only
  split
  · exact nofun
  · split
    · split <;> exact nofun
    · exact nofun

/-- A value without parts is no list. -/
lemma scalar_ne_arr {xs : List Json} : scalar cs ≠ .ok (.arr xs, rest) := by
  unfold scalar
  split
  all_goals first | exact number_ne_arr | nofun

/-- An array stands between its brackets. -/
lemma brackets_of_value {xs : List Json} (read : value depth fuel cs = .ok (.arr xs, rest)) :
    ∃ inside, cs = '[' :: inside ∧ ']' :: rest <:+ inside := by
  cases fuel with
  | zero => cases read
  | succ fuel =>
    unfold value at read
    split at read
    · obtain ⟨s, -, impossible⟩ := read_bind read
      cases impossible
    · rename_i inside
      refine ⟨inside, rfl, ?_⟩
      split at read
      · cases read
      · split at read
        · rename_i closed
          cases read
          exact closed ▸ skipSpace_suffix inside
        · obtain ⟨found, items, same⟩ := read_bind read
          cases same
          exact (suffix_of_items items).trans (skipSpace_suffix inside)
    · split at read
      · cases read
      · split at read
        · cases read
        · obtain ⟨fields, -, impossible⟩ := read_bind read
          cases impossible
    · exact absurd read scalar_ne_arr

/-- What is read as an array stands in square brackets. -/
lemma bracketed_of_read {items : List Json} (read : Json.read text = .ok (.arr items)) :
    Bracketed text.toList := by
  obtain ⟨-, rest, found, ended⟩ := document_eq_ok_iff.mp (read_eq_ok_iff.mp read)
  obtain ⟨tail, opened, inside, closed⟩ := brackets_of_value found
  refine ⟨text.toList.takeWhile isSpace, inside, rest, ?_,
    fun c member => List.mem_takeWhile_imp member, List.dropWhile_eq_nil_iff.mp ended⟩
  calc text.toList
      = text.toList.takeWhile isSpace ++ skipSpace text.toList :=
        List.takeWhile_append_dropWhile.symm
    _ = text.toList.takeWhile isSpace ++ '[' :: inside ++ ']' :: rest := by
      rw [opened, ← closed, List.append_assoc, List.cons_append]

end ChatTriage.Json
