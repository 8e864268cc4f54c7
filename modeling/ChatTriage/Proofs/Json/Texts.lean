import Mathlib.Tactic.IntervalCases
import ChatTriage.Json.Writer
import ChatTriage.Proofs.Json.Reader
import ChatTriage.Proofs.Text.CodePoint

/-!
# Lists of texts read back

A text that was written reads back as it was, whatever characters it holds (`string_written`), and
so does a list of texts: `read_write_texts`.
-/

namespace ChatTriage.Json

variable {c e : Char} {cs rest read : List Char} {s : String} {texts : List String}
    {depth fuel start n : Nat}

/-- The escape of a control character reads back. -/
lemma unit?_hexPadded (control : n < 0x20) :
    unit? ((Text.hexPadded 4 n).toList ++ e :: rest) = some (n, e :: rest) := by
  interval_cases n <;> rfl

/-- The escape of a control character is read back. -/
lemma escaped_control (control : n < 0x20) :
    escaped start ('u' :: ((Text.hexPadded 4 n).toList ++ e :: rest)) =
      .ok (n, e :: rest) := by
  unfold escaped
  simp only [unit?_hexPadded control]
  unfold joinUnits
  rw [if_neg (by simp; omega)]

/-- A written character reads back if something follows it. -/
lemma stringFrom_charText : stringFrom start read (fuel + 1) (charText .unicode c ++ e :: rest) =
    stringFrom start (c :: read) fuel (e :: rest) := by
  unfold charText
  split_ifs with quote slash line back tab bell feed control ascii
  · subst quote; rfl
  · subst slash; rfl
  · subst line; rfl
  · subst back; rfl
  · subst tab; rfl
  · subst bell; rfl
  · subst feed; rfl
  · have short : c.toNat < 0x10000 := by omega
    have found : escaped start ('u' :: ((Text.hexPadded 4 c.toNat).toList ++ e :: rest)) =
        .ok (c.toNat, e :: rest) := escaped_control control
    rw [longEscape, if_pos short, unitEscape, List.cons_append, List.cons_append, stringFrom,
      if_neg (by decide), if_pos rfl, found]
    change stringFrom start ((Text.spell c.toNat).reverse ++ read) fuel (e :: rest) = _
    rw [Text.spell_toNat (by simp only [Text.firstMark]; omega)]
    rfl
  · cases ascii
  · rw [List.singleton_append, stringFrom, if_neg quote, if_neg slash, if_neg control]

/-- A written text reads back up to its closing quote. The induction is on its characters, each of
which takes one step of the fuel. -/
lemma stringFrom_written (enough : cs.length < fuel) :
    stringFrom start read fuel (cs.flatMap (charText .unicode) ++ '"' :: rest) =
      .ok (String.ofList (read.reverse ++ cs), rest) := by
  induction cs generalizing read fuel with
  | nil =>
    obtain ⟨fuel, rfl⟩ := Nat.exists_eq_add_one.mpr enough
    rw [List.append_nil]
    rfl
  | cons c cs ih =>
    obtain ⟨fuel, rfl⟩ : ∃ n, fuel = n + 1 := ⟨fuel - 1, by omega⟩
    have less : cs.length < fuel := by simpa using enough
    obtain ⟨d, behind, more⟩ : ∃ d behind, cs.flatMap (charText .unicode) ++ '"' :: rest =
        d :: behind :=
      List.exists_cons_of_ne_nil (List.append_ne_nil_of_right_ne_nil _ (List.cons_ne_nil _ _))
    rw [List.flatMap_cons, List.append_assoc, more, stringFrom_charText, ← more, ih less,
      List.reverse_cons, List.append_assoc, List.singleton_append]

/-- An escape is not nothing. -/
lemma longEscape_ne_nil : longEscape n ≠ [] := by
  unfold longEscape
  split
  · exact List.cons_ne_nil _ _
  · exact List.append_ne_nil_of_left_ne_nil (List.cons_ne_nil _ _) _

/-- No character is written as nothing. -/
lemma charText_ne_nil {charset : Charset} : charText charset c ≠ [] := by
  unfold charText
  split_ifs
  all_goals first | exact longEscape_ne_nil | exact List.cons_ne_nil _ _

/-- A written text is no shorter than the text. -/
lemma length_le_flatMap (charset : Charset) (cs : List Char) :
    cs.length ≤ (cs.flatMap (charText charset)).length := by
  induction cs with
  | nil => exact Nat.le_refl 0
  | cons c cs ih =>
    have one : 1 ≤ (charText charset c).length := List.length_pos_iff.mpr charText_ne_nil
    rw [List.flatMap_cons, List.length_append, List.length_cons]
    omega

/-- Where every character is written as it is, so is every code point. The induction is on the
spellings of the text. -/
lemma flatMap_pointText (cs : List Char) :
    (Text.spellings cs).flatMap (pointText .unicode) = cs.flatMap (charText .unicode) := by
  have mark (c : Char) (high : Text.firstMark ≤ c.toNat) : charText .unicode c = [c] := by
    have other (d : Char) (low : d.toNat < Text.firstMark) : c ≠ d := by
      rintro rfl
      omega
    rw [charText, if_neg (other _ (by decide)), if_neg (other _ (by decide)),
      if_neg (other _ (by decide)), if_neg (other _ (by decide)), if_neg (other _ (by decide)),
      if_neg (other _ (by decide)), if_neg (other _ (by decide)),
      if_neg (by simp only [Text.firstMark] at high; omega), if_neg (by simp)]
  induction cs using Text.spellings.induct with
  | case1 => rfl
  | case2 c => rfl
  | case3 c d rest marks ih =>
    obtain ⟨first, second⟩ := Bool.and_eq_true_iff.mp marks
    rw [Text.isFirstMark, Bool.and_eq_true, decide_eq_true_eq] at first
    rw [Text.isSecondMark, decide_eq_true_eq] at second
    have beyond : Text.firstMark ≤ d.toNat := Nat.le_trans (by decide) second
    rw [Text.spellings, if_pos marks, List.flatMap_cons, ih, List.flatMap_cons, List.flatMap_cons,
      mark c first.1, mark d beyond]
    rfl
  | case4 c d rest plain ih =>
    rw [Text.spellings, if_neg plain, List.flatMap_cons, ih]
    rfl

/-- A written text reads back. -/
lemma string_written :
    string (s.toList.flatMap (charText .unicode) ++ '"' :: rest) = .ok (s, rest) := by
  have enough : s.toList.length < (s.toList.flatMap (charText .unicode) ++ '"' :: rest).length := by
    have longer := length_le_flatMap .unicode s.toList
    rw [List.length_append, List.length_cons]
    omega
  rw [string, stringFrom_written enough, List.reverse_nil, List.nil_append, String.ofList_toList]

/-! ### Lists -/

/-- A text is read back as a value. -/
lemma value_written :
    value depth (fuel + 1) (stringText .unicode s ++ rest) = .ok (.str s, rest) := by
  have text : stringText .unicode s ++ rest =
      '"' :: (s.toList.flatMap (charText .unicode) ++ '"' :: rest) := by
    simp [stringText, flatMap_pointText]
  rw [text, value, string_written]
  rfl

/-- Written texts begin with a quote. -/
lemma exists_itemChars (s : String) (texts : List String) :
    ∃ cs, itemChars .unicode ((s :: texts).map .str) = '"' :: cs := by
  cases texts with
  | nil => exact ⟨_, rfl⟩
  | cons t texts => exact ⟨_, rfl⟩

/-- Written texts read back up to their closing bracket. The induction is on the texts, each of
which takes one step of the fuel. -/
lemma items_written (enough : (s :: texts).length < fuel) :
    items depth fuel (itemChars .unicode ((s :: texts).map .str) ++ ']' :: rest) =
      .ok ((s :: texts).map .str, rest) := by
  induction texts generalizing s fuel with
  | nil =>
    obtain ⟨fuel, rfl⟩ : ∃ n, fuel = n + 2 := ⟨fuel - 2, by simp at enough; omega⟩
    have text : itemChars .unicode ([s].map .str) = stringText .unicode s := by
      simp [itemChars, chars]
    rw [text, items, value_written]
    rfl
  | cons t texts ih =>
    obtain ⟨fuel, rfl⟩ : ∃ n, fuel = n + 2 := ⟨fuel - 2, by simp at enough; omega⟩
    have less : (t :: texts).length < fuel + 1 := by simpa using enough
    have text : itemChars .unicode ((s :: t :: texts).map .str) ++ ']' :: rest =
        stringText .unicode s ++
          ',' :: ' ' :: (itemChars .unicode ((t :: texts).map .str) ++ ']' :: rest) := by
      simp [itemChars, chars]
    obtain ⟨cs, quoted⟩ := exists_itemChars t texts
    have later := ih (s := t) less
    rw [quoted] at later
    rw [text, items, value_written, quoted]
    change (items depth (fuel + 1) ('"' :: cs ++ ']' :: rest) >>= fun r =>
      pure (.str s :: r.1, r.2)) = _
    rw [later]
    rfl

/-- Written texts are not more than their characters. -/
lemma length_le_itemChars (texts : List String) :
    texts.length ≤ (itemChars .unicode (texts.map .str)).length := by
  induction texts with
  | nil => exact Nat.le_refl 0
  | cons s texts ih =>
    cases texts with
    | nil => simp [itemChars, chars, stringText]
    | cons t texts =>
      have text : itemChars .unicode ((s :: t :: texts).map .str) =
          stringText .unicode s ++ ',' :: ' ' :: itemChars .unicode ((t :: texts).map .str) := rfl
      rw [text]
      simp only [List.length_append, List.length_cons] at ih ⊢
      omega

/-- An array is read as its items, the first of which begins with a quote. -/
lemma value_of_items {xs : List Json} (read : items depth fuel ('"' :: cs) = .ok (xs, rest)) :
    value (depth + 1) (fuel + 1) ('[' :: '"' :: cs) = .ok (.arr xs, rest) := by
  change (items depth fuel ('"' :: cs) >>= fun r => pure (Json.arr r.1, r.2)) = _
  rw [read]
  rfl

/-- A list of texts reads back. -/
lemma read_write_texts (texts : List String) :
    Json.read (write .unicode (.ofTexts texts)) = .ok (.ofTexts texts) := by
  rw [read_eq_ok_iff, write, String.toList_ofList]
  cases texts with
  | nil => rfl
  | cons s texts =>
    have text : chars .unicode (.ofTexts (s :: texts)) =
        '[' :: (itemChars .unicode ((s :: texts).map .str) ++ [']']) := rfl
    have enough : (s :: texts).length < 2 * (chars .unicode (.ofTexts (s :: texts))).length := by
      have few := length_le_itemChars (s :: texts)
      rw [text]
      simp only [List.length_append, List.length_cons] at few ⊢
      omega
    have inside : items (maxDepth - 1) (2 * (chars .unicode (.ofTexts (s :: texts))).length)
        (itemChars .unicode ((s :: texts).map .str) ++ [']']) = .ok ((s :: texts).map .str, []) :=
          items_written enough
    obtain ⟨cs, quoted⟩ := exists_itemChars s texts
    rw [quoted] at text inside
    refine document_eq_ok_iff.mpr ⟨fun _ => by rw [text]; nofun, [], ?_, rfl⟩
    rw [text] at inside ⊢
    exact value_of_items inside

end ChatTriage.Json
