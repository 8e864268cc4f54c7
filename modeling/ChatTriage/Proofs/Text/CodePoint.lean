import Mathlib.Data.List.Basic
import ChatTriage.Text.CodePoint

/-!
# Spelled texts

The spelling of a text can be read: the code points that were spelled come out again
(`spellings_spelled`, `point_spell`), so no two rows of code points are spelled alike. What can be
encoded are the texts without surrogates (`encodable_spelled`), among them all that consist of
characters, which come out again as well: `characters_ofCharacters`.
-/

namespace ChatTriage.Text

variable {c : Char} {cs ds : List Char} {n p : Nat} {ps : List Nat} {s t : String}

/-! ### One code point -/

/-- A valid number is that of its character. -/
lemma toNat_ofNat (valid : n.isValidChar) : (Char.ofNat n).toNat = n := by
  rw [Char.ofNat, dif_pos valid]
  rfl

/-- No character is a surrogate. -/
lemma not_isSurrogate (c : Char) : isSurrogate c.toNat = false := by
  have valid : c.toNat < 0xd800 ∨ 0xdfff < c.toNat ∧ c.toNat < 0x110000 := c.valid
  simp only [isSurrogate, Bool.and_eq_false_iff, decide_eq_false_iff_not]
  omega

/-- A character that is no mark stands for itself. -/
lemma spell_toNat (low : c.toNat < firstMark) : spell c.toNat = [c] := by
  rw [spell, if_neg (by simp [not_isSurrogate]), if_neg (Nat.not_le.mpr low), Char.ofNat_toNat]

/-- The two marks of a spelling, read. -/
lemma spelling_spec (small : n < 3 * marks) : ∃ a b, spelling n = [a, b] ∧
    isFirstMark a = true ∧ isSecondMark b = true ∧
    point [a, b] = (if n < marks then 0xd800 + n else firstMark + (n - marks)) ∧
    (a = surrogateMark ↔ n < marks) := by
  have first : (Char.ofNat (firstMark + n / marks)).toNat = firstMark + n / marks :=
    toNat_ofNat (.inr (by simp only [firstMark, marks] at small ⊢; omega))
  have second : (Char.ofNat (secondMark + n % marks)).toNat = secondMark + n % marks :=
    toNat_ofNat (.inr (by simp only [secondMark, marks] at small ⊢; omega))
  have mark : surrogateMark.toNat = firstMark := rfl
  refine ⟨_, _, rfl, ?_, ?_, ?_, ?_⟩
  · rw [isFirstMark, first, Bool.and_eq_true, decide_eq_true_eq, decide_eq_true_eq]
    simp only [firstMark, secondMark, marks] at small ⊢
    omega
  · simp [isSecondMark, second]
  · have number : n / marks * marks + n % marks = n := Nat.div_add_mod' n marks
    simp only [point, first, second, Nat.add_sub_cancel_left, number]
  · rw [← Char.toNat_inj, first, mark]
    simp only [marks]
    omega

/-- A code point is spelled by the character that it is, or by two marks from which it is read. -/
lemma spell_spec (valid : p < 0x110000) :
    (∃ c, spell p = [c] ∧ c.toNat = p ∧ p < firstMark ∧ isSurrogate p = false) ∨
      ∃ a b, spell p = [a, b] ∧ isFirstMark a = true ∧ isSecondMark b = true ∧ point [a, b] = p ∧
        (a = surrogateMark ↔ isSurrogate p = true) := by
  by_cases surrogate : isSurrogate p = true
  · have bounds : 0xd800 ≤ p ∧ p < 0xe000 := by simpa [isSurrogate] using surrogate
    obtain ⟨a, b, same, first, second, read, own⟩ :=
      spelling_spec (n := p - 0xd800) (by simp only [marks]; omega)
    have small : p - 0xd800 < marks := by simp only [marks]; omega
    refine .inr ⟨a, b, by rw [spell, if_pos surrogate, same], first, second, ?_, ?_⟩
    · rw [read, if_pos small]
      omega
    · simp [own, small, surrogate]
  · by_cases marked : firstMark ≤ p
    · obtain ⟨a, b, same, first, second, read, own⟩ :=
        spelling_spec (n := p - firstMark + marks)
          (by simp only [firstMark, marks] at marked ⊢; omega)
      have large : ¬ p - firstMark + marks < marks := by omega
      refine .inr
        ⟨a, b, by rw [spell, if_neg surrogate, if_pos marked, same], first, second, ?_, ?_⟩
      · rw [read, if_neg large]
        omega
      · simp [own, large, surrogate]
    · have plain : p < 0xd800 ∨ 0xe000 ≤ p := by
        simp only [isSurrogate, Bool.and_eq_true, decide_eq_true_eq, not_and] at surrogate
        omega
      refine .inl ⟨Char.ofNat p, by rw [spell, if_neg surrogate, if_neg marked], ?_, by omega,
        by simpa using surrogate⟩
      exact toNat_ofNat (by simp only [Nat.isValidChar, firstMark] at marked ⊢; omega)

/-- A code point is read from its spelling. -/
lemma point_spell (valid : p < 0x110000) : point (spell p) = p := by
  obtain ⟨c, same, own, -⟩ | ⟨a, b, same, -, -, own, -⟩ := spell_spec valid <;> rw [same]
  · exact own
  · exact own

/-! ### Texts -/

/-- Characters below the marks are none. -/
lemma isFirstMark_eq_false (low : c.toNat < firstMark) : isFirstMark c = false := by
  simp [isFirstMark, Nat.not_le.mpr low]

/-- A plain character is spelled by itself. -/
lemma spellings_cons (plain : isFirstMark c = false) :
    spellings (c :: cs) = [c] :: spellings cs := by
  cases cs with
  | nil => rfl
  | cons d cs => rw [spellings, plain, Bool.false_and, if_neg Bool.false_ne_true]

/-- What follows it is the rest. -/
lemma afterPoint_cons (plain : isFirstMark c = false) : afterPoint (c :: cs) = cs := by
  cases cs with
  | nil => rfl
  | cons d cs => rw [afterPoint, plain, Bool.false_and, if_neg Bool.false_ne_true]

/-- Only nothing is spelled as nothing. -/
lemma spellings_eq_nil_iff : spellings cs = [] ↔ cs = [] := by
  constructor
  · intro none
    unfold spellings at none
    split at none
    · rfl
    · cases none
    · split at none <;> cases none
  · rintro rfl
    rfl

/-- The spellings of code points are found again. -/
lemma spellings_spelled (valid : ∀ p ∈ ps, p < 0x110000) :
    spellings (ps.flatMap spell) = ps.map spell := by
  induction ps with
  | nil => rfl
  | cons p ps ih =>
    obtain ⟨first, others⟩ := List.forall_mem_cons.mp valid
    rw [List.flatMap_cons, List.map_cons, ← ih others]
    obtain ⟨c, same, own, low, -⟩ | ⟨a, b, same, marked, marked', -⟩ := spell_spec first <;>
      rw [same]
    · exact spellings_cons (isFirstMark_eq_false (own ▸ low))
    · change spellings (a :: b :: _) = _
      rw [spellings, marked, marked', Bool.and_self, if_pos rfl]
      rfl

/-- A text can be encoded if none of its code points is a surrogate. -/
lemma encodable_spelled (valid : ∀ p ∈ ps, p < 0x110000) :
    encodable (String.ofList (ps.flatMap spell)) = ps.all (!isSurrogate ·) := by
  rw [encodable, String.toList_ofList, Bool.not_eq_eq_eq_not]
  induction ps with
  | nil => rfl
  | cons p ps ih =>
    obtain ⟨first, others⟩ := List.forall_mem_cons.mp valid
    have mark : isFirstMark surrogateMark = true ∧ isSecondMark surrogateMark = false := by decide
    have found : (spell p).contains surrogateMark = isSurrogate p := by
      obtain ⟨c, same, own, low, plain⟩ | ⟨a, b, same, -, second, -, own⟩ := spell_spec first
      · have other : surrogateMark ≠ c := by
          rintro rfl
          rw [isFirstMark_eq_false (own ▸ low)] at mark
          exact Bool.false_ne_true mark.1
        rw [same, plain, List.contains_cons, beq_false_of_ne other]
        rfl
      · have other : surrogateMark ≠ b := by
          rintro rfl
          rw [second] at mark
          exact Bool.noConfusion mark.2
        rw [same, List.contains_cons, List.contains_cons, beq_false_of_ne other, Bool.eq_iff_iff,
          ← own, Bool.false_or, List.contains_nil, Bool.or_false, beq_iff_eq]
        exact eq_comm
    rw [List.flatMap_cons, List.contains_append, ih others, List.all_cons, found, Bool.not_and,
      Bool.not_not]

/-- Characters come out of their text again, and the text can be encoded. -/
lemma characters_ofCharacters (s : String) :
    characters (ofCharacters s) = s ∧ encodable (ofCharacters s) = true := by
  have valid : ∀ p ∈ s.toList.map Char.toNat, p < 0x110000 := by
    intro p member
    obtain ⟨c, -, rfl⟩ := List.mem_map.mp member
    have valid : c.toNat < 0xd800 ∨ 0xdfff < c.toNat ∧ c.toNat < 0x110000 := c.valid
    omega
  have same : ofCharacters s = String.ofList ((s.toList.map Char.toNat).flatMap spell) := by
    rw [ofCharacters, List.flatMap_map]
  constructor
  · have read : ((s.toList.map Char.toNat).map spell).map (fun p => Char.ofNat (point p)) =
        s.toList := by
      rw [List.map_map, List.map_map]
      refine (List.map_congr_left fun c member => ?_).trans (List.map_id _)
      simp [point_spell (valid _ (List.mem_map_of_mem member))]
    rw [characters, same, String.toList_ofList, spellings_spelled valid, read, String.ofList_toList]
  · rw [same, encodable_spelled valid]
    simp [not_isSurrogate]

end ChatTriage.Text
