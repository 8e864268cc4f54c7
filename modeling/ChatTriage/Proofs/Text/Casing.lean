import Mathlib.Data.List.Basic
import ChatTriage.Proofs.Text.Words
import ChatTriage.Text.Casing

/-!
# Texts in lower case

What lowering leaves in a text: no blank where there was none, no ASCII capital and no Kelvin sign,
which is the one character beyond ASCII with an ASCII lower case. A text of such characters has an
ASCII lower case only if it is that lower case, so lowering a word twice finds nothing that lowering
it once does not find.
-/

namespace ChatTriage.Text

variable {cs xs ys before : List Char} {c : Char}

/-- The Kelvin sign. -/
def kelvin : Char := '\u212a'

/-- A character as lowering leaves it in a word. -/
structure Lowered (c : Char) : Prop where
  solid : isBlank c = false
  noKelvin : c ≠ kelvin
  noCapital : c.toNat < 128 → c.toLower = c

/-- The runs of the table beyond ASCII lead past the blanks and the Kelvin sign to characters beyond
ASCII, that of the Kelvin sign apart. -/
lemma lowerRuns_image : ∀ run ∈ lowerRuns, run.2.1 < 128 ∨ run.1 = 0x212a ∧ run.2.1 = 0x212a ∨
    0xa1 ≤ run.1 + run.2.2.2 ∧
      (run.2.1 + run.2.2.2 < 0x1680 ∨ 0x1680 < run.1 + run.2.2.2) ∧
      (run.2.1 + run.2.2.2 < 0x2000 ∨ 0x212a < run.1 + run.2.2.2) ∧
      (run.2.1 + run.2.2.2 < 0x3000 ∨ 0x3000 < run.1 + run.2.2.2) ∧
      (run.2.1 + run.2.2.2 < 0xd800 ∨ 0xdfff < run.1 + run.2.2.2 ∧
        run.2.1 + run.2.2.2 < 0x110000) := by
  decide +kernel

/-- A shift of the table comes from one of its runs. -/
lemma exists_run_of_lowerShift? {n : Nat} {shift : Int} (found : lowerShift? n = some shift) :
    ∃ run ∈ lowerRuns, run.1 ≤ n ∧ n ≤ run.2.1 ∧ run.2.2.2 = shift := by
  obtain ⟨⟨first, last, step, shift'⟩, held, rfl⟩ := Option.map_eq_some_iff.mp found
  have inside := List.find?_some held
  simp only [Bool.and_eq_true, decide_eq_true_eq] at inside
  exact ⟨_, List.mem_of_find?_eq_some held, inside.1.1, inside.1.2, rfl⟩

/-- Beyond the no-break space there are blanks in three places only. -/
lemma isBlank_eq_false (beyond : 0xa1 ≤ c.toNat) (ogham : c.toNat ≠ 0x1680)
    (general : c.toNat < 0x2000 ∨ 0x2060 ≤ c.toNat) (ideographic : c.toNat ≠ 0x3000) :
    isBlank c = false := by
  simp only [isBlank, blankEdges, inRanges, beyondEdges, Bool.not_false, Bool.not_true]
  grind

/-- Beyond ASCII a character is lowered to itself or to another that is no blank, the Kelvin sign
apart. -/
lemma lowerChar_cases (beyond : 128 ≤ c.toNat) (noKelvin : c ≠ kelvin) :
    lowerChar c = c ∨
      128 ≤ (lowerChar c).toNat ∧ isBlank (lowerChar c) = false ∧ lowerChar c ≠ kelvin := by
  rw [lowerChar, if_neg (by omega)]
  cases found : lowerShift? c.toNat with
  | none => exact .inl rfl
  | some shift =>
    obtain ⟨run, member, first, last, rfl⟩ := exists_run_of_lowerShift? found
    have other : c.toNat ≠ 0x212a := fun same => noKelvin (Char.toNat_inj.mp same)
    rcases lowerRuns_image run member with ascii | sign | ⟨low, ogham, general, ideographic, valid⟩
    · omega
    · omega
    · right
      dsimp only
      generalize image : Char.ofNat (c.toNat + run.2.2.2).toNat = d
      have value : (d.toNat : Int) = c.toNat + run.2.2.2 := by
        have character : Nat.isValidChar (c.toNat + run.2.2.2).toNat := by
          unfold Nat.isValidChar
          omega
        rw [← image, Char.ofNat, dif_pos character]
        exact Int.toNat_of_nonneg (by omega)
      refine ⟨by omega, isBlank_eq_false ?_ ?_ ?_ ?_, ?_⟩
      · omega
      · omega
      · omega
      · omega
      · rintro rfl
        have sign : kelvin.toNat = 0x212a := rfl
        omega

/-- What holds of each ASCII character, one by one. -/
lemma ascii_forall {P : Char → Prop} (all : ∀ n : Fin 128, P (Char.ofNat n))
    (ascii : c.toNat < 128) : P c := by
  have this := all ⟨c.toNat, ascii⟩
  rwa [Char.ofNat_toNat] at this

/-- An ASCII character is lowered to one that lowering leaves as it is. -/
lemma lowered_of_ascii (ascii : c.toNat < 128) (solid : isBlank c = false) :
    Lowered (lowerChar c) := by
  obtain ⟨noBlank, noKelvin, noCapital⟩ := ascii_forall (P := fun c => isBlank c = false →
    isBlank c.toLower = false ∧ c.toLower ≠ kelvin ∧ c.toLower.toLower = c.toLower)
      (by decide +kernel) ascii solid
  rw [lowerChar, if_pos ascii]
  exact ⟨noBlank, noKelvin, fun _ => noCapital⟩

/-- Lowering leaves no blank, no ASCII capital and no Kelvin sign in a word. -/
lemma lowered_lowerChar (solid : isBlank c = false) : Lowered (lowerChar c) := by
  by_cases ascii : c.toNat < 128
  · exact lowered_of_ascii ascii solid
  · have beyond : 128 ≤ c.toNat := by omega
    by_cases sign : c = kelvin
    · subst sign
      exact ⟨by decide +kernel, by decide +kernel, by decide +kernel⟩
    · rcases lowerChar_cases beyond sign with same | ⟨beyond, solid, other⟩
      · rw [same]
        exact ⟨solid, sign, fun ascii => by omega⟩
      · exact ⟨solid, other, fun ascii => by omega⟩

/-- What was put into small letters is in small letters. -/
lemma lowered_of_mem_lowerFrom (solid : ∀ c ∈ cs, isBlank c = false) {d : Char}
    (member : d ∈ lowerFrom before cs) : Lowered d := by
  induction cs generalizing before with
  | nil => exact absurd member List.not_mem_nil
  | cons c cs ih =>
    obtain ⟨first, rest⟩ := List.forall_mem_cons.mp solid
    rw [lowerFrom] at member
    split_ifs at member with sigma dotted
    · rcases List.mem_cons.mp member with rfl | later
      · unfold lowerSigma
        split_ifs <;> exact ⟨by decide, by decide, by decide⟩
      · exact ih rest later
    · rcases List.mem_cons.mp member with rfl | later
      · exact ⟨by decide, by decide, by decide⟩
      · rcases List.mem_cons.mp later with rfl | later
        · exact ⟨by decide, by decide, by decide⟩
        · exact ih rest later
    · rcases List.mem_cons.mp member with rfl | later
      · exact lowered_lowerChar first
      · exact ih rest later

/-- What was lowered once has an ASCII lower case only if it is that lower case. -/
lemma lowerFrom_eq_self (lowered : ∀ c ∈ cs, Lowered c)
    (ascii : ∀ d ∈ lowerFrom before cs, d.toNat < 128) : lowerFrom before cs = cs := by
  induction cs generalizing before with
  | nil => rfl
  | cons c cs ih =>
    obtain ⟨first, rest⟩ := List.forall_mem_cons.mp lowered
    rw [lowerFrom] at ascii ⊢
    split_ifs at ascii ⊢ with sigma dotted
    · have low := (List.forall_mem_cons.mp ascii).1
      unfold lowerSigma at low
      split_ifs at low <;> exact absurd low (by decide)
    · exact absurd (ascii '\u0307' (by simp)) (by decide)
    · obtain ⟨low, ascii⟩ := List.forall_mem_cons.mp ascii
      rw [ih rest ascii]
      by_cases beyond : 128 ≤ c.toNat
      · rcases lowerChar_cases beyond first.noKelvin with same | ⟨beyond, -⟩
        · rw [same]
        · omega
      · have small : c.toNat < 128 := by omega
        rw [lowerChar, if_pos small, first.noCapital small]

/-- Lowering a text makes it no shorter. -/
lemma length_le_length_lowerFrom : cs.length ≤ (lowerFrom before cs).length := by
  induction cs generalizing before with
  | nil => exact Nat.le_refl 0
  | cons c cs ih =>
    rw [lowerFrom]
    split_ifs
    · exact Nat.succ_le_succ ih
    · exact Nat.succ_le_succ (Nat.le_succ_of_le ih)
    · exact Nat.succ_le_succ ih

/-- The lower case of a word is a word. -/
lemma Solid.lowerChars (solid : Solid cs) : Solid (lowerChars cs) := by
  refine ⟨?_, fun c member => (lowered_of_mem_lowerFrom solid.unbroken member).solid⟩
  have some := List.length_pos_iff.mpr solid.filled
  exact List.length_pos_iff.mp (Nat.lt_of_lt_of_le some length_le_length_lowerFrom)

/-- ASCII letters are lowered one by one, whatever comes after them. -/
lemma lowerFrom_append (ascii : ∀ c ∈ xs, c.toNat < 128) :
    lowerFrom before (xs ++ ys) = xs.map Char.toLower ++ lowerFrom (xs.reverse ++ before) ys := by
  induction xs generalizing before with
  | nil => rfl
  | cons c xs ih =>
    obtain ⟨first, rest⟩ := List.forall_mem_cons.mp ascii
    have noSigma : c ≠ 'Σ' := by rintro rfl; exact absurd first (by decide)
    have noDot : c ≠ 'İ' := by rintro rfl; exact absurd first (by decide)
    rw [List.cons_append, lowerFrom, if_neg noSigma, if_neg noDot, lowerChar, if_pos first, ih rest,
      List.map_cons, List.cons_append, List.reverse_cons, List.append_assoc, List.singleton_append]

/-! ### Letters in either case -/

/-- Only ASCII characters have a simple lower case of their own. -/
lemma toLower_of_beyond (beyond : 128 ≤ c.toNat) : c.toLower = c := by
  refine dif_neg ?_
  rintro ⟨-, high⟩
  have low : c.toNat ≤ 90 := by simpa [UInt32.le_iff_toNat_le] using high
  omega

/-- The letters that are compared without their dot are no ASCII characters. -/
lemma noDot_of_ascii (ascii : c.toNat < 128) : (c = 'İ' || c = 'ı') = false := by
  rw [Bool.or_eq_false_iff, decide_eq_false_iff_not, decide_eq_false_iff_not]
  constructor <;> rintro rfl <;> exact absurd ascii (by decide)

/-- An ASCII character counts as a small letter if that is its lower case. -/
lemma sameLetter_ascii {w : Char} (small : w.toLower = w) (letter : w.toNat < 128)
    (ascii : c.toNat < 128) :
    sameLetter w c = true ↔ w = c.toLower := by
  simp only [sameLetter, noDot_of_ascii letter, noDot_of_ascii ascii,
    Bool.false_eq_true, ↓reduceIte, small, beq_iff_eq]

/-- A character that counts as a letter is no blank. -/
lemma solid_of_sameLetter {w : Char} (small : w.toLower = w) (letter : w.toNat < 128)
    (solid : isBlank w = false) (same : sameLetter w c = true) : isBlank c = false := by
  by_cases ascii : c.toNat < 128
  · have all : ∀ n : Fin 128, isBlank (Char.ofNat n).toLower = isBlank (Char.ofNat n) := by
      decide +kernel
    have image := all ⟨c.toNat, ascii⟩
    rw [Char.ofNat_toNat, ← (sameLetter_ascii small letter ascii).mp same] at image
    exact image.symm.trans solid
  · simp only [sameLetter, noDot_of_ascii letter, small, toLower_of_beyond (Nat.not_lt.mp ascii),
      Bool.false_eq_true, ↓reduceIte, beq_iff_eq] at same
    split_ifs at same with dotted
    · rw [Bool.or_eq_true, decide_eq_true_eq, decide_eq_true_eq] at dotted
      rcases dotted with rfl | rfl <;> decide
    · exact absurd (same ▸ letter) ascii

end ChatTriage.Text
