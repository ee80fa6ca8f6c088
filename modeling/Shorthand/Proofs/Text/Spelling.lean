import Mathlib.Data.List.Forall2
import Mathlib.Data.List.Infix
import Mathlib.Tactic.SplitIfs
import Shorthand.Text.Basic

/-! A word is spelled by the texts that agree with it letter for letter: a letter
in either case, the long s for an S, the Kelvin sign for a K, and everything else
only by itself. Case folding makes the same characters agree. -/
namespace Shorthand

namespace Letter

/-- The characters that stand for one character of a word in capital letters. -/
def Spells (letter c : Char) : Prop :=
  c = letter ∨ c = letter.toLower ∨ (letter = 'S' ∧ c = 'ſ') ∨ (letter = 'K' ∧ c = '\u212A')

instance (letter c : Char) : Decidable (Spells letter c) :=
  inferInstanceAs (Decidable (_ ∨ _ ∨ _ ∨ _))

/-- A character without cases is spelled by itself only. -/
theorem spells_iff_eq {letter c : Char} (caseless : letter.toLower = letter) :
    Spells letter c ↔ c = letter := by
  constructor
  · rintro (same | lower | ⟨rfl, _⟩ | ⟨rfl, _⟩)
    · exact same
    · rw [lower, caseless]
    · exact absurd caseless (by decide)
    · exact absurd caseless (by decide)
  · exact Or.inl

/-- Capital letters, digits and the other ASCII characters that are no small letter. -/
def isPlain (c : Char) : Bool := !c.isLower && isAscii c

private theorem toNat_toLower (c : Char) :
    c.toLower.toNat = if 65 ≤ c.toNat ∧ c.toNat ≤ 90 then c.toNat + 32 else c.toNat := by
  unfold Char.toLower
  split
  · next upper =>
    have low : 65 ≤ c.toNat := upper.1
    have high : c.toNat ≤ 90 := upper.2
    rw [if_pos ⟨low, high⟩]
    show (c.val + 32).toNat = c.val.toNat + 32
    have bound : c.val.toNat ≤ 90 := high
    rw [UInt32.toNat_add]
    exact Nat.mod_eq_of_lt (by simp; omega)
  · next other =>
    rw [if_neg (fun upper => other ⟨upper.1, upper.2⟩)]

private theorem toNat_toUpper (c : Char) :
    c.toUpper.toNat = if 97 ≤ c.toNat ∧ c.toNat ≤ 122 then c.toNat - 32 else c.toNat := by
  unfold Char.toUpper
  split
  · next lower =>
    have low : 97 ≤ c.val.toNat := lower.1
    have high : c.val.toNat ≤ 122 := lower.2
    rw [if_pos ⟨low, high⟩]
    show (c.val + 4294967264).toNat = c.val.toNat - 32
    rw [UInt32.toNat_add]
    show (c.val.toNat + 4294967264) % 4294967296 = c.val.toNat - 32
    omega
  · next other =>
    rw [if_neg (fun lower => other ⟨lower.1, lower.2⟩)]

private theorem toNat_fold (c : Char) :
    (fold c).toNat = if c.toNat = 383 then 115 else if c.toNat = 8490 then 107
      else if 65 ≤ c.toNat ∧ c.toNat ≤ 90 then c.toNat + 32 else c.toNat := by
  have longS : c = 'ſ' ↔ c.toNat = 383 := Char.toNat_inj.symm
  have kelvin : c = '\u212A' ↔ c.toNat = 8490 := Char.toNat_inj.symm
  simp only [fold, longS, kelvin]
  split_ifs <;> simp_all [toNat_toLower]

private theorem isLower_iff {c : Char} : c.isLower = true ↔ 97 ≤ c.toNat ∧ c.toNat ≤ 122 := by
  show (decide ('a'.val ≤ c.val) && decide (c.val ≤ 'z'.val)) = true ↔ _
  rw [Bool.and_eq_true, decide_eq_true_eq, decide_eq_true_eq, UInt32.le_iff_toNat_le,
    UInt32.le_iff_toNat_le]
  rfl

private theorem isUpper_iff {c : Char} : c.isUpper = true ↔ 65 ≤ c.toNat ∧ c.toNat ≤ 90 := by
  show decide ('A'.val ≤ c.val ∧ c.val ≤ 'Z'.val) = true ↔ _
  rw [decide_eq_true_eq, UInt32.le_iff_toNat_le, UInt32.le_iff_toNat_le]
  rfl

private theorem bounds_of_isPlain {c : Char} (plain : isPlain c = true) :
    ¬ (97 ≤ c.toNat ∧ c.toNat ≤ 122) ∧ c.toNat < 128 := by
  simp only [isPlain, isAscii, Bool.and_eq_true, Bool.not_eq_true', decide_eq_true_eq] at plain
  rw [← isLower_iff, Bool.not_eq_true]
  exact plain

/-- ASCII capitals are made from a plain character and from its small letter only. -/
theorem toUpper_eq_iff {letter c : Char} (plain : isPlain letter = true) :
    c.toUpper = letter ↔ c = letter ∨ c = letter.toLower := by
  obtain ⟨small, _⟩ := bounds_of_isPlain plain
  simp only [← Char.toNat_inj, toNat_toUpper, toNat_toLower]
  split_ifs <;> omega

theorem toUpper_toUpper (c : Char) : c.toUpper.toUpper = c.toUpper := by
  rw [← Char.toNat_inj, toNat_toUpper, toNat_toUpper]
  split_ifs <;> omega

/-- A letter agrees with the same characters in either case. -/
theorem fold_toUpper (c : Char) : fold c.toUpper = fold c := by
  rw [← Char.toNat_inj, toNat_fold, toNat_fold, toNat_toUpper]
  split_ifs <;> omega

theorem isDigit_toUpper (c : Char) : c.toUpper.isDigit = c.isDigit := by
  rw [Bool.eq_iff_iff, Char.isDigit_iff_toNat, Char.isDigit_iff_toNat]
  show 48 ≤ c.toUpper.toNat ∧ c.toUpper.toNat ≤ 57 ↔ 48 ≤ c.toNat ∧ c.toNat ≤ 57
  rw [toNat_toUpper]
  split_ifs <;> omega

theorem toUpper_of_isDigit {c : Char} (digit : c.isDigit = true) : c.toUpper = c := by
  have high : c.toNat ≤ 57 := (Char.isDigit_iff_toNat.mp digit).2
  rw [← Char.toNat_inj, toNat_toUpper, if_neg (by omega)]

theorem isAscii_toUpper (c : Char) : isAscii c.toUpper = isAscii c := by
  rw [Bool.eq_iff_iff, isAscii, isAscii, decide_eq_true_eq, decide_eq_true_eq, toNat_toUpper]
  split_ifs <;> omega

theorem isBlank_toUpper (c : Char) : Text.isBlank c.toUpper = Text.isBlank c := by
  by_cases small : 97 ≤ c.toNat ∧ c.toNat ≤ 122
  · rw [Bool.eq_iff_iff]
    simp only [Text.isBlank, toNat_toUpper, if_pos small, Bool.or_eq_true, Bool.and_eq_true,
      decide_eq_true_eq, beq_iff_eq]
    omega
  · simp only [Text.isBlank, toNat_toUpper, if_neg small]

/-- Characters agree with a plain one exactly when they spell it. -/
theorem agrees_iff_spells {letter c : Char} (plain : isPlain letter = true) :
    agrees letter c = true ↔ Spells letter c := by
  obtain ⟨small, ascii⟩ := bounds_of_isPlain plain
  simp only [agrees, beq_iff_eq, Spells, ← Char.toNat_inj, toNat_fold, toNat_toLower]
  show _ ↔ c.toNat = letter.toNat ∨ _ ∨ (letter.toNat = 83 ∧ c.toNat = 383) ∨
    (letter.toNat = 75 ∧ c.toNat = 8490)
  split_ifs <;> omega

private theorem isAlpha_iff {c : Char} :
    c.isAlpha = true ↔ c.isUpper = true ∨ c.isLower = true := by
  show (c.isUpper || c.isLower) = true ↔ _
  exact Bool.or_eq_true_iff

/-- The letters are those of ASCII, the long s and the Kelvin sign. -/
theorem isLetter_iff {c : Char} :
    isLetter c = true ↔ c.isAlpha = true ∨ c = 'ſ' ∨ c = '\u212A' := by
  have longS : c = 'ſ' ↔ c.toNat = 383 := Char.toNat_inj.symm
  have kelvin : c = '\u212A' ↔ c.toNat = 8490 := Char.toNat_inj.symm
  rw [isAlpha_iff, longS, kelvin, isLetter, isLower_iff, isUpper_iff, isLower_iff, toNat_fold]
  split_ifs <;> omega

theorem bounds_of_isAlpha {c : Char} (alpha : c.isAlpha = true) :
    65 ≤ c.toNat ∧ c.toNat ≤ 122 := by
  rw [isAlpha_iff, isUpper_iff, isLower_iff] at alpha
  omega

theorem isAscii_of_isAlpha {c : Char} (alpha : c.isAlpha = true) : isAscii c = true := by
  have bounds := bounds_of_isAlpha alpha
  rw [isAscii, decide_eq_true_eq]
  omega

theorem isAscii_of_isDigit {c : Char} (digit : c.isDigit = true) : isAscii c = true := by
  have bound : c.toNat ≤ 57 := (Char.isDigit_iff_toNat.mp digit).2
  rw [isAscii, decide_eq_true_eq]
  omega

theorem isDigit_of_isLetter {c : Char} (letter : isLetter c = true) : c.isDigit = false := by
  rw [Bool.eq_false_iff]
  intro digit
  have bound : c.toNat ≤ 57 := (Char.isDigit_iff_toNat.mp digit).2
  rcases isLetter_iff.mp letter with alpha | rfl | rfl
  · have bounds := bounds_of_isAlpha alpha
    omega
  · cases digit
  · cases digit

theorem isBlank_of_isLetter {c : Char} (letter : isLetter c = true) : Text.isBlank c = false := by
  rw [Bool.eq_false_iff]
  intro blank
  simp only [Text.isBlank, Bool.or_eq_true, Bool.and_eq_true, decide_eq_true_eq,
    beq_iff_eq] at blank
  rcases isLetter_iff.mp letter with alpha | rfl | rfl
  · have bounds := bounds_of_isAlpha alpha
    omega
  · exact absurd blank (by decide)
  · exact absurd blank (by decide)

theorem isBlank_of_isDigit {c : Char} (digit : c.isDigit = true) : Text.isBlank c = false := by
  have low : 48 ≤ c.toNat := (Char.isDigit_iff_toNat.mp digit).1
  have high : c.toNat ≤ 57 := (Char.isDigit_iff_toNat.mp digit).2
  rw [Bool.eq_false_iff]
  intro blank
  simp only [Text.isBlank, Bool.or_eq_true, Bool.and_eq_true, decide_eq_true_eq,
    beq_iff_eq] at blank
  omega

/-- A character whose ASCII capital is a letter is one. -/
theorem isLetter_of_isUpper_toUpper {c : Char} (upper : c.toUpper.isUpper = true) :
    isLetter c = true := by
  rw [isUpper_iff, toNat_toUpper] at upper
  rw [isLetter, isLower_iff, toNat_fold]
  split_ifs at upper ⊢ <;> omega

end Letter

namespace Text

/-- The texts that stand for a word in capital letters. -/
def Spells (word t : Text) : Prop := List.Forall₂ Letter.Spells word t

instance (word t : Text) : Decidable (Spells word t) :=
  inferInstanceAs (Decidable (List.Forall₂ _ _ _))

theorem spells_singleton_iff {letter : Char} {t : Text} (caseless : letter.toLower = letter) :
    Spells [letter] t ↔ t = [letter] := by
  simp [Spells, List.forall₂_cons_left_iff, Letter.spells_iff_eq caseless]

/-- Every character of a spelling spells a letter of the word. -/
theorem Spells.letter_of_mem {word t : Text} {c : Char} (spells : Spells word t)
    (member : c ∈ t) : ∃ letter ∈ word, Letter.Spells letter c := by
  induction spells with
  | nil => cases member
  | @cons letter d _ _ first _ ih =>
    rcases List.mem_cons.mp member with rfl | later
    · exact ⟨letter, by simp, first⟩
    · obtain ⟨other, among, same⟩ := ih later
      exact ⟨other, List.mem_cons_of_mem _ among, same⟩

/-- All spellings of a word have its length, so a text begins with only one of them. -/
theorem Spells.append_inj {word a b x y : Text} (first : Spells word a) (second : Spells word b)
    (same : a ++ x = b ++ y) : a = b ∧ x = y :=
  List.append_inj same (first.length_eq.symm.trans second.length_eq)

/-- The word stands somewhere in the text, in any spelling. -/
def Mentions (word t : Text) : Prop := ∃ spelling, Spells word spelling ∧ spelling <:+: t

theorem mentions_iff_tails {word t : Text} :
    Mentions word t ↔ ∃ tail ∈ t.tails, Spells word (tail.take word.length) := by
  constructor
  · rintro ⟨spelling, spells, inside⟩
    obtain ⟨tail, start, suffix⟩ := List.infix_iff_prefix_suffix.mp inside
    refine ⟨tail, (List.mem_tails ..).mpr suffix, ?_⟩
    rw [List.Forall₂.length_eq spells, ← List.prefix_iff_eq_take.mp start]
    exact spells
  · rintro ⟨tail, member, spells⟩
    exact ⟨_, spells, (List.take_prefix ..).isInfix.trans ((List.mem_tails ..).mp member).isInfix⟩

instance (word t : Text) : Decidable (Mentions word t) := decidable_of_iff _ mentions_iff_tails.symm

end Text

end Shorthand
