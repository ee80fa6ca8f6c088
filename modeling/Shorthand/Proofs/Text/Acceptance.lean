import Shorthand.Proofs.Text.Matching

/-! Which texts a pattern accepts. How much a piece takes is a matter of preference,
but whether the whole pattern fits is not: a part of a line is accepted exactly when
some cut of that line leaves the rest of the pattern a text it accepts. -/
namespace Shorthand

namespace Text

/-- The text begins with the word, in any spelling. -/
def Begins (word t : Text) : Prop := ∃ spelling rest, t = spelling ++ rest ∧ Spells word spelling

theorem Spells.begins {word t : Text} (spells : Spells word t) : Begins word t :=
  ⟨t, [], by simp, spells⟩

end Text

namespace Pattern

/-- The pattern matches at the start of the text. -/
def Accepts (pattern : Pattern) (t : Text) : Prop := ∃ found, pattern.match? t = some found

theorem match?_eq_none_iff {pattern : Pattern} {t : Text} :
    pattern.match? t = none ↔ ¬ pattern.Accepts t := by
  rw [Accepts, ← Option.isSome_iff_exists, Option.not_isSome_iff_eq_none]

theorem accepts_nil (t : Text) : Accepts [] t := ⟨⟨[], t⟩, rfl⟩

theorem accepts_exactly_iff {classes : List CharClass} {pieces : Pattern} {t : Text} :
    Accepts (.exactly classes :: pieces) t ↔
      ∃ taken left, t = taken ++ left ∧ Fits classes taken ∧ pieces.Accepts left := by
  constructor
  · rintro ⟨found, matched⟩
    obtain ⟨taken, left, inner, whole, fits, further, _⟩ := match?_exactly_iff.mp matched
    exact ⟨taken, left, whole, fits, inner, further⟩
  · rintro ⟨taken, left, whole, fits, inner, further⟩
    exact ⟨_, match?_exactly_iff.mpr ⟨taken, left, inner, whole, fits, further, rfl⟩⟩

theorem accepts_word_iff {word : String} {pieces : Pattern} {t : Text}
    (plain : word.toList.all Letter.isPlain = true) :
    Accepts (.word word :: pieces) t ↔
      ∃ taken left, t = taken ++ left ∧ Text.Spells word.toList taken ∧ pieces.Accepts left := by
  rw [Piece.word, accepts_exactly_iff]
  simp only [fits_word_iff plain]

/-- A word of one character without cases is found as it is. -/
theorem accepts_symbol_iff {word : String} {symbol : Char} {pieces : Pattern} {t : Text}
    (single : word.toList = [symbol]) (plain : Letter.isPlain symbol = true)
    (caseless : symbol.toLower = symbol) :
    Accepts (.word word :: pieces) t ↔ ∃ rest, t = symbol :: rest ∧ pieces.Accepts rest := by
  rw [accepts_word_iff (by simp [single, plain]), single]
  simp only [Text.spells_singleton_iff caseless]
  constructor
  · rintro ⟨_, rest, rfl, rfl, further⟩
    exact ⟨rest, rfl, further⟩
  · rintro ⟨rest, rfl, further⟩
    exact ⟨[symbol], rest, rfl, rfl, further⟩

theorem accepts_oneOf_iff {words : List Text} {pieces : Pattern} {t : Text}
    (plain : ∀ word ∈ words, word.all Letter.isPlain = true) :
    Accepts (.oneOf words :: pieces) t ↔ ∃ word ∈ words, ∃ taken left,
      t = taken ++ left ∧ Text.Spells word taken ∧ pieces.Accepts left := by
  constructor
  · rintro ⟨found, matched⟩
    obtain ⟨taken, inner, took, _⟩ := match?_cons_eq_some_iff.mp matched
    obtain ⟨word, member, left, front, further⟩ := Piece.read_oneOf_eq_some took
    obtain ⟨whole, spells⟩ := (Piece.take_word_iff (plain word member)).mp front
    exact ⟨word, member, taken, left, whole, spells, inner, further⟩
  · rintro ⟨word, member, taken, left, whole, spells, inner, further⟩
    have front := (Piece.take_word_iff (plain word member)).mpr ⟨whole, spells⟩
    rw [Accepts, ← Option.isSome_iff_exists, match?, Option.isSome_map, Piece.read,
      List.isSome_findSome?, List.any_eq_true]
    exact ⟨word, member, by simp [front, further]⟩

/-- The least and the greatest choice exist together. -/
theorem fewest_eq_none_iff_most {accept : Text → Option α} {t : Text} :
    Piece.fewest accept t = none ↔ Piece.most accept t = none := by
  induction t with
  | nil => rfl
  | cons c t ih =>
    simp only [Piece.fewest, Piece.most]
    by_cases newline : c = '\n'
    · cases accept (c :: t) <;> simp [newline]
    · cases here : accept (c :: t) <;> cases further : Piece.most accept t <;>
        simp_all

private theorem accepts_of_refusal {piece : Piece} {pieces : Pattern} {t : Text}
    (refusal : piece.read pieces.match? t = none ↔
      ∀ front back, t = front ++ back → '\n' ∉ front → pieces.match? back = none) :
    Accepts (piece :: pieces) t ↔
      ∃ front back, t = front ++ back ∧ '\n' ∉ front ∧ pieces.Accepts back := by
  rw [← not_iff_not, ← match?_eq_none_iff, match?, Option.map_eq_none_iff, refusal]
  simp only [match?_eq_none_iff, not_exists, not_and]

theorem accepts_shortest_iff {pieces : Pattern} {t : Text} : Accepts (.shortest :: pieces) t ↔
    ∃ front back, t = front ++ back ∧ '\n' ∉ front ∧ pieces.Accepts back :=
  accepts_of_refusal (fewest_eq_none_iff_most.trans Piece.most_eq_none_iff)

theorem accepts_longest_iff {pieces : Pattern} {t : Text} : Accepts (.longest :: pieces) t ↔
    ∃ front back, t = front ++ back ∧ '\n' ∉ front ∧ pieces.Accepts back :=
  accepts_of_refusal Piece.most_eq_none_iff

/-- A line part at the end of a pattern is always found. -/
theorem accepts_longest (t : Text) : Accepts [.longest] t :=
  accepts_longest_iff.mpr ⟨[], t, rfl, by simp, accepts_nil t⟩

theorem accepts_finish_iff {t : Text} : Accepts [.finish] t ↔ t = [] := by
  constructor
  · rintro ⟨found, matched⟩
    by_contra more
    simp [match?, Piece.read, more] at matched
  · rintro rfl
    exact ⟨_, rfl⟩

end Pattern
end Shorthand
