import Shorthand.Proofs.Text.Spelling
import Shorthand.Proofs.Text.Trimming
import Shorthand.Text.Pattern

/-! What a pattern finds, one piece at a time: a match of a pattern is a way to cut
the text into a part for its first piece and a match of the other pieces. Words are
found in exactly their spellings, and blanks are taken to the last one. -/
namespace Shorthand

/-- One admitted character stands in the text for each class. -/
def Fits (classes : List CharClass) (t : Text) : Prop :=
  List.Forall₂ (fun k c => k.admits c = true) classes t

/-- The spellings of a word are the texts that fit its letters. -/
theorem fits_word_iff {word t : Text} (plain : word.all Letter.isPlain = true) :
    Fits (word.map .letter) t ↔ Text.Spells word t := by
  rw [Fits, List.forall₂_map_left_iff]
  rw [List.all_eq_true] at plain
  constructor
  · intro fits
    exact ((List.forall₂_and_left ..).mpr ⟨plain, fits⟩).imp
      fun _ _ both => (Letter.agrees_iff_spells both.1).mp both.2
  · intro spells
    exact ((List.forall₂_and_left ..).mpr ⟨plain, spells⟩).imp
      fun _ _ both => (Letter.agrees_iff_spells both.1).mpr both.2

theorem Piece.take_iff_fits {classes : List CharClass} {t taken left : Text} :
    take classes t = some (taken, left) ↔ t = taken ++ left ∧ Fits classes taken := by
  rw [take_eq_some_iff, Fits, List.forall₂_iff_zip]

/-- A word is taken in all its spellings. -/
theorem Piece.take_word_iff {word t taken left : Text} (plain : word.all Letter.isPlain = true) :
    take (word.map .letter) t = some (taken, left) ↔
      t = taken ++ left ∧ Text.Spells word taken := by
  rw [take_iff_fits, fits_word_iff plain]

namespace Pattern

/-- A match begins with what its first piece can take from the text. -/
theorem match?_cons_iff_of_read (piece : Piece) {pieces : Pattern} {t : Text} {found : Match}
    {choice : Text → Text → Match → Prop} (reads : ∀ taken inner,
      piece.read (Pattern.match? pieces) t = some (taken, inner) ↔ ∃ left, choice taken left inner) :
    Pattern.match? (piece :: pieces) t = some found ↔ ∃ taken left inner,
      choice taken left inner ∧ found = ⟨taken :: inner.parts, inner.rest⟩ := by
  simp only [match?_cons_eq_some_iff, reads]
  constructor
  · rintro ⟨taken, inner, ⟨left, chosen⟩, same⟩
    exact ⟨taken, left, inner, chosen, same⟩
  · rintro ⟨taken, left, inner, chosen, same⟩
    exact ⟨taken, inner, ⟨left, chosen⟩, same⟩

theorem match?_exactly_iff {classes : List CharClass} {pieces : Pattern} {t : Text}
    {found : Match} : Pattern.match? (.exactly classes :: pieces) t = some found ↔
      ∃ taken left inner, t = taken ++ left ∧ Fits classes taken ∧
        pieces.match? left = some inner ∧ found = ⟨taken :: inner.parts, inner.rest⟩ := by
  refine (match?_cons_iff_of_read (.exactly classes) fun _ _ =>
    Piece.read_exactly_eq_some_iff).trans ?_
  simp only [Piece.take_iff_fits, and_assoc]

theorem match?_word_iff {word : String} {pieces : Pattern} {t : Text} {found : Match}
    (plain : word.toList.all Letter.isPlain = true) :
    Pattern.match? (.word word :: pieces) t = some found ↔
      ∃ taken left inner, t = taken ++ left ∧ Text.Spells word.toList taken ∧
        pieces.match? left = some inner ∧ found = ⟨taken :: inner.parts, inner.rest⟩ := by
  rw [Piece.word, match?_exactly_iff]
  simp only [fits_word_iff plain]

theorem match?_blanks_iff {pieces : Pattern} {t : Text} {found : Match} :
    Pattern.match? (.blanks :: pieces) t = some found ↔
      ∃ gap left inner, t = gap ++ left ∧ Text.blank gap = true ∧ Text.SolidStart left ∧
        pieces.match? left = some inner ∧ found = ⟨gap :: inner.parts, inner.rest⟩ := by
  rw [match?_cons_eq_some_iff]
  simp only [Piece.read, Option.map_eq_some_iff, Prod.mk.injEq]
  constructor
  · rintro ⟨gap, inner, ⟨_, further, rfl, rfl⟩, rfl⟩
    exact ⟨_, _, _, (List.takeWhile_append_dropWhile ..).symm, List.all_takeWhile,
      Text.solidStart_dropWhile t, further, rfl⟩
  · rintro ⟨gap, left, inner, rfl, blank, solid, further, rfl⟩
    obtain ⟨taken, dropped⟩ := Text.blanks_unique List.all_takeWhile blank
      (Text.solidStart_dropWhile (gap ++ left)) solid (List.takeWhile_append_dropWhile ..)
    exact ⟨gap, inner, ⟨inner, by rw [dropped, further], taken, rfl⟩, rfl⟩

/-- The shortest part is taken with which the rest of the pattern fits. -/
theorem match?_shortest_iff {pieces : Pattern} {t : Text} {found : Match} :
    Pattern.match? (.shortest :: pieces) t = some found ↔
      ∃ taken left inner, t = taken ++ left ∧ '\n' ∉ taken ∧ pieces.match? left = some inner ∧
        (∀ shorter longer, t = shorter ++ longer → shorter.length < taken.length →
          pieces.match? longer = none) ∧ found = ⟨taken :: inner.parts, inner.rest⟩ := by
  refine (match?_cons_iff_of_read .shortest fun _ _ => Piece.fewest_eq_some_iff).trans ?_
  simp only [and_assoc]

/-- The longest part of the line is taken with which the rest of the pattern fits. -/
theorem match?_longest_iff {pieces : Pattern} {t : Text} {found : Match} :
    Pattern.match? (.longest :: pieces) t = some found ↔
      ∃ taken left inner, t = taken ++ left ∧ '\n' ∉ taken ∧ pieces.match? left = some inner ∧
        (∀ longer shorter, t = longer ++ shorter → '\n' ∉ longer →
          taken.length < longer.length → pieces.match? shorter = none) ∧
            found = ⟨taken :: inner.parts, inner.rest⟩ := by
  refine (match?_cons_iff_of_read .longest fun _ _ => Piece.most_eq_some_iff).trans ?_
  simp only [and_assoc]

/-- A line part at the end of a pattern and what remains behind it make up the text. -/
theorem append_of_match?_longest {t : Text} {found : Match}
    (matched : Pattern.match? [.longest] t = some found) :
    ∃ taken rest, found = ⟨[taken], rest⟩ ∧ t = taken ++ rest := by
  obtain ⟨taken, left, _, rfl, _, last, _, rfl⟩ := match?_longest_iff.mp matched
  cases last
  exact ⟨taken, left, rfl, rfl⟩

end Pattern
end Shorthand
