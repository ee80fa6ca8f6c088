import Shorthand.Passenger.Stack
import Shorthand.Proofs.Text.Matching

/-! A title with the blanks after it can stand at the front of a text in one way
only, because no title holds a blank and the text goes on with a character that no
title holds either. So the order in which a pattern tries the titles, and the fact
that one of them begins like another, do not matter to what the pattern finds. -/
namespace Shorthand

namespace Stack

/-- One of the four honorifics in any spelling. -/
def IsHonorific (t : Text) : Prop := ∃ title ∈ honorifics, Text.Spells title t

instance (t : Text) : Decidable (IsHonorific t) :=
  inferInstanceAs (Decidable (∃ title ∈ honorifics, Text.Spells title t))

/-- The spellings of the letters that honorifics are made of. -/
def titleLetters : List Char := ['M', 'm', 'R', 'r', 'S', 's', 'ſ', 'I', 'i', 'T', 't']

def isTitleLetter (c : Char) : Bool := titleLetters.contains c

/-- The first letter of every honorific, in either case. -/
def isTitleHead (c : Char) : Bool := c = 'M' || c = 'm'

theorem isLetter_of_isTitleLetter {c : Char} (letter : isTitleLetter c = true) :
    Letter.isLetter c = true := by
  have letters : titleLetters.all Letter.isLetter = true := rfl
  exact List.all_eq_true.mp letters c (List.contains_iff_mem.mp letter)

theorem isBlank_of_isTitleLetter {c : Char} (letter : isTitleLetter c = true) :
    Text.isBlank c = false :=
  Letter.isBlank_of_isLetter (isLetter_of_isTitleLetter letter)

theorem isDigit_of_isTitleLetter {c : Char} (letter : isTitleLetter c = true) :
    c.isDigit = false :=
  Letter.isDigit_of_isLetter (isLetter_of_isTitleLetter letter)

theorem isTitleLetter_of_isTitleHead {c : Char} (head : isTitleHead c = true) :
    isTitleLetter c = true := by
  simp only [isTitleHead, Bool.or_eq_true, decide_eq_true_eq] at head
  rcases head with rfl | rfl <;> rfl

private theorem title_of_spells {letter c : Char}
    (member : letter ∈ ['M', 'R', 'S', 'I', 'T']) (spells : Letter.Spells letter c) :
    isTitleLetter c = true ∧ (isTitleHead c = true ↔ letter = 'M') := by
  simp only [List.mem_cons, List.not_mem_nil, or_false] at member
  rcases spells with rfl | rfl | ⟨rfl, rfl⟩ | ⟨rfl, _⟩
  · rcases member with rfl | rfl | rfl | rfl | rfl <;> decide
  · rcases member with rfl | rfl | rfl | rfl | rfl <;> decide
  · decide
  · simp at member

/-- An honorific begins with an M, has a second letter, and no further M. -/
theorem IsHonorific.shape {t : Text} (honorific : IsHonorific t) :
    ∃ head second tail, t = head :: second :: tail ∧ isTitleHead head = true ∧
      ∀ c ∈ second :: tail, isTitleLetter c = true ∧ isTitleHead c = false := by
  obtain ⟨title, member, spells⟩ := honorific
  have shapes : ∀ title ∈ honorifics, ∃ second tail, title = 'M' :: second :: tail ∧
      ∀ c ∈ second :: tail, c ∈ ['M', 'R', 'S', 'I', 'T'] ∧ c ≠ 'M' := by
    simp [honorifics]
  obtain ⟨_, _, rfl, inside⟩ := shapes title member
  rw [Text.Spells, List.forall₂_cons_left_iff] at spells
  obtain ⟨head, rest, first, spells, rfl⟩ := spells
  have letters : ∀ c ∈ rest, isTitleLetter c = true ∧ isTitleHead c = false := by
    intro c here
    obtain ⟨letter, among, same⟩ := Text.Spells.letter_of_mem spells here
    obtain ⟨known, other⟩ := inside letter among
    obtain ⟨titled, heads⟩ := title_of_spells known same
    exact ⟨titled, by simpa [other] using heads⟩
  rw [List.forall₂_cons_left_iff] at spells
  obtain ⟨second, tail, _, _, rfl⟩ := spells
  exact ⟨head, second, tail, rfl, (title_of_spells (by simp) first).2.mpr rfl, letters⟩

/-- An honorific holds nothing but title letters. -/
theorem IsHonorific.letters {t : Text} (honorific : IsHonorific t) :
    ∀ c ∈ t, isTitleLetter c = true := by
  obtain ⟨head, second, tail, rfl, first, others⟩ := honorific.shape
  intro c member
  rcases List.mem_cons.mp member with rfl | later
  · exact isTitleLetter_of_isTitleHead first
  · exact (others c later).1

theorem IsHonorific.length {t : Text} (honorific : IsHonorific t) :
    t.length = 2 ∨ t.length = 4 := by
  obtain ⟨title, member, spells⟩ := honorific
  have lengths : ∀ title ∈ honorifics, title.length = 2 ∨ title.length = 4 := by decide
  rw [← spells.length_eq]
  exact lengths title member

theorem IsHonorific.ne_nil {t : Text} (honorific : IsHonorific t) : t ≠ [] := by
  obtain ⟨_, _, _, rfl, _⟩ := honorific.shape
  simp

theorem IsHonorific.solidEnd {t : Text} (honorific : IsHonorific t) : Text.SolidEnd t := by
  intro c last
  exact isBlank_of_isTitleLetter (honorific.letters c (List.mem_of_mem_getLast? last))

/-- A title and the blanks after it are settled by a text that goes on with neither. -/
theorem IsHonorific.prefix_unique {a b aGap bGap x y : Text} (aTitle : IsHonorific a)
    (bTitle : IsHonorific b) (aBlank : Text.blank aGap = true) (bBlank : Text.blank bGap = true)
    (xSolid : Text.SolidStart x) (ySolid : Text.SolidStart y)
    (xStops : ∀ c ∈ x.head?, isTitleLetter c = false)
    (yStops : ∀ c ∈ y.head?, isTitleLetter c = false)
    (same : a ++ (aGap ++ x) = b ++ (bGap ++ y)) : a = b ∧ aGap = bGap ∧ x = y := by
  have stops : ∀ {gap stop : Text}, Text.blank gap = true →
      (∀ c ∈ stop.head?, isTitleLetter c = false) →
        ∀ c ∈ (gap ++ stop).head?, isTitleLetter c = false := by
    intro gap stop blank stops c head
    cases gap with
    | nil => exact stops c head
    | cons d gap =>
      simp only [List.cons_append, List.head?_cons, Option.mem_def, Option.some.injEq] at head
      subst head
      rw [Bool.eq_false_iff]
      intro letter
      have space := Text.blank_iff.mp blank d (by simp)
      rw [isBlank_of_isTitleLetter letter] at space
      cases space
  obtain ⟨titles, gaps⟩ := Text.run_unique aTitle.letters bTitle.letters
    (stops aBlank xStops) (stops bBlank yStops) same
  exact ⟨titles, Text.blanks_unique aBlank bBlank xSolid ySolid gaps⟩

end Stack

private theorem spells_honorific {words : List Text}
    (titles : ∀ w, w ∈ words ↔ w ∈ Stack.honorifics) {t taken left : Text} :
    (∃ w ∈ words, Piece.take (w.map .letter) t = some (taken, left)) ↔
      t = taken ++ left ∧ Stack.IsHonorific taken := by
  have plain : ∀ w ∈ Stack.honorifics, w.all Letter.isPlain = true := by decide
  constructor
  · rintro ⟨w, member, took⟩
    have title := (titles w).mp member
    obtain ⟨whole, spells⟩ := (Piece.take_word_iff (plain w title)).mp took
    exact ⟨whole, w, title, spells⟩
  · rintro ⟨whole, w, title, spells⟩
    exact ⟨w, (titles w).mpr title, (Piece.take_word_iff (plain w title)).mpr ⟨whole, spells⟩⟩

/-- Titles tried in any order find the one title that stands at the front with only
blanks before the rest of the pattern, if that rest starts with no title letter. -/
theorem Pattern.match?_titled_iff {words : List Text} {pieces : Pattern} {t : Text}
    {found : Match} (titles : ∀ w, w ∈ words ↔ w ∈ Stack.honorifics)
    (bounded : ∀ left inner, pieces.match? left = some inner →
      ∀ c ∈ left.head?, Stack.isTitleLetter c = false) :
    Pattern.match? (.oneOf words :: .blanks :: pieces) t = some found ↔
      ∃ title gap left inner, t = title ++ (gap ++ left) ∧ Stack.IsHonorific title ∧
        Text.blank gap = true ∧ Text.SolidStart left ∧ pieces.match? left = some inner ∧
          found = ⟨title :: gap :: inner.parts, inner.rest⟩ := by
  have sound : ∀ {found}, Pattern.match? (.oneOf words :: .blanks :: pieces) t = some found →
      ∃ title gap left inner, t = title ++ (gap ++ left) ∧ Stack.IsHonorific title ∧
        Text.blank gap = true ∧ Text.SolidStart left ∧ pieces.match? left = some inner ∧
          found = ⟨title :: gap :: inner.parts, inner.rest⟩ := by
    intro found matched
    obtain ⟨title, inner, took, rfl⟩ := match?_cons_eq_some_iff.mp matched
    obtain ⟨w, member, after, front, further⟩ := Piece.read_oneOf_eq_some took
    obtain ⟨whole, honorific⟩ := (spells_honorific titles).mp ⟨w, member, front⟩
    obtain ⟨gap, left, _, rfl, blank, solid, last, rfl⟩ := match?_blanks_iff.mp further
    exact ⟨title, gap, left, _, whole, honorific, blank, solid, last, rfl⟩
  refine ⟨sound, ?_⟩
  rintro ⟨title, gap, left, inner, whole, honorific, blank, solid, last, rfl⟩
  obtain ⟨w, member, front⟩ := (spells_honorific titles).mpr ⟨whole, honorific⟩
  have further : Pattern.match? (.blanks :: pieces) (gap ++ left) =
      some ⟨gap :: inner.parts, inner.rest⟩ :=
    match?_blanks_iff.mpr ⟨gap, left, inner, rfl, blank, solid, last, rfl⟩
  -- Some title is read, and whichever it is, it is the one given here.
  cases matched : Pattern.match? (.oneOf words :: .blanks :: pieces) t with
  | none =>
    rw [Pattern.match?, Option.map_eq_none_iff, Piece.read, List.findSome?_eq_none_iff] at matched
    have refused := matched w member
    simp [front, further] at refused
  | some other =>
    obtain ⟨title', gap', left', inner', whole', honorific', blank', solid', last', rfl⟩ :=
      sound matched
    obtain ⟨rfl, rfl, rfl⟩ := honorific.prefix_unique honorific' blank blank' solid solid'
      (bounded left inner last) (bounded left' inner' last') (whole.symm.trans whole')
    rw [last] at last'
    cases last'
    rfl

end Shorthand
