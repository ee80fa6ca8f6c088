import Shorthand.Proofs.Text.Spelling
import Shorthand.Text.Pattern

/-! Texts in capital letters. Writing a text in ASCII capitals changes none of the answers that
the tests on characters give: what is blank stays blank, a class of a pattern admits the same
characters, and no line begins or ends elsewhere. So trimming and matching commute with it:
a pattern finds the same parts in the text in capitals, in capitals. Two texts that differ in
the case of ASCII letters have the same capitals, and are so compared by one of them. -/
namespace Shorthand

namespace Text

/-- The text with its ASCII letters as capitals. -/
def capitals (t : Text) : Text := t.map Char.toUpper

theorem sameAscii_iff {s t : Text} : Letter.sameAscii s t = true ↔ s.capitals = t.capitals :=
  beq_iff_eq

@[simp] theorem capitals_nil : capitals [] = [] := rfl

@[simp] theorem capitals_cons (c : Char) (t : Text) :
    capitals (c :: t) = c.toUpper :: t.capitals := rfl

@[simp] theorem capitals_append (s t : Text) :
    capitals (s ++ t) = s.capitals ++ t.capitals := List.map_append

@[simp] theorem capitals_capitals (t : Text) : t.capitals.capitals = t.capitals := by
  rw [capitals, capitals, List.map_map]
  exact List.map_congr_left fun c _ => Letter.toUpper_toUpper c

@[simp] theorem capitals_eq_nil_iff {t : Text} : t.capitals = [] ↔ t = [] := List.map_eq_nil_iff

/-- Digits have no case. -/
theorem capitals_of_digits {t : Text} (digits : ∀ c ∈ t, c.isDigit = true) : t.capitals = t := by
  have unchanged : t.map Char.toUpper = t.map id :=
    List.map_congr_left fun c member => Letter.toUpper_of_isDigit (digits c member)
  rw [capitals, unchanged, List.map_id]

theorem all_isAscii_capitals (t : Text) :
    t.capitals.all Letter.isAscii = t.all Letter.isAscii := by
  rw [capitals, List.all_map]
  exact congrArg t.all (funext Letter.isAscii_toUpper)

private theorem isBlank_comp_toUpper : isBlank ∘ Char.toUpper = isBlank :=
  funext Letter.isBlank_toUpper

theorem dropWhile_capitals (t : Text) :
    t.capitals.dropWhile isBlank = capitals (t.dropWhile isBlank) := by
  rw [capitals, List.dropWhile_map, isBlank_comp_toUpper, capitals]

theorem takeWhile_capitals (t : Text) :
    t.capitals.takeWhile isBlank = capitals (t.takeWhile isBlank) := by
  rw [capitals, List.takeWhile_map, isBlank_comp_toUpper, capitals]

theorem trim_capitals (t : Text) : t.capitals.trim = t.trim.capitals := by
  have reversed : ∀ s : Text, s.capitals.reverse = capitals s.reverse :=
    fun s => List.map_reverse.symm
  rw [trim, trimStart, dropWhile_capitals, trimEnd, reversed, dropWhile_capitals, reversed]
  rfl

end Text

theorem CharClass.admits_toUpper (k : CharClass) (c : Char) : k.admits c.toUpper = k.admits c := by
  cases k with
  | letter d => simp only [admits, Letter.agrees, Letter.fold_toUpper]
  | anyLetter => simp only [admits, Letter.isLetter, Letter.fold_toUpper]
  | anyDigit => exact Letter.isDigit_toUpper c

theorem Letter.toUpper_eq_newline_iff {c : Char} : c.toUpper = '\n' ↔ c = '\n' := by
  have either : c.toUpper = '\n' ↔ c = '\n' ∨ c = '\n' := Letter.toUpper_eq_iff rfl
  rwa [or_self] at either

/-- The match with all its parts in capitals. -/
def Match.capitals (found : Match) : Match :=
  ⟨found.parts.map Text.capitals, found.rest.capitals⟩

@[simp] theorem Match.text_capitals (found : Match) : found.capitals.text = found.text.capitals :=
  List.map_flatten.symm

namespace Piece

theorem take_capitals (classes : List CharClass) (t : Text) :
    take classes t.capitals = (take classes t).map (Prod.map Text.capitals Text.capitals) := by
  induction classes generalizing t with
  | nil => rfl
  | cons k ks ih =>
    cases t with
    | nil => rfl
    | cons c t =>
      rw [Text.capitals_cons, take, take, CharClass.admits_toUpper, ih]
      by_cases admitted : k.admits c = true
      · rw [if_pos admitted, if_pos admitted, Option.map_map, Option.map_map]
        rfl
      · rw [if_neg admitted, if_neg admitted]
        rfl

variable {α β : Type} {accept : Text → Option α} {accept' : Text → Option β} {g : α → β}

theorem fewest_capitals (agree : ∀ t : Text, accept' t.capitals = (accept t).map g) (t : Text) :
    fewest accept' t.capitals = (fewest accept t).map (Prod.map Text.capitals g) := by
  induction t with
  | nil =>
    have empty := agree []
    rw [Text.capitals_nil] at empty
    rw [Text.capitals_nil, fewest, fewest, empty, Option.map_map, Option.map_map]
    rfl
  | cons c t ih =>
    have here := agree (c :: t)
    rw [Text.capitals_cons] at here
    rw [Text.capitals_cons, fewest, fewest, here, ih]
    simp only [Letter.toUpper_eq_newline_iff]
    cases accepted : accept (c :: t) with
    | some found => rfl
    | none =>
      by_cases newline : c = '\n'
      · simp [newline]
      · simp [newline, Function.comp_def]

theorem most_capitals (agree : ∀ t : Text, accept' t.capitals = (accept t).map g) (t : Text) :
    most accept' t.capitals = (most accept t).map (Prod.map Text.capitals g) := by
  induction t with
  | nil =>
    have empty := agree []
    rw [Text.capitals_nil] at empty
    rw [Text.capitals_nil, most, most, empty, Option.map_map, Option.map_map]
    rfl
  | cons c t ih =>
    have here := agree (c :: t)
    rw [Text.capitals_cons] at here
    rw [Text.capitals_cons, most, most, here, ih]
    simp only [Letter.toUpper_eq_newline_iff]
    by_cases newline : c = '\n'
    · simp [newline, Function.comp_def]
    · rw [if_neg newline, if_neg newline]
      cases further : most accept t with
      | some found => rfl
      | none => simp [Function.comp_def]

private theorem read_exactly_capitals (agree : ∀ t : Text, accept' t.capitals = (accept t).map g)
    (classes : List CharClass) (t : Text) : (Piece.exactly classes).read accept' t.capitals =
      ((Piece.exactly classes).read accept t).map (Prod.map Text.capitals g) := by
  rw [read, read, take_capitals]
  cases take classes t with
  | none => rfl
  | some cut =>
    simp only [Option.map_some, Prod.map, Option.bind_eq_bind, Option.bind_some, agree]
    cases accept cut.2 <;> rfl

/-- A piece takes the same part of a text in capitals, if the rest of the pattern accepts the
same remainders. -/
theorem read_capitals (agree : ∀ t : Text, accept' t.capitals = (accept t).map g) (piece : Piece)
    (t : Text) :
    piece.read accept' t.capitals = (piece.read accept t).map (Prod.map Text.capitals g) := by
  cases piece with
  | exactly classes => exact read_exactly_capitals agree classes t
  | oneOf words =>
    -- Each word is read like the classes of its letters.
    show (words.findSome? fun w => (Piece.exactly (w.map .letter)).read accept' t.capitals) =
      (words.findSome? fun w => (Piece.exactly (w.map .letter)).read accept t).map _
    rw [List.map_findSome?]
    simp only [Function.comp_def, read_exactly_capitals agree]
  | blanks =>
    simp only [read, Text.dropWhile_capitals, Text.takeWhile_capitals, agree]
    cases accept (t.dropWhile Text.isBlank) <;> rfl
  | shortest => exact fewest_capitals agree t
  | longest => exact most_capitals agree t
  | finish =>
    have empty := agree []
    rw [Text.capitals_nil] at empty
    simp only [read, Text.capitals_eq_nil_iff, empty]
    by_cases none : t = []
    · simp [none, Function.comp_def]
    · simp [none]

end Piece

/-- A pattern finds in the text in capitals what it finds in the text, in capitals. -/
theorem Pattern.match?_capitals (pattern : Pattern) (t : Text) :
    pattern.match? t.capitals = (pattern.match? t).map Match.capitals := by
  induction pattern generalizing t with
  | nil => rfl
  | cons piece pieces ih =>
    rw [Pattern.match?, Pattern.match?, Piece.read_capitals ih, Option.map_map, Option.map_map]
    rfl

end Shorthand
