import Shorthand.Proofs.Passenger.Title

/-! The cuts of a line, stated without the search that finds them. A cut is settled
by what stands before it: a text that ends with a title and holds no separator of
its own. So the leftmost search finds every cut, the pieces of a line are the only
way to take it apart at separators, and putting pieces together with separators
between them is undone by splitting. -/
namespace Shorthand.Stack

/-- What makes a digit 1 separate: an honorific, then blanks, then the 1. -/
def IsCue (cue : Text) : Prop :=
  ∃ title gap, cue = title ++ (gap ++ ['1']) ∧ IsHonorific title ∧ Text.blank gap = true

/-- Somewhere in the text an honorific is followed by blanks and the digit 1. -/
def HoldsSeparator (t : Text) : Prop := ∃ cue, IsCue cue ∧ cue <:+: t

/-- The digit 1 with any blanks around it. -/
def IsSeparator (s : Text) : Prop :=
  ∃ front back, s = front ++ '1' :: back ∧ Text.blank front = true ∧ Text.blank back = true

/-- The text ends with an honorific. -/
def EndsInTitle (t : Text) : Prop := ∃ title, IsHonorific title ∧ title <:+ t

theorem EndsInTitle.ne_nil {t : Text} (ends : EndsInTitle t) : t ≠ [] := by
  obtain ⟨title, honorific, suffix⟩ := ends
  rintro rfl
  exact honorific.ne_nil (List.suffix_nil.mp suffix)

theorem EndsInTitle.solidEnd {t : Text} (ends : EndsInTitle t) : Text.SolidEnd t := by
  obtain ⟨title, honorific, front, rfl⟩ := ends
  exact (Text.solidEnd_append honorific.ne_nil).mpr honorific.solidEnd

/-- The digit that closes a cue stands neither in its title nor among its blanks. -/
theorem IsCue.one_mem {cue : Text} (isCue : IsCue cue) : '1' ∈ cue := by
  obtain ⟨title, gap, rfl, _⟩ := isCue
  simp

theorem IsCue.of_mem {cue : Text} (isCue : IsCue cue) {c : Char} (member : c ∈ cue) :
    isTitleLetter c = true ∨ Text.isBlank c = true ∨ c = '1' := by
  obtain ⟨title, gap, rfl, honorific, blank⟩ := isCue
  rcases List.mem_append.mp member with inTitle | later
  · exact Or.inl (honorific.letters c inTitle)
  · rcases List.mem_append.mp later with inGap | last
    · exact Or.inr (Or.inl (Text.blank_iff.mp blank c inGap))
    · exact Or.inr (Or.inr (List.mem_singleton.mp last))

theorem IsCue.getLast? {cue : Text} (isCue : IsCue cue) : cue.getLast? = some '1' := by
  obtain ⟨title, gap, rfl, _⟩ := isCue
  simp [← List.append_assoc]

theorem IsHonorific.single {t : Text} (honorific : IsHonorific t) : ¬ HoldsSeparator t := by
  rintro ⟨cue, isCue, inside⟩
  have letter := honorific.letters '1' (inside.subset isCue.one_mem)
  cases letter

theorem holdsSeparator_nil : ¬ HoldsSeparator [] := by
  rintro ⟨cue, isCue, inside⟩
  have member := isCue.one_mem
  rw [List.infix_nil.mp inside] at member
  cases member

theorem holdsSeparator_cons_iff {c : Char} {t : Text} :
    HoldsSeparator (c :: t) ↔ (∃ cue, IsCue cue ∧ cue <+: c :: t) ∨ HoldsSeparator t := by
  constructor
  · rintro ⟨cue, isCue, inside⟩
    rcases List.infix_cons_iff.mp inside with front | later
    · exact Or.inl ⟨cue, isCue, front⟩
    · exact Or.inr ⟨cue, isCue, later⟩
  · rintro (⟨cue, isCue, front⟩ | ⟨cue, isCue, later⟩)
    · exact ⟨cue, isCue, front.isInfix⟩
    · exact ⟨cue, isCue, List.infix_cons later⟩

theorem HoldsSeparator.mono {s t : Text} (holds : HoldsSeparator s) (inside : s <:+: t) :
    HoldsSeparator t := by
  obtain ⟨cue, isCue, within⟩ := holds
  exact ⟨cue, isCue, within.trans inside⟩

/-- No separator begins at a digit. -/
theorem holdsSeparator_digit_cons_iff {c : Char} {t : Text} (digit : c.isDigit = true) :
    HoldsSeparator (c :: t) ↔ HoldsSeparator t := by
  rw [holdsSeparator_cons_iff, or_iff_right]
  rintro ⟨_, ⟨title, gap, rfl, honorific, _⟩, start⟩
  obtain ⟨head, _, _, rfl, isHead, _⟩ := honorific.shape
  obtain rfl := (List.cons_prefix_cons.mp start).1
  rw [isDigit_of_isTitleLetter (isTitleLetter_of_isTitleHead isHead)] at digit
  cases digit

/-- Before a digit a cue takes all letters that stand there, and the digit is a 1. -/
theorem cue_prefix_iff {letters rest : Text} {c : Char}
    (alphabetic : ∀ d ∈ letters, Letter.isLetter d = true) (digit : c.isDigit = true) :
    (∃ cue, IsCue cue ∧ cue <+: letters ++ c :: rest) ↔ IsHonorific letters ∧ c = '1' := by
  constructor
  · rintro ⟨_, ⟨title, gap, rfl, honorific, blank⟩, back, same⟩
    have titled : ∀ d ∈ title, Letter.isLetter d = true := fun d member =>
      isLetter_of_isTitleLetter (honorific.letters d member)
    have stops : ∀ d ∈ (gap ++ '1' :: back).head?, Letter.isLetter d = false := by
      intro d head
      cases gap with
      | nil =>
        cases head
        rfl
      | cons e gap =>
        cases head
        rw [Bool.eq_false_iff]
        intro letter
        have space := Text.blank_iff.mp blank d (by simp)
        rw [Letter.isBlank_of_isLetter letter] at space
        cases space
    have digits : ∀ d ∈ (c :: rest).head?, Letter.isLetter d = false := by
      intro d head
      cases head
      rw [Bool.eq_false_iff]
      intro letter
      rw [Letter.isDigit_of_isLetter letter] at digit
      cases digit
    obtain ⟨rfl, behind⟩ := Text.run_unique titled alphabetic stops digits (by simpa using same)
    cases gap with
    | nil =>
      cases behind
      exact ⟨honorific, rfl⟩
    | cons e gap =>
      cases behind
      have space := Text.blank_iff.mp blank c (by simp)
      rw [Letter.isBlank_of_isDigit digit] at space
      cases space
  · rintro ⟨honorific, rfl⟩
    exact ⟨_, ⟨letters, [], rfl, honorific, rfl⟩, rest, by simp⟩

/-- The character stands in no cue. -/
def IsForeign (c : Char) : Prop :=
  isTitleLetter c = false ∧ Text.isBlank c = false ∧ c ≠ '1'

instance (c : Char) : Decidable (IsForeign c) := inferInstanceAs (Decidable (_ ∧ _ ∧ _))

theorem IsForeign.not_mem {c : Char} {cue : Text} (foreign : IsForeign c) (isCue : IsCue cue) :
    c ∉ cue := by
  intro member
  obtain ⟨noLetter, noSpace, noDigit⟩ := foreign
  rcases isCue.of_mem member with letter | space | digit
  · rw [noLetter] at letter
    cases letter
  · rw [noSpace] at space
    cases space
  · exact noDigit digit

/-- Nothing separates across a foreign character. -/
theorem holdsSeparator_append_cons_iff {s t : Text} {c : Char} (foreign : IsForeign c) :
    HoldsSeparator (s ++ c :: t) ↔ HoldsSeparator s ∨ HoldsSeparator t := by
  constructor
  · rintro ⟨cue, isCue, inside⟩
    have absent := foreign.not_mem isCue
    have apart : ∀ {part : Text}, part <+: c :: t → c ∉ part → part = [] :=
      fun start outside => List.prefix_nil.mp (@Text.prefix_before _ [] t c start outside)
    rcases List.infix_append_iff.mp inside with left | right | ⟨front, back, rfl, left, start⟩
    · exact Or.inl ⟨cue, isCue, left⟩
    · rcases List.infix_cons_iff.mp right with start | right
      · have member := isCue.one_mem
        rw [apart start absent] at member
        cases member
      · exact Or.inr ⟨cue, isCue, right⟩
    · rw [apart start fun member => absent (List.mem_append_right _ member),
        List.append_nil] at isCue
      exact Or.inl ⟨front, isCue, left.isInfix⟩
  · rintro (left | right)
    · exact left.mono List.infix_append_left
    · exact right.mono ((List.suffix_cons ..).trans (List.suffix_append ..)).isInfix

/-- Nothing separates across a run of foreign characters. -/
theorem holdsSeparator_append_wall_iff {s wall t : Text} (nonempty : wall ≠ [])
    (foreign : ∀ c ∈ wall, IsForeign c) :
    HoldsSeparator (s ++ (wall ++ t)) ↔ HoldsSeparator s ∨ HoldsSeparator t := by
  induction wall generalizing s with
  | nil => exact absurd rfl nonempty
  | cons c wall ih =>
    obtain ⟨first, others⟩ := List.forall_mem_cons.mp foreign
    rw [List.cons_append, holdsSeparator_append_cons_iff first]
    by_cases last : wall = []
    · rw [last, List.nil_append]
    · have inner := ih (s := []) last others
      rw [List.nil_append] at inner
      rw [inner, or_iff_right holdsSeparator_nil]

/-- Blanks at the end of a text separate nothing. -/
theorem holdsSeparator_append_blank_iff {s gap : Text} (blank : Text.blank gap = true) :
    HoldsSeparator (s ++ gap) ↔ HoldsSeparator s := by
  constructor
  · rintro ⟨cue, isCue, inside⟩
    have digit : '1' ∉ gap := by
      intro member
      cases Text.blank_iff.mp blank '1' member
    rcases List.infix_append_iff_ne_nil.mp inside with left | right | ⟨front, back, _, full, rfl, _, start⟩
    · exact ⟨cue, isCue, left⟩
    · exact absurd (right.subset isCue.one_mem) digit
    · have last := isCue.getLast?
      rw [List.getLast?_append_of_ne_nil _ full] at last
      exact absurd (start.subset (List.mem_of_getLast? last)) digit
  · exact fun holds => holds.mono List.infix_append_left

private theorem spells_one {t : Text} : Text.Spells "1".toList t ↔ t = ['1'] :=
  Text.spells_singleton_iff rfl

private theorem match_one_iff {t : Text} {found : Match} :
    Pattern.match? [.word "1", .blanks] t = some found ↔
      ∃ back after, t = '1' :: (back ++ after) ∧ Text.blank back = true ∧
        Text.SolidStart after ∧ found = ⟨[['1'], back], after⟩ := by
  rw [Pattern.match?_word_iff rfl]
  constructor
  · rintro ⟨taken, left, inner, rfl, spells, further, rfl⟩
    obtain ⟨back, after, _, rfl, blank, solid, last, rfl⟩ := Pattern.match?_blanks_iff.mp further
    cases last
    exact ⟨back, after, by rw [spells_one.mp spells]; rfl, blank, solid,
      by rw [spells_one.mp spells]⟩
  · rintro ⟨back, after, rfl, blank, solid, rfl⟩
    exact ⟨['1'], back ++ after, ⟨[back], after⟩, rfl, spells_one.mpr rfl,
      Pattern.match?_blanks_iff.mpr ⟨back, after, _, rfl, blank, solid, rfl, rfl⟩, rfl⟩

/-- A cut at the front of a text keeps the honorific, drops the separator after it
and goes on where no blank follows. -/
theorem cutHere_eq_some_iff {t title after : Text} : cutHere t = some (title, after) ↔
    IsHonorific title ∧ Text.SolidStart after ∧
      ∃ separator, IsSeparator separator ∧ t = title ++ (separator ++ after) := by
  have matched : ∀ found, separator.match? t = some found ↔ ∃ title gap left inner,
      t = title ++ (gap ++ left) ∧ IsHonorific title ∧ Text.blank gap = true ∧
        Text.SolidStart left ∧ Pattern.match? [.word "1", .blanks] left = some inner ∧
          found = ⟨title :: gap :: inner.parts, inner.rest⟩ := by
    intro found
    refine Pattern.match?_titled_iff (fun _ => Iff.rfl) ?_
    intro left inner last c head
    obtain ⟨_, _, rfl, _⟩ := match_one_iff.mp last
    cases head
    rfl
  simp only [cutHere, Option.bind_eq_bind, Option.bind_eq_some_iff, Option.pure_def,
    Option.some.injEq, Prod.mk.injEq, matched]
  constructor
  · rintro ⟨_, ⟨title', gap, left, inner, rfl, honorific, blank, _, last, rfl⟩, _, head, rfl, rfl⟩
    obtain ⟨back, after', rfl, backBlank, solid, rfl⟩ := match_one_iff.mp last
    cases head
    exact ⟨honorific, solid, gap ++ '1' :: back, ⟨gap, back, rfl, blank, backBlank⟩, by simp⟩
  · rintro ⟨honorific, solid, _, ⟨front, back, rfl, blank, backBlank⟩, rfl⟩
    exact ⟨_, ⟨title, front, '1' :: (back ++ after), _, by simp, honorific, blank, by simp; rfl,
      match_one_iff.mpr ⟨back, after, rfl, backBlank, solid, rfl⟩, rfl⟩, title, rfl, rfl, rfl⟩

/-- There is no cut at the front of a text exactly when no cue stands there. -/
theorem cutHere_eq_none_iff {t : Text} : cutHere t = none ↔ ¬ ∃ cue, IsCue cue ∧ cue <+: t := by
  constructor
  · rintro refused ⟨_, ⟨title, gap, rfl, honorific, blank⟩, left, rfl⟩
    have cut : cutHere (title ++ (gap ++ ['1']) ++ left) =
        some (title, left.dropWhile Text.isBlank) := by
      refine cutHere_eq_some_iff.mpr ⟨honorific, Text.solidStart_dropWhile left,
        gap ++ '1' :: left.takeWhile Text.isBlank, ⟨gap, _, rfl, blank, List.all_takeWhile⟩, ?_⟩
      simp
    rw [refused] at cut
    cases cut
  · intro nowhere
    cases cut : cutHere t with
    | none => rfl
    | some found =>
      obtain ⟨honorific, _, _, ⟨front, back, rfl, blank, _⟩, rfl⟩ := cutHere_eq_some_iff.mp cut
      exact absurd ⟨_, ⟨found.1, front, rfl, honorific, blank⟩, back ++ found.2, by simp⟩ nowhere

/-- A text has no cut exactly when it holds no separator. -/
theorem firstCut_eq_none_iff {t : Text} : firstCut t = none ↔ ¬ HoldsSeparator t := by
  induction t with
  | nil => simp [firstCut, holdsSeparator_nil]
  | cons c t ih =>
    rw [firstCut, Option.orElse_eq_orElse, Option.orElse_eq_or, Option.or_eq_none_iff,
      Option.map_eq_none_iff, cutHere_eq_none_iff, ih, holdsSeparator_cons_iff, not_or]

theorem isStacked_eq_true_iff {t : Text} : isStacked t = true ↔ HoldsSeparator t := by
  rw [isStacked, Option.isSome_iff_ne_none, Ne, firstCut_eq_none_iff, not_not]

theorem isStacked_eq_false_iff {t : Text} : isStacked t = false ↔ ¬ HoldsSeparator t := by
  rw [← isStacked_eq_true_iff, Bool.not_eq_true]

instance (t : Text) : Decidable (HoldsSeparator t) := decidable_of_iff _ isStacked_eq_true_iff

/-- The text `t` with a separator taken out between `before` and `after`. -/
structure IsCut (t before after : Text) : Prop where
  whole : ∃ separator, IsSeparator separator ∧ t = before ++ (separator ++ after)
  titled : EndsInTitle before
  single : ¬ HoldsSeparator before
  solid : Text.SolidStart after

private theorem isCut_of_firstCut {t before after : Text}
    (cut : firstCut t = some (before, after)) : IsCut t before after := by
  induction t generalizing before with
  | nil => simp [firstCut] at cut
  | cons c t ih =>
    rw [firstCut, Option.orElse_eq_orElse, Option.orElse_eq_or, Option.or_eq_some_iff] at cut
    rcases cut with here | ⟨refused, later⟩
    · obtain ⟨honorific, solid, whole⟩ := cutHere_eq_some_iff.mp here
      exact ⟨whole, ⟨before, honorific, List.suffix_rfl⟩, honorific.single, solid⟩
    · obtain ⟨⟨front, _⟩, further, same⟩ := Option.map_eq_some_iff.mp later
      cases same
      obtain ⟨⟨separator, isSeparator, rfl⟩, ⟨title, honorific, suffix⟩, single, solid⟩ := ih further
      refine ⟨⟨separator, isSeparator, rfl⟩,
        ⟨title, honorific, suffix.trans (List.suffix_cons c front)⟩, ?_, solid⟩
      intro holds
      rcases holdsSeparator_cons_iff.mp holds with ⟨cue, isCue, start⟩ | inside
      · exact cutHere_eq_none_iff.mp refused
          ⟨cue, isCue, start.trans (List.prefix_append (c :: front) _)⟩
      · exact single inside

/-- A cut that begins before the end of another one would put a separator, or a
blank, where the other has none. -/
private theorem cut_not_earlier {before middle front back x y : Text}
    (titled : EndsInTitle before) (longer : EndsInTitle (before ++ middle))
    (single : ¬ HoldsSeparator (before ++ middle)) (blank : Text.blank front = true)
    (same : front ++ '1' :: x = middle ++ (back ++ '1' :: y)) : middle = [] := by
  obtain ⟨title, honorific, lead, rfl⟩ := titled
  have unspaced : Text.blank middle = true → middle = [] := by
    intro spaces
    by_cases none : middle = []
    · exact none
    · have solid := (Text.solidEnd_append none).mp longer.solidEnd
      have last := solid _ (List.getLast?_eq_some_getLast none)
      rw [Text.blank_iff.mp spaces _ (List.getLast_mem none)] at last
      cases last
  rcases List.append_eq_append_iff.mp same with ⟨extra, rfl, rest⟩ | ⟨extra, rfl, _⟩
  · cases extra with
    | nil => exact unspaced (by simpa using blank)
    | cons c extra =>
      simp only [List.cons_append, List.cons.injEq] at rest
      obtain ⟨rfl, _⟩ := rest
      refine absurd ⟨_, ⟨title, front, rfl, honorific, blank⟩, lead, extra, ?_⟩ single
      simp
  · rw [Text.blank_append, Bool.and_eq_true] at blank
    exact unspaced blank.1

/-- A text is cut in one way only. -/
theorem IsCut.unique {t before after before' after' : Text} (cut : IsCut t before after)
    (cut' : IsCut t before' after') : before = before' ∧ after = after' := by
  obtain ⟨⟨_, ⟨front, back, rfl, frontBlank, backBlank⟩, rfl⟩, titled, single, solid⟩ := cut
  obtain ⟨⟨_, ⟨front', back', rfl, frontBlank', backBlank'⟩, same⟩, titled', single', solid'⟩ := cut'
  simp only [List.append_assoc, List.cons_append] at same
  have befores : before = before' := by
    rcases List.append_eq_append_iff.mp same with ⟨middle, rfl, rest⟩ | ⟨middle, rfl, rest⟩
    · rw [cut_not_earlier titled titled' single' frontBlank rest, List.append_nil]
    · rw [cut_not_earlier titled' titled single frontBlank' rest, List.append_nil]
  subst befores
  obtain ⟨_, digits⟩ := Text.blanks_unique frontBlank frontBlank'
    (Text.solidStart_cons.mpr rfl) (Text.solidStart_cons.mpr rfl) (List.append_cancel_left same)
  rw [List.cons.injEq] at digits
  exact ⟨rfl, (Text.blanks_unique backBlank backBlank' solid solid' digits.2).2⟩

/-- The leftmost separator is the only one with no separator before it. -/
theorem firstCut_eq_some_iff {t before after : Text} :
    firstCut t = some (before, after) ↔ IsCut t before after := by
  refine ⟨isCut_of_firstCut, fun cut => ?_⟩
  cases search : firstCut t with
  | none =>
    obtain ⟨⟨_, ⟨front, back, rfl, blank, _⟩, rfl⟩, ⟨title, honorific, lead, rfl⟩, _⟩ := cut
    refine absurd ⟨_, ⟨title, front, rfl, honorific, blank⟩, lead, back ++ after, ?_⟩
      (firstCut_eq_none_iff.mp search)
    simp
  | some found =>
    obtain ⟨befores, afters⟩ := (isCut_of_firstCut search).unique cut
    rw [← befores, ← afters]

/-- Pieces put together again: the first one, and the others each behind its separator. -/
def stack (first : Text) (others : List (Text × Text)) : Text :=
  first ++ others.flatMap fun other => other.1 ++ other.2

/-- A text taken apart at all its separators. -/
structure IsCutting (t first : Text) (others : List (Text × Text)) : Prop where
  whole : t = stack first others
  separators : ∀ other ∈ others, IsSeparator other.1
  titled : ∀ piece ∈ (first :: others.map Prod.snd).dropLast, EndsInTitle piece
  solid : ∀ other ∈ others, Text.SolidStart other.2
  single : ∀ piece ∈ first :: others.map Prod.snd, ¬ HoldsSeparator piece

@[simp] theorem stack_nil (first : Text) : stack first [] = first := by simp [stack]

@[simp] theorem stack_cons (first separator piece : Text) (others : List (Text × Text)) :
    stack first ((separator, piece) :: others) = first ++ (separator ++ stack piece others) := by
  simp [stack]

theorem isCutting_nil_iff {t first : Text} :
    IsCutting t first [] ↔ t = first ∧ ¬ HoldsSeparator first := by
  constructor
  · intro cutting
    exact ⟨by simpa using cutting.whole, cutting.single first (by simp)⟩
  · rintro ⟨rfl, single⟩
    exact ⟨by simp, by simp, by simp, by simp, by simpa using single⟩

theorem isCutting_cons_iff {t first separator piece : Text} {others : List (Text × Text)} :
    IsCutting t first ((separator, piece) :: others) ↔
      t = first ++ (separator ++ stack piece others) ∧ IsSeparator separator ∧
        EndsInTitle first ∧ ¬ HoldsSeparator first ∧ Text.SolidStart piece ∧
          IsCutting (stack piece others) piece others := by
  constructor
  · rintro ⟨rfl, separators, titled, solid, single⟩
    rw [List.forall_mem_cons] at separators solid
    rw [List.map_cons, List.dropLast_cons_cons, List.forall_mem_cons] at titled
    rw [List.map_cons, List.forall_mem_cons] at single
    exact ⟨stack_cons .., separators.1, titled.1, single.1, solid.1,
      rfl, separators.2, titled.2, solid.2, single.2⟩
  · rintro ⟨rfl, isSeparator, ends, alone, unspaced, cutting⟩
    refine ⟨(stack_cons ..).symm, ?_, ?_, ?_, ?_⟩
    · exact List.forall_mem_cons.mpr ⟨isSeparator, cutting.separators⟩
    · rw [List.map_cons, List.dropLast_cons_cons]
      exact List.forall_mem_cons.mpr ⟨ends, cutting.titled⟩
    · exact List.forall_mem_cons.mpr ⟨unspaced, cutting.solid⟩
    · exact List.forall_mem_cons.mpr ⟨alone, cutting.single⟩

/-- What is put together begins with a blank only if its first piece does. -/
theorem IsCutting.solidStart_iff {t first : Text} {others : List (Text × Text)}
    (cutting : IsCutting t first others) : Text.SolidStart t ↔ Text.SolidStart first := by
  cases others with
  | nil => rw [(isCutting_nil_iff.mp cutting).1]
  | cons other others =>
    obtain ⟨rfl, _, ends, _⟩ := isCutting_cons_iff.mp cutting
    exact Text.solidStart_append ends.ne_nil

/-- The last piece of a text ends it. -/
theorem IsCutting.last_suffix {t first last : Text} {others : List (Text × Text)}
    (cutting : IsCutting t first others)
    (isLast : (first :: others.map Prod.snd).getLast? = some last) : last <:+ t := by
  induction others generalizing t first with
  | nil =>
    obtain ⟨rfl, _⟩ := isCutting_nil_iff.mp cutting
    cases isLast
    exact List.suffix_rfl
  | cons other others ih =>
    obtain ⟨rfl, _, _, _, _, rest⟩ := isCutting_cons_iff.mp cutting
    have inside := ih rest (by simpa using isLast)
    exact inside.trans ((List.suffix_append ..).trans (List.suffix_append ..))

/-- Splitting undoes putting pieces together at separators. -/
theorem pieces_of_isCutting {t first : Text} {others : List (Text × Text)}
    (cutting : IsCutting t first others) : pieces t = first :: others.map Prod.snd := by
  induction others generalizing t first with
  | nil =>
    obtain ⟨rfl, single⟩ := isCutting_nil_iff.mp cutting
    exact pieces_of_firstCut_none (firstCut_eq_none_iff.mpr single)
  | cons other others ih =>
    obtain ⟨whole, isSeparator, ends, alone, unspaced, rest⟩ := isCutting_cons_iff.mp cutting
    have cut : IsCut t first (stack other.2 others) :=
      ⟨⟨other.1, isSeparator, whole⟩, ends, alone, rest.solidStart_iff.mpr unspaced⟩
    rw [pieces_of_firstCut_some (firstCut_eq_some_iff.mpr cut), ih rest, List.map_cons]

/-- The pieces of a text take it apart at its separators. -/
theorem exists_isCutting (t : Text) :
    ∃ first others, pieces t = first :: others.map Prod.snd ∧ IsCutting t first others := by
  induction t using pieces.induct with
  | case1 t search =>
    exact ⟨t, [], pieces_of_firstCut_none search,
      isCutting_nil_iff.mpr ⟨rfl, firstCut_eq_none_iff.mp search⟩⟩
  | case2 t before after search shorter ih =>
    obtain ⟨first, others, same, cutting⟩ := ih
    obtain ⟨⟨separator, isSeparator, whole⟩, ends, alone, solid⟩ := firstCut_eq_some_iff.mp search
    have unspaced := cutting.solidStart_iff.mp solid
    obtain rfl := cutting.whole
    refine ⟨before, (separator, first) :: others, ?_, ?_⟩
    · rw [pieces_of_firstCut_some search, same, List.map_cons]
    · exact isCutting_cons_iff.mpr ⟨whole, isSeparator, ends, alone, unspaced, cutting⟩

theorem pieces_ne_nil (t : Text) : pieces t ≠ [] := by
  obtain ⟨first, others, same, _⟩ := exists_isCutting t
  simp [same]

/-- A text is stacked exactly when it has more than one piece. -/
theorem isStacked_eq_true_iff_length {t : Text} :
    isStacked t = true ↔ 2 ≤ (pieces t).length := by
  rw [isStacked]
  cases search : firstCut t with
  | none => simp [pieces_of_firstCut_none search]
  | some found =>
    have more := List.length_pos_iff.mpr (pieces_ne_nil found.2)
    rw [pieces_of_firstCut_some search, List.length_cons]
    exact ⟨fun _ => by omega, fun _ => rfl⟩

/-- A piece stands in the text as it is. -/
theorem infix_of_mem_pieces {t piece : Text} (member : piece ∈ pieces t) : piece <:+: t := by
  obtain ⟨first, others, same, cutting⟩ := exists_isCutting t
  rw [cutting.whole, stack]
  rw [same] at member
  rcases List.mem_cons.mp member with rfl | later
  · exact (List.prefix_append ..).isInfix
  · obtain ⟨other, among, rfl⟩ := List.mem_map.mp later
    have inside : other.2 <:+: other.1 ++ other.2 := (List.suffix_append ..).isInfix
    have within : other.1 ++ other.2 <:+: others.flatMap fun other => other.1 ++ other.2 :=
      List.infix_of_mem_flatten (List.mem_map_of_mem among)
    exact (inside.trans within).trans (List.suffix_append ..).isInfix

/-- No piece of a text can be split again. -/
theorem isStacked_of_mem_pieces {t piece : Text} (member : piece ∈ pieces t) :
    isStacked piece = false := by
  obtain ⟨first, others, same, cutting⟩ := exists_isCutting t
  rw [same] at member
  exact isStacked_eq_false_iff.mpr (cutting.single piece member)

end Shorthand.Stack
