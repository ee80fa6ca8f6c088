import Shorthand.Proofs.Entry.FirstMatch
import Shorthand.Proofs.Passenger.BirthToken

/-! Child records. Behind the name stands a mark: a title, blanks, and a birth code in
brackets that open with `(CHD/`. The name ends before the first mark, and a mark that
begins inside the name is over inside the name: nothing between the start of a mark and
the end of its opening can begin another title, and a code never ends with one. So a
name without a whole mark is found whole, whatever titles and openings stand in it. -/
namespace Shorthand.Rule

/-- A title, blanks, and a birth code in the brackets of a child, with `rest` behind. -/
structure IsChildMark (t title gap opener code rest : Text) : Prop where
  whole : t = title ++ (gap ++ (opener ++ (code ++ ')' :: rest)))
  honorific : Stack.IsHonorific title
  blank : Text.blank gap = true
  opens : Text.Spells "(CHD/".toList opener
  shaped : BirthCode.Shaped code

/-- The pieces of the child pattern behind the name. -/
def childMark : Pattern :=
  [.oneOf [['M', 'S', 'T', 'R'], ['M', 'I', 'S', 'S'], ['M', 'R'], ['M', 'S']],
    .blanks, .word "(CHD/", .birthCode, .word ")"]

/-- The characters of an opening stand neither in a title nor in a separator. -/
theorem foreign_of_opens {opener : Text} (opens : Text.Spells "(CHD/".toList opener) {c : Char}
    (member : c ∈ opener) : Stack.IsForeign c := by
  have letters : "(CHD/".toList.all (fun letter => letter ≠ 'S' ∧ letter ≠ 'K' ∧
      Stack.IsForeign letter ∧ Stack.IsForeign letter.toLower) = true := rfl
  obtain ⟨letter, among, spells⟩ := opens.letter_of_mem member
  obtain ⟨noS, noK, upper, lower⟩ := of_decide_eq_true (List.all_eq_true.mp letters letter among)
  rcases spells with rfl | rfl | ⟨isS, _⟩ | ⟨isK, _⟩
  · exact upper
  · exact lower
  · exact absurd isS noS
  · exact absurd isK noK

theorem opens_ne_nil {opener : Text} (opens : Text.Spells "(CHD/".toList opener) :
    opener ≠ [] := by
  rintro rfl
  cases opens

private theorem match_opened_iff {t : Text} {found : Match} :
    Pattern.match? [.word "(CHD/", .birthCode, .word ")"] t = some found ↔
      ∃ opener code rest, t = opener ++ (code ++ ')' :: rest) ∧
        Text.Spells "(CHD/".toList opener ∧ BirthCode.Shaped code ∧
          found = ⟨[opener, code, [')']], rest⟩ := by
  rw [Pattern.match?_word_iff rfl]
  constructor
  · rintro ⟨opener, _, _, rfl, opens, coded, rfl⟩
    obtain ⟨code, rest, rfl, token, rfl⟩ := BirthCode.match?_closed_iff.mp coded
    exact ⟨opener, code, rest, rfl, opens, BirthCode.shaped_iff_isToken.mpr token, rfl⟩
  · rintro ⟨opener, code, rest, rfl, opens, shaped, rfl⟩
    have coded := BirthCode.match?_closed_iff.mpr
      ⟨code, rest, rfl, BirthCode.shaped_iff_isToken.mp shaped, rfl⟩
    exact ⟨opener, _, _, rfl, opens, coded, rfl⟩

/-- The child pattern finds exactly the marks behind the name. -/
theorem match?_childMark_iff {t : Text} {found : Match} :
    childMark.match? t = some found ↔ ∃ title gap opener code rest,
      IsChildMark t title gap opener code rest ∧
        found = ⟨[title, gap, opener, code, [')']], rest⟩ := by
  have shuffled : [['M', 'S', 'T', 'R'], ['M', 'I', 'S', 'S'], ['M', 'R'], ['M', 'S']].Perm
      Stack.honorifics := by decide
  have outside : ∀ {opener t : Text}, Text.Spells "(CHD/".toList opener →
      ∀ c ∈ (opener ++ t).head?, Stack.IsForeign c := by
    intro opener t opens c head
    rw [List.head?_append_of_ne_nil _ (opens_ne_nil opens)] at head
    exact foreign_of_opens opens (List.mem_of_mem_head? head)
  rw [childMark, Pattern.match?_titled_iff fun _ => shuffled.mem_iff]
  · constructor
    · rintro ⟨title, gap, _, _, whole, honorific, blank, _, opened, rfl⟩
      obtain ⟨opener, code, rest, rfl, opens, shaped, rfl⟩ := match_opened_iff.mp opened
      exact ⟨title, gap, opener, code, rest, ⟨whole, honorific, blank, opens, shaped⟩, rfl⟩
    · rintro ⟨title, gap, opener, code, rest, ⟨whole, honorific, blank, opens, shaped⟩, rfl⟩
      exact ⟨title, gap, _, _, whole, honorific, blank, fun c head => (outside opens c head).2.1,
        match_opened_iff.mpr ⟨opener, code, rest, rfl, opens, shaped, rfl⟩, rfl⟩
  · intro left inner opened c head
    obtain ⟨opener, code, rest, rfl, opens, _⟩ := match_opened_iff.mp opened
    exact (outside opens c head).1

theorem IsChildMark.head {t title gap opener code rest : Text}
    (mark : IsChildMark t title gap opener code rest) :
    ∃ c tail, t = c :: tail ∧ Stack.isTitleHead c = true := by
  obtain ⟨rfl, honorific, _⟩ := mark
  obtain ⟨c, _, _, rfl, isHead, _⟩ := honorific.shape
  exact ⟨c, _, rfl, isHead⟩

/-- Behind the first character of a mark no title begins before its opening ends. -/
theorem IsChildMark.tail {t title gap opener code rest : Text}
    (mark : IsChildMark t title gap opener code rest) :
    ∃ c run, title ++ (gap ++ opener) = c :: run ∧ t = c :: (run ++ (code ++ ')' :: rest)) ∧
      ∀ d ∈ run, Stack.isTitleHead d = false := by
  obtain ⟨rfl, honorific, blank, opens, _⟩ := mark
  obtain ⟨c, second, tail, rfl, _, others⟩ := honorific.shape
  refine ⟨c, second :: tail ++ (gap ++ opener), rfl, by simp, ?_⟩
  have outside : ∀ {d}, Stack.isTitleLetter d = false → Stack.isTitleHead d = false := by
    intro d other
    rw [Bool.eq_false_iff]
    intro isHead
    rw [Stack.isTitleLetter_of_isTitleHead isHead] at other
    cases other
  intro d member
  rcases List.mem_append.mp member with inTitle | later
  · exact (others d inTitle).2
  · rcases List.mem_append.mp later with inGap | inOpener
    · refine outside (Bool.eq_false_iff.mpr fun letter => ?_)
      have space := Text.blank_iff.mp blank d inGap
      rw [Stack.isBlank_of_isTitleLetter letter] at space
      cases space
    · exact outside (foreign_of_opens opens inOpener).1

/-- A mark stands at the front of the text. -/
def IsMarked (t : Text) : Prop :=
  ∃ title gap opener code rest, IsChildMark t title gap opener code rest

/-- A whole mark stands somewhere in the text. -/
def HoldsMark (t : Text) : Prop :=
  ∃ mark title gap opener code, IsChildMark mark title gap opener code [] ∧ mark <:+: t

/-- A text with a mark in it has an opening in it. -/
theorem HoldsMark.mentions {t : Text} (holds : HoldsMark t) : Text.Mentions "(CHD/".toList t := by
  obtain ⟨_, title, gap, opener, code, ⟨rfl, _, _, opens, _⟩, inside⟩ := holds
  have within : opener <:+: title ++ (gap ++ (opener ++ (code ++ [')']))) :=
    ⟨title ++ gap, code ++ [')'], by simp⟩
  exact ⟨opener, opens, within.trans inside⟩

/-- A digit or a letter, as they stand in a birth code. -/
def isCodeCharacter (c : Char) : Bool := c.isDigit || Letter.isLetter c

theorem isCodeCharacter_of_shaped {code : Text} (shaped : BirthCode.Shaped code) :
    ∀ c ∈ code, isCodeCharacter c = true := by
  intro c member
  rw [isCodeCharacter, Bool.or_eq_true, Letter.isLetter_iff]
  exact ((BirthCode.shaped_iff_isToken.mp shaped).digit_or_letter member).imp id And.right

theorem isCodeCharacter_of_isTitleLetter {c : Char} (letter : Stack.isTitleLetter c = true) :
    isCodeCharacter c = true := by
  rw [isCodeCharacter, Bool.or_eq_true]
  exact Or.inr (Stack.isLetter_of_isTitleLetter letter)

theorem isCodeCharacter_of_isBlank {c : Char} (blank : Text.isBlank c = true) :
    isCodeCharacter c = false := by
  rw [Bool.eq_false_iff]
  intro character
  rcases Bool.or_eq_true _ _ |>.mp character with digit | letter
  · rw [Letter.isBlank_of_isDigit digit] at blank
    cases blank
  · rw [Letter.isBlank_of_isLetter letter] at blank
    cases blank

/-- Behind the title of a mark stands no character of a birth code. -/
theorem IsChildMark.stops {t title gap opener code rest : Text}
    (mark : IsChildMark t title gap opener code rest) :
    ∀ c ∈ (gap ++ (opener ++ (code ++ ')' :: rest))).head?, isCodeCharacter c = false := by
  intro c head
  cases gap with
  | nil =>
    obtain ⟨_, _, first, _, rfl⟩ := List.forall₂_cons_left_iff.mp mark.opens
    rw [Letter.spells_iff_eq rfl] at first
    subst first
    cases head
    rfl
  | cons d gap =>
    cases head
    exact isCodeCharacter_of_isBlank (Text.blank_iff.mp mark.blank c (by simp))

/-- A birth code in its bracket ends before a mark that begins behind the code's start. -/
theorem code_before_mark {x mark code back title gap opener token rest : Text}
    (isMark : IsChildMark mark title gap opener token rest) (shaped : BirthCode.Shaped code)
    (same : code ++ ')' :: back = x ++ mark) : code ++ [')'] <+: x := by
  rcases List.append_eq_append_iff.mp same with ⟨z, rfl, later⟩ | ⟨s, rfl, later⟩
  · cases z with
    | nil =>
      obtain ⟨c, tail, rfl, isHead⟩ := isMark.head
      cases later
      cases isHead
    | cons d z =>
      rw [List.cons_append, List.cons.injEq] at later
      obtain ⟨rfl, _⟩ := later
      exact ⟨z, by simp⟩
  · -- The title would be the end of the code, but a code ends with a digit.
    obtain ⟨y, last, digit⟩ := (BirthCode.shaped_iff_isToken.mp shaped).isDigit_getLast
    have characters : ∀ c ∈ s, isCodeCharacter c = true := fun c member =>
      isCodeCharacter_of_shaped shaped c (List.mem_append_right _ member)
    have titled : ∀ c ∈ title, isCodeCharacter c = true := fun c member =>
      isCodeCharacter_of_isTitleLetter (isMark.honorific.letters c member)
    obtain ⟨rfl, _⟩ := Text.run_unique titled characters isMark.stops
      (show ∀ c ∈ (')' :: back).head?, isCodeCharacter c = false by simp; rfl)
      (isMark.whole.symm.trans later)
    rw [List.getLast?_append_of_ne_nil _ isMark.honorific.ne_nil] at last
    have letter := isMark.honorific.letters y (List.mem_of_getLast? last)
    rw [Stack.isDigit_of_isTitleLetter letter] at digit
    cases digit

/-- A mark that begins inside a name ends inside the name. -/
theorem holdsMark_of_mark_inside {name mark shorter longer title gap opener code rest : Text}
    (isMark : IsChildMark mark title gap opener code rest) (earlier : IsMarked longer)
    (same : name ++ mark = shorter ++ longer) (fewer : shorter.length < name.length) :
    HoldsMark name := by
  obtain ⟨title', gap', opener', code', rest', isMark'⟩ := earlier
  obtain ⟨c, _, first, isHead⟩ := isMark.head
  obtain ⟨d, run, front, rfl, plain⟩ := isMark'.tail
  rcases List.append_eq_append_iff.mp same with ⟨middle, rfl, _⟩ | ⟨middle, rfl, later⟩
  · rw [List.length_append] at fewer
    omega
  cases middle with
  | nil => simp at fewer
  | cons e middle =>
    rw [List.cons_append, List.cons.injEq] at later
    obtain ⟨rfl, later⟩ := later
    have absent : c ∉ run := by
      intro member
      rw [plain c member] at isHead
      cases isHead
    obtain ⟨x, rfl⟩ := Text.prefix_before ⟨_, first ▸ later⟩ absent
    rw [List.append_assoc] at later
    obtain ⟨w, rfl⟩ := code_before_mark isMark isMark'.shaped (List.append_cancel_left later)
    refine ⟨_, title', gap', opener', code',
      ⟨rfl, isMark'.honorific, isMark'.blank, isMark'.opens, isMark'.shaped⟩, shorter, w, ?_⟩
    have regrouped : title' ++ (gap' ++ (opener' ++ (code' ++ [')']))) =
        d :: (run ++ (code' ++ [')'])) := by
      rw [← List.cons_append, ← front]
      simp
    rw [regrouped]
    simp

/-- A name record and its first mark: no mark begins before the name ends. -/
structure IsChildRecord (line record name mark title gap opener code rest : Text) : Prop where
  whole : line = record ++ (name ++ mark)
  spells : Text.Spells "NM1".toList record
  inline : '\n' ∉ name
  isMark : IsChildMark mark title gap opener code rest
  first : ∀ shorter longer, name ++ mark = shorter ++ longer → shorter.length < name.length →
    ¬ IsMarked longer

/-- A mark closes with a bracket, so where none stands behind a name the mark is in the name. -/
theorem IsChildRecord.holdsMark {line front back record name mark title gap opener code rest : Text}
    (isRecord : IsChildRecord line record name mark title gap opener code rest)
    (apart : line = "NM1".toList ++ (front ++ back)) (unclosed : ')' ∉ back) : HoldsMark front := by
  obtain ⟨rfl, spells, _, ⟨rfl, honorific, blank, opens, shaped⟩, _⟩ := isRecord
  obtain ⟨_, same⟩ := List.append_inj apart spells.length_eq.symm
  have regrouped : name ++ (title ++ (gap ++ (opener ++ code))) ++ ')' :: rest = front ++ back := by
    simpa using same
  refine ⟨_, title, gap, opener, code, ⟨rfl, honorific, blank, opens, shaped⟩, ?_⟩
  exact List.IsInfix.trans ⟨name, [], by simp⟩ (Text.prefix_through regrouped unclosed).isInfix

/-- A name without a mark is found whole, with the mark behind it. -/
theorem isChildRecord_of_unmarked {record name mark title gap opener code rest : Text}
    (spells : Text.Spells "NM1".toList record) (inline : '\n' ∉ name)
    (unmarked : ¬ HoldsMark name) (isMark : IsChildMark mark title gap opener code rest) :
    IsChildRecord (record ++ (name ++ mark)) record name mark title gap opener code rest :=
  ⟨rfl, spells, inline, isMark, fun _ _ same fewer earlier =>
    unmarked (holdsMark_of_mark_inside isMark earlier same fewer)⟩

/-- No mark stands in the name of a record, since the first one is behind it. -/
theorem IsChildRecord.unmarked {line record name mark title gap opener code rest : Text}
    (isRecord : IsChildRecord line record name mark title gap opener code rest) :
    ¬ HoldsMark name := by
  rintro ⟨_, title', gap', opener', code', ⟨rfl, honorific, blank, opens, shaped⟩, front, back,
    rfl⟩
  refine isRecord.first front
    (title' ++ (gap' ++ (opener' ++ (code' ++ ')' :: (back ++ mark))))) (by simp) ?_
    ⟨title', gap', opener', code', back ++ mark, rfl, honorific, blank, opens, shaped⟩
  simp only [List.length_append, List.length_cons]
  omega

/-- The child pattern finds exactly the name records with a mark, and their first one. -/
theorem match?_child_iff {line : Text} {found : Match} : child.pattern.match? line = some found ↔
    ∃ record name mark title gap opener code rest,
      IsChildRecord line record name mark title gap opener code rest ∧
        found = ⟨[record, name, title, gap, opener, code, [')']], rest⟩ := by
  have unmarked : ∀ {t}, childMark.match? t = none ↔ ¬ IsMarked t := by
    intro t
    rw [← Option.not_isSome_iff_eq_none, Option.isSome_iff_exists, not_iff_not]
    constructor
    · rintro ⟨found, matched⟩
      obtain ⟨title, gap, opener, code, rest, isMark, _⟩ := match?_childMark_iff.mp matched
      exact ⟨title, gap, opener, code, rest, isMark⟩
    · rintro ⟨title, gap, opener, code, rest, isMark⟩
      exact ⟨_, match?_childMark_iff.mpr ⟨title, gap, opener, code, rest, isMark, rfl⟩⟩
  show Pattern.match? (.word "NM1" :: .shortest :: childMark) line = some found ↔ _
  rw [Pattern.match?_word_iff rfl]
  constructor
  · rintro ⟨record, _, _, rfl, spells, named, rfl⟩
    obtain ⟨name, mark, _, rfl, inline, marked, first, rfl⟩ :=
      Pattern.match?_shortest_iff.mp named
    obtain ⟨title, gap, opener, code, rest, isMark, rfl⟩ := match?_childMark_iff.mp marked
    exact ⟨record, name, mark, title, gap, opener, code, rest, ⟨rfl, spells, inline, isMark,
      fun shorter longer same fewer => unmarked.mp (first shorter longer same fewer)⟩, rfl⟩
  · rintro ⟨record, name, mark, title, gap, opener, code, rest,
      ⟨rfl, spells, inline, isMark, first⟩, rfl⟩
    have marked := match?_childMark_iff.mpr ⟨title, gap, opener, code, rest, isMark, rfl⟩
    exact ⟨record, _, _, rfl, spells, Pattern.match?_shortest_iff.mpr ⟨name, mark, _, rfl, inline,
      marked, fun shorter longer same fewer =>
        unmarked.mpr (first shorter longer same fewer), rfl⟩, rfl⟩

/-- No line begins both like a name record and like an infant. -/
theorem match?_infant_of_name {record left : Text} (spells : Text.Spells "NM1".toList record) :
    infant.pattern.match? (record ++ left) = none := by
  have bracket : ∀ c, Letter.Spells 'N' c → ¬ Letter.Spells '(' c := by
    intro c named opens
    rw [(Letter.spells_iff_eq rfl).mp opens] at named
    exact absurd named (by decide)
  cases found : infant.pattern.match? (record ++ left) with
  | none => rfl
  | some other =>
    obtain ⟨taken, after, _, same, opens, _⟩ := (Pattern.match?_word_iff rfl).mp found
    change List.Forall₂ _ ['N', 'M', '1'] _ at spells
    change List.Forall₂ _ ['(', 'I', 'N', 'F'] _ at opens
    obtain ⟨c, _, named, _, rfl⟩ := List.forall₂_cons_left_iff.mp spells
    obtain ⟨d, _, opened, _, rfl⟩ := List.forall₂_cons_left_iff.mp opens
    rw [List.cons_append, List.cons_append, List.cons.injEq] at same
    rw [← same.1] at opened
    exact absurd opened (bracket c named)

/-- The child rule decides about every name record with a mark. -/
theorem IsChildRecord.decides {line record name mark title gap opener code rest : Text}
    (isRecord : IsChildRecord line record name mark title gap opener code rest) :
    Table.standard.Decides line child
      ⟨[record, name, title, gap, opener, code, [')']], rest⟩ := by
  refine ⟨[infant], _, rfl, ?_,
    match?_child_iff.mpr ⟨record, name, mark, title, gap, opener, code, rest, isRecord, rfl⟩⟩
  intro other member
  rw [List.mem_singleton.mp member, isRecord.whole]
  exact match?_infant_of_name isRecord.spells

/-- A child whose age on the departure date is known is shown with it. -/
theorem outcome_child_of_age {context : Context}
    {line record name title gap opener token rest : Text} {departure : Date} {age : Int}
    (departs : context.departure = some departure)
    (resolved : ageOn token departure context.currentYear = .ok age) :
    child.outcome context line ⟨[record, name, title, gap, opener, token, [')']], rest⟩ =
      .translated "child" ('-' :: name ++ title ++ "*C".toList ++ Numeral.signed age) := by
  have given : ¬ (child.needsDeparture = true ∧ context.departure = none) := by simp [departs]
  have ran : child.action.run child.name context
      ⟨[record, name, title, gap, opener, token, [')']], rest⟩ =
        .ok ('-' :: name ++ title ++ "*C".toList ++ Numeral.signed age) := by
    show Action.runChild "child" context _ (some name) (some title) (some token) = _
    simp only [Action.runChild, departs, resolved]
  rw [outcome, run, if_neg given, ran]
  rfl

/-- A child whose birth date and departure date are known is shown with the years that
lie between them. -/
theorem outcome_child {context : Context} {line record name title gap opener token rest : Text}
    {code : BirthCode} {birth departure : Date} (success : BirthCode.read token = .ok code)
    (born : code.birthDate context.currentYear = .ok birth)
    (departs : context.departure = some departure) :
    child.outcome context line ⟨[record, name, title, gap, opener, token, [')']], rest⟩ =
      .translated "child" ('-' :: name ++ title ++ "*C".toList ++
        Numeral.signed (birth.completedYears departure)) :=
  outcome_child_of_age departs (BirthCode.ageOn_of_birthDate success born departure)

end Shorthand.Rule
