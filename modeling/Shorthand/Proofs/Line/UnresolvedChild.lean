import Shorthand.Proofs.Line.ChildLine
import Shorthand.Proofs.Line.Failures

/-! Child records whose birth code stands for no date. A code is never a reason to split
a line when it can be read, but a code that cannot be read may hold a separator itself: its
letters end with a title and its year begins with a 1. Such a line is split inside the code,
neither part is a child record, and no segment fails. Every other line of this kind is one
segment, and the failure is reported. -/
namespace Shorthand

/-- The part of a child record before a separator in its code. -/
def childLineFront (name title gap : Text) (d₁ d₂ m₁ m₂ m₃ : Char) : Text :=
  "NM1".toList ++ name ++ title ++ gap ++ "(CHD/".toList ++ [d₁, d₂, m₁, m₂, m₃]

theorem childLineFront_eq (name title gap : Text) (d₁ d₂ m₁ m₂ m₃ : Char) :
    childLineFront name title gap d₁ d₂ m₁ m₂ m₃ = "NM1".toList ++
      (name ++ (title ++ (gap ++ ("(CHD/".toList ++ [d₁, d₂, m₁, m₂, m₃])))) :=
  opened_append ..

theorem childLine_cut (name title gap : Text) (d₁ d₂ m₁ m₂ m₃ y₂ : Char) :
    childLine name title gap [d₁, d₂, m₁, m₂, m₃, '1', y₂] =
      childLineFront name title gap d₁ d₂ m₁ m₂ m₃ ++ (['1'] ++ [y₂, ')']) := by
  have regrouped : ∀ front : Text, front ++ [d₁, d₂, m₁, m₂, m₃, '1', y₂] ++ [')'] =
      front ++ [d₁, d₂, m₁, m₂, m₃] ++ (['1'] ++ [y₂, ')']) := by
    intro front
    simp only [List.append_assoc, List.cons_append, List.nil_append]
  exact regrouped _

/-- A code whose letters end with a title and whose year begins with a 1 is cut there. -/
theorem isCutting_childLine {name title gap : Text} {d₁ d₂ m₁ m₂ m₃ y₂ : Char}
    (blank : Text.blank gap = true) (isToken : BirthCode.IsToken [d₁, d₂, m₁, m₂, m₃, '1', y₂])
    (single : ¬ Stack.HoldsSeparator ("NM1".toList ++ name ++ title))
    (ends : Stack.IsHonorific [m₂, m₃]) :
    Stack.IsCutting (childLine name title gap [d₁, d₂, m₁, m₂, m₃, '1', y₂])
      (childLineFront name title gap d₁ d₂ m₁ m₂ m₃) [(['1'], [y₂, ')'])] := by
  obtain ⟨_, _, _, _, _, _, _, same, digits, letters⟩ := isToken
  cases same
  have alphabetic : ∀ c ∈ [m₁, m₂, m₃], Letter.isLetter c = true := fun c member =>
    Letter.isLetter_iff.mpr (letters c member)
  have last : y₂.isDigit = true := digits y₂ (by simp)
  have opens : Text.Spells "(CHD/".toList "(CHD/".toList := by decide
  have unsplit : ¬ Stack.HoldsSeparator [d₁, d₂, m₁, m₂, m₃] := by
    intro holds
    -- With another year behind them the same characters hold no separator.
    have longer : Stack.HoldsSeparator [d₁, d₂, m₁, m₂, m₃, '0', '0'] :=
      holds.mono ⟨[], ['0', '0'], rfl⟩
    rw [BirthCode.holdsSeparator_token_iff (by simp_all) alphabetic] at longer
    exact absurd longer.2 (by decide)
  rw [Stack.isCutting_cons_iff, Stack.stack_nil, Stack.isCutting_nil_iff]
  refine ⟨childLine_cut .., ⟨[], [], rfl, rfl, rfl⟩, ⟨[m₂, m₃], ends, ?_⟩, ?_,
    Text.solidStart_cons.mpr (Letter.isBlank_of_isDigit last), rfl, ?_⟩
  · have inner : [m₂, m₃] <:+ [d₁, d₂, m₁, m₂, m₃] := ⟨[d₁, d₂, m₁], rfl⟩
    exact inner.trans (List.suffix_append ..)
  · exact (holdsSeparator_opened_iff blank opens).not.mpr (not_or.mpr ⟨single, unsplit⟩)
  · have close : Stack.IsForeign ')' := by decide
    rw [Stack.holdsSeparator_digit_cons_iff last]
    exact (@Stack.holdsSeparator_append_cons_iff [] [] _ close).not.mpr
      (not_or.mpr ⟨Stack.holdsSeparator_nil, Stack.holdsSeparator_nil⟩)

/-- Neither part of a record that is cut in its code is a child record. -/
theorem not_captures_of_cut {name title gap part token : Text} {d₁ d₂ m₁ m₂ m₃ y₂ : Char}
    (unmarked : ¬ Rule.HoldsMark name) (honorific : Stack.IsHonorific title)
    (blank : Text.blank gap = true) (isToken : BirthCode.IsToken [d₁, d₂, m₁, m₂, m₃, '1', y₂])
    (isPart : part ∈ [childLineFront name title gap d₁ d₂ m₁ m₂ m₃, [y₂, ')']]) :
    ¬ Rule.Captures part token := by
  rintro ⟨record, name', mark, title', gap', opener, rest, isRecord⟩
  simp only [List.mem_cons, List.not_mem_nil, or_false] at isPart
  rcases isPart with rfl | rfl
  · refine unmarked (isRecord.holdsMark (childLineFront_eq ..) ?_)
    simp only [List.mem_append, not_or]
    refine ⟨fun member => ?_, fun member => ?_, by decide, fun member => ?_⟩
    · exact absurd (honorific.letters _ member) (by decide)
    · exact absurd (Text.blank_iff.mp blank _ member) (by decide)
    · have shaped := BirthCode.shaped_iff_isToken.mpr isToken
      have among : ')' ∈ [d₁, d₂, m₁, m₂, m₃, '1', y₂] := List.mem_append_left ['1', y₂] member
      exact absurd (Rule.isCodeCharacter_of_shaped shaped _ among) (by decide)
  · have long : 3 = record.length := isRecord.spells.length_eq
    have short := congrArg List.length isRecord.whole
    simp only [List.length_append, List.length_cons, List.length_nil] at short
    omega

/-- A record that is cut in its code has two segments, and neither of them fails. -/
theorem segments_of_cut {context : Context} {name title gap : Text} {d₁ d₂ m₁ m₂ m₃ y₂ : Char}
    (unmarked : ¬ Rule.HoldsMark name) (honorific : Stack.IsHonorific title)
    (single : ¬ Stack.HoldsSeparator ("NM1".toList ++ name ++ title))
    (blank : Text.blank gap = true) (isToken : BirthCode.IsToken [d₁, d₂, m₁, m₂, m₃, '1', y₂])
    (ends : Stack.IsHonorific [m₂, m₃]) :
    (translate context (childLine name title gap [d₁, d₂, m₁, m₂, m₃, '1', y₂])).segments.map
        Segment.input = [childLineFront name title gap d₁ d₂ m₁ m₂ m₃, [y₂, ')']] ∧
      (translate context (childLine name title gap [d₁, d₂, m₁, m₂, m₃, '1', y₂])).hasFailures =
        false := by
  have trimmed := trimmed_childLine name title gap [d₁, d₂, m₁, m₂, m₃, '1', y₂]
  have texts := Stack.pieces_of_isCutting (isCutting_childLine blank isToken single ends)
  have inputs : (translate context
      (childLine name title gap [d₁, d₂, m₁, m₂, m₃, '1', y₂])).segments.map Segment.input =
        [childLineFront name title gap d₁ d₂ m₁ m₂ m₃, [y₂, ')']] := by
    rw [translate_map_input, Text.trim_eq_self_iff.mpr trimmed, Stack.entries_of_trimmed trimmed,
      texts]
    rfl
  refine ⟨inputs, ?_⟩
  rw [Translation.hasFailures, List.any_eq_false]
  intro segment member failed
  have isPart := List.mem_map_of_mem (f := Segment.input) member
  rw [inputs] at isPart
  obtain ⟨record, name', mark, title', gap', opener, token, rest, _, isRecord, _⟩ :=
    exists_failureOf member failed
  exact not_captures_of_cut unmarked honorific blank isToken isPart
    ⟨record, name', mark, title', gap', opener, rest, isRecord⟩

/-- A child record whose code stands for no date is reported, unless the code holds a
separator itself. Then the line is split inside the code, and nothing is reported. -/
theorem translate_unresolvedChild {context : Context} {departure : Date} {name title gap : Text}
    {d₁ d₂ m₁ m₂ m₃ y₁ y₂ : Char} (inline : '\n' ∉ name) (unmarked : ¬ Rule.HoldsMark name)
    (honorific : Stack.IsHonorific title)
    (single : ¬ Stack.HoldsSeparator ("NM1".toList ++ name ++ title))
    (blank : Text.blank gap = true)
    (isToken : BirthCode.IsToken [d₁, d₂, m₁, m₂, m₃, y₁, y₂])
    (unresolved : ¬ BirthCode.Resolves context.currentYear [d₁, d₂, m₁, m₂, m₃, y₁, y₂])
    (departs : context.departure = some departure) :
    (¬ (Stack.IsHonorific [m₂, m₃] ∧ y₁ = '1') → ∃ segment,
      (translate context (childLine name title gap [d₁, d₂, m₁, m₂, m₃, y₁, y₂])).segments =
          [segment] ∧
        segment.rule? = some "child" ∧ segment.failed = true ∧
          "ERROR: cannot compute age".toList <+: segment.output) ∧
    (Stack.IsHonorific [m₂, m₃] ∧ y₁ = '1' →
      (translate context (childLine name title gap [d₁, d₂, m₁, m₂, m₃, y₁, y₂])).segments.map
          Segment.input = [childLineFront name title gap d₁ d₂ m₁ m₂ m₃, [y₂, ')']] ∧
        (translate context
          (childLine name title gap [d₁, d₂, m₁, m₂, m₃, y₁, y₂])).hasFailures = false) := by
  constructor
  · intro plain
    obtain ⟨_, _, _, _, _, _, _, same, digits, letters⟩ := id isToken
    cases same
    have apart := (BirthCode.holdsSeparator_token_iff digits fun c member =>
      Letter.isLetter_iff.mpr (letters c member)).not.mpr plain
    obtain ⟨cause, fault⟩ := (BirthCode.not_resolves_iff isToken).mp unresolved
    have failed := (@BirthCode.ageOn_eq_error_iff_faultOf _ isToken departure _ _).mpr fault
    have segments := (translate_of_single_childLine context inline unmarked honorific blank isToken
      single apart).2
    rw [Rule.outcome_child_of_error departs failed] at segments
    exact ⟨_, segments, rfl, rfl, _, rfl⟩
  · rintro ⟨ends, rfl⟩
    exact segments_of_cut unmarked honorific single blank isToken ends

/-- A day that February does not have is reported, and letters that end with a title before
a year that begins with a 1 are not, though they name no month. -/
theorem translate_unresolvedChild_reported_and_cut :
    (∃ segment, (translate ⟨some ⟨2024, 6, 1, by decide⟩, ⟨2026, 10, 19, by decide⟩⟩
        "NM1A/B ms miss\t(CHD/31feb15)".toList).segments = [segment] ∧
      segment.rule? = some "child" ∧ segment.failed = true ∧
        "ERROR: cannot compute age".toList <+: segment.output) ∧
      (translate ⟨some ⟨2024, 6, 1, by decide⟩, ⟨2026, 10, 19, by decide⟩⟩
        "NM1A/B ms miss\t(CHD/01AMS15)".toList).segments.map Segment.input =
          ["NM1A/B ms miss\t(CHD/01AMS".toList, "5)".toList] ∧
      (translate ⟨some ⟨2024, 6, 1, by decide⟩, ⟨2026, 10, 19, by decide⟩⟩
        "NM1A/B ms miss\t(CHD/01AMS15)".toList).hasFailures = false := by
  have inline : '\n' ∉ "A/B ms ".toList := by decide
  have unopened : ¬ Text.Mentions "(CHD/".toList "A/B ms ".toList := by decide +kernel
  have honorific : Stack.IsHonorific "miss".toList := by decide
  have single : ¬ Stack.HoldsSeparator ("NM1".toList ++ "A/B ms ".toList ++ "miss".toList) := by
    decide +kernel
  have dated : BirthCode.IsToken ['3', '1', 'f', 'e', 'b', '1', '5'] := by decide +kernel
  have titled : BirthCode.IsToken ['0', '1', 'A', 'M', 'S', '1', '5'] := by decide +kernel
  have lineDated : childLine "A/B ms ".toList "miss".toList ['\t']
      ['3', '1', 'f', 'e', 'b', '1', '5'] = "NM1A/B ms miss\t(CHD/31feb15)".toList := by
    decide +kernel
  have lineTitled : childLine "A/B ms ".toList "miss".toList ['\t']
      ['0', '1', 'A', 'M', 'S', '1', '5'] = "NM1A/B ms miss\t(CHD/01AMS15)".toList := by
    decide +kernel
  have unmarked : ¬ Rule.HoldsMark "A/B ms ".toList := fun holds => unopened holds.mentions
  have reported := (@translate_unresolvedChild
    ⟨some ⟨2024, 6, 1, by decide⟩, ⟨2026, 10, 19, by decide⟩⟩ _ _ _ ['\t'] _ _ _ _ _ _ _ inline
    unmarked honorific single rfl dated (by decide +kernel) rfl).1 (by decide)
  have cut := (@translate_unresolvedChild
    ⟨some ⟨2024, 6, 1, by decide⟩, ⟨2026, 10, 19, by decide⟩⟩ _ _ _ ['\t'] _ _ _ _ _ _ _ inline
    unmarked honorific single rfl titled (by decide +kernel) rfl).2 (by decide)
  rw [lineDated] at reported
  rw [lineTitled] at cut
  exact ⟨reported, cut⟩

/-- Not every child record whose code stands for no date is reported, even if its name holds
neither an opening nor a separator. -/
theorem unresolvedChild_not_always_reported : ¬ ∀ (context : Context) (departure : Date)
    (name title gap token : Text), '\n' ∉ name → ¬ Text.Mentions "(CHD/".toList name →
      title ∈ ["MSTR".toList, "MISS".toList, "MR".toList, "MS".toList] →
      ¬ Stack.HoldsSeparator ("NM1".toList ++ name ++ title) → Text.blank gap = true →
      BirthCode.IsToken token → (∀ c ∈ token, Letter.isAscii c = true) →
      ¬ BirthCode.Resolves context.currentYear token → context.departure = some departure →
      ∃ segment, (translate context (childLine name title gap token)).segments = [segment] ∧
        segment.rule? = some "child" ∧ segment.failed = true ∧
          "ERROR: cannot compute age".toList <+: segment.output := by
  intro claim
  have ascii : ['0', '1', 'A', 'M', 'S', '1', '5'].all Letter.isAscii = true := rfl
  obtain ⟨segment, alone, _⟩ := claim
    ⟨some ⟨2024, 6, 1, by decide⟩, ⟨2026, 10, 19, by decide⟩⟩ ⟨2024, 6, 1, by decide⟩
    "A/B ".toList "MSTR".toList [' '] ['0', '1', 'A', 'M', 'S', '1', '5'] (by decide)
    (by decide +kernel) (by decide) (by decide +kernel) rfl (by decide +kernel)
    (List.all_eq_true.mp ascii) (by decide +kernel) rfl
  have two : (translate ⟨some ⟨2024, 6, 1, by decide⟩, ⟨2026, 10, 19, by decide⟩⟩
      (childLine "A/B ".toList "MSTR".toList [' ']
        ['0', '1', 'A', 'M', 'S', '1', '5'])).segments.length = 2 := by
    decide +kernel
  rw [alone] at two
  cases two

end Shorthand
