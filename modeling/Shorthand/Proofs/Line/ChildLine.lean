import Shorthand.Proofs.Calendar.Gregorian
import Shorthand.Proofs.Entry.ChildRecord
import Shorthand.Proofs.Line.Segments

/-! Lines that hold one child record. The bracket keeps the digits of the birth code
apart from the title, so a line whose name holds no separator holds none at all, and
the whole line is the one segment that the child rule decides about. -/
namespace Shorthand

/-- A child record as it is written on a line. -/
def childLine (name title gap token : Text) : Text :=
  "NM1".toList ++ name ++ title ++ gap ++ "(CHD/".toList ++ token ++ [')']

/-- The parts of a child record up to its code, grouped as the child rule reads them. -/
theorem opened_append (name title gap rest : Text) :
    "NM1".toList ++ name ++ title ++ gap ++ "(CHD/".toList ++ rest =
      "NM1".toList ++ (name ++ (title ++ (gap ++ ("(CHD/".toList ++ rest)))) := by
  -- Literals that are not generalized are opened to their letters at every step.
  generalize "NM1".toList = record, "(CHD/".toList = opener
  simp only [List.append_assoc]

theorem childLine_eq (name title gap token : Text) : childLine name title gap token =
    "NM1".toList ++ (name ++ (title ++ (gap ++ ("(CHD/".toList ++ (token ++ [')']))))) :=
  (List.append_assoc _ token [')']).trans (opened_append ..)

theorem trimmed_childLine (name title gap token : Text) :
    Text.Trimmed (childLine name title gap token) := by
  constructor
  · rw [childLine_eq]
    exact Text.solidStart_cons.mpr rfl
  · exact (Text.solidEnd_append (List.cons_ne_nil _ _)).mpr (by decide)

theorem childLine_ne_nil (name title gap token : Text) : childLine name title gap token ≠ [] :=
  List.append_ne_nil_of_right_ne_nil _ (List.cons_ne_nil _ _)

/-- Neither blanks nor the opening of a bracket add a separator to what stands around them. -/
theorem holdsSeparator_opened_iff {front gap opener code : Text} (blank : Text.blank gap = true)
    (opens : Text.Spells "(CHD/".toList opener) :
    Stack.HoldsSeparator (front ++ gap ++ opener ++ code) ↔
      Stack.HoldsSeparator front ∨ Stack.HoldsSeparator code := by
  rw [List.append_assoc, Stack.holdsSeparator_append_wall_iff (Rule.opens_ne_nil opens)
    fun _ => Rule.foreign_of_opens opens, Stack.holdsSeparator_append_blank_iff blank]

/-- Neither the blanks nor the bracket of a child add a separator to its name and token. -/
theorem holdsSeparator_bracketed_iff {front gap opener token : Text}
    (blank : Text.blank gap = true) (opens : Text.Spells "(CHD/".toList opener) :
    Stack.HoldsSeparator (front ++ gap ++ opener ++ token ++ [')']) ↔
      Stack.HoldsSeparator front ∨ Stack.HoldsSeparator token := by
  have close : Stack.IsForeign ')' := by decide
  rw [Stack.holdsSeparator_append_cons_iff close, or_iff_left Stack.holdsSeparator_nil,
    holdsSeparator_opened_iff blank opens]

/-- A child record without a separator is one segment, and the child rule decides about it. -/
theorem translate_of_single_childLine (context : Context) {name title gap token : Text}
    (inline : '\n' ∉ name) (unmarked : ¬ Rule.HoldsMark name) (honorific : Stack.IsHonorific title)
    (blank : Text.blank gap = true) (isToken : BirthCode.IsToken token)
    (single : ¬ Stack.HoldsSeparator ("NM1".toList ++ name ++ title))
    (apart : ¬ Stack.HoldsSeparator token) :
    (translate context (childLine name title gap token)).stacked = false ∧
      (translate context (childLine name title gap token)).segments =
        [⟨childLine name title gap token, Rule.child.outcome context
          (childLine name title gap token)
          ⟨["NM1".toList, name, title, gap, "(CHD/".toList, token, [')']], []⟩, false⟩] := by
  have trimmed := trimmed_childLine name title gap token
  have nonempty := childLine_ne_nil name title gap token
  have opens : Text.Spells "(CHD/".toList "(CHD/".toList := by decide
  have named : Text.Spells "NM1".toList "NM1".toList := by decide
  have whole : ¬ Stack.HoldsSeparator (childLine name title gap token) :=
    (holdsSeparator_bracketed_iff blank opens).not.mpr (not_or.mpr ⟨single, apart⟩)
  have isMark : Rule.IsChildMark (title ++ (gap ++ ("(CHD/".toList ++ (token ++ [')']))))
      title gap "(CHD/".toList token [] :=
    ⟨rfl, honorific, blank, opens, BirthCode.shaped_iff_isToken.mpr isToken⟩
  have decides := (Rule.isChildRecord_of_unmarked named inline unmarked isMark).decides
  rw [← childLine_eq] at decides
  obtain ⟨unstacked, segments⟩ := translate_of_single context trimmed nonempty
    (Stack.isStacked_eq_false_iff.mpr whole)
  rw [Table.translateEntry_of_trimmed (Text.trim_eq_self_iff.mpr trimmed) nonempty,
    Table.apply_of_decides context decides] at segments
  exact ⟨unstacked, segments⟩

/-- A child record is shown with the completed years between the birth date and the
departure date, whatever its name holds, as long as it holds no separator and no other
child. -/
theorem translate_childLine {context : Context} {name title gap token : Text} {code : BirthCode}
    {birth departure : Date} (inline : '\n' ∉ name)
    (unopened : ¬ Text.Mentions "(CHD/".toList name) (honorific : Stack.IsHonorific title)
    (single : ¬ Stack.HoldsSeparator ("NM1".toList ++ name ++ title))
    (blank : Text.blank gap = true) (success : BirthCode.read token = .ok code)
    (born : code.birthDate context.currentYear = .ok birth)
    (departs : context.departure = some departure) :
    (translate context (childLine name title gap token)).stacked = false ∧
      ∃ segment age, (translate context (childLine name title gap token)).segments = [segment] ∧
        segment.rule? = some "child" ∧ segment.failed = false ∧
          (∀ n, birth.YearsCompleted departure n ↔ n = age) ∧
            segment.output = '-' :: name ++ title ++ "*C".toList ++ Numeral.signed age := by
  have isToken := BirthCode.shaped_iff_isToken.mp (BirthCode.shaped_of_read success)
  obtain ⟨unstacked, segments⟩ := translate_of_single_childLine context inline
    (fun holds => unopened holds.mentions) honorific blank isToken single
    (BirthCode.single_of_read success)
  rw [Rule.outcome_child success born departs] at segments
  refine ⟨unstacked, _, birth.completedYears departure, segments, rfl, rfl, ?_, rfl⟩
  intro n
  rw [← Date.completedYears_eq_iff]
  exact eq_comm

/-- A child that is born on the day after the departure, with titles and a bracket in
its name and a line break before its birth code. -/
theorem translate_childLine_unborn :
    Stack.IsHonorific "mIſS".toList ∧
      ∃ segment, (translate ⟨some ⟨2020, 2, 29, by decide⟩, ⟨2026, 1, 1, by decide⟩⟩
          "NM1LI/MR ANNA (VIP) ms\tmIſS \n\u3000(CHD/01Mar20)".toList).segments = [segment] ∧
        segment.rule? = some "child" ∧ segment.failed = false ∧
          segment.output = "-LI/MR ANNA (VIP) ms\tmIſS*C-1".toList := by
  have inline : '\n' ∉ "LI/MR ANNA (VIP) ms\t".toList := by decide
  have unopened : ¬ Text.Mentions "(CHD/".toList "LI/MR ANNA (VIP) ms\t".toList := by
    decide +kernel
  have honorific : Stack.IsHonorific "mIſS".toList := by decide
  have single : ¬ Stack.HoldsSeparator
      ("NM1".toList ++ "LI/MR ANNA (VIP) ms\t".toList ++ "mIſS".toList) := by decide +kernel
  have blank : Text.blank " \n\u3000".toList = true := by decide
  have success : BirthCode.read "01Mar20".toList = .ok ⟨1, 3, 20⟩ := by decide +kernel
  have born : BirthCode.birthDate ⟨1, 3, 20⟩ 2026 = .ok ⟨2020, 3, 1, by decide⟩ := by
    decide +kernel
  have line : childLine "LI/MR ANNA (VIP) ms\t".toList "mIſS".toList " \n\u3000".toList
      "01Mar20".toList = "NM1LI/MR ANNA (VIP) ms\tmIſS \n\u3000(CHD/01Mar20)".toList := by
    decide +kernel
  obtain ⟨_, segment, age, segments, rule, failed, years, output⟩ :=
    @translate_childLine ⟨some ⟨2020, 2, 29, by decide⟩, ⟨2026, 1, 1, by decide⟩⟩
      _ _ _ _ _ _ _ inline unopened honorific single blank success born rfl
  have unborn : -1 = age := (years (-1)).mp (Date.completedYears_eq_iff.mp (by decide))
  subst unborn
  rw [line] at segments
  exact ⟨honorific, segment, segments, rule, failed, output⟩

end Shorthand
