import Shorthand.Proofs.Line.Failures

/-! What a context has an influence on. Only the action of the child rule looks at it, and all
that it looks at is the departure date and the current year. So two contexts find the same
segments in a line and name the same rules for them, and the segments that are no child
records are shown alike, whatever becomes of the others. A child record that fails for its
birth code fails for every departure date, and the reports differ in that date alone. -/
namespace Shorthand

/-- An action that computes no age has the same output in all contexts. -/
theorem Action.run_of_isSteady {action : Action} (steady : action.isSteady = true) (rule : String)
    (context context' : Context) (found : Match) :
    action.run rule context found = action.run rule context' found := by
  cases action with
  | template slots => rfl
  | infant name code => rfl
  | child name title code => cases steady

namespace Rule

/-- Every rule but the child rule comes to the same outcome in all contexts. -/
theorem outcome_of_ne_child {rule : Rule} (member : rule ∈ Table.standard) (other : rule ≠ child)
    (context context' : Context) (line : Text) (found : Match) :
    rule.outcome context line found = rule.outcome context' line found := by
  obtain ⟨undemanding, steady⟩ := (steady_standard rule member).resolve_left other
  simp only [outcome, run, undemanding, Bool.false_eq_true, false_and, if_false,
    Action.run_of_isSteady steady rule.name context context' found]

/-- Of a context a rule sees the departure date and the current year. -/
theorem outcome_congr {context context' : Context}
    (departs : context.departure = context'.departure)
    (year : context.currentYear = context'.currentYear) (rule : Rule) (line : Text)
    (found : Match) : rule.outcome context line found = rule.outcome context' line found := by
  have ran : rule.action.run rule.name context found = rule.action.run rule.name context' found := by
    cases rule.action with
    | template slots => rfl
    | infant name code => rfl
    | child name title code => simp only [Action.run, Action.runChild, departs, year]
  simp only [outcome, run, departs, ran]

end Rule

namespace Table

/-- In all contexts a line passes through, or one rule decides about it. -/
theorem unmatched_or_outcomes (table : Table) (context context' : Context) (line : Text) :
    (table.apply context line = .unmatched line ∧ table.apply context' line = .unmatched line) ∨
      ∃ rule ∈ table, ∃ found, table.apply context line = rule.outcome context line found ∧
        table.apply context' line = rule.outcome context' line found := by
  rcases table.unmatched_or_decides line with refused | ⟨rule, found, decides⟩
  · exact .inl ⟨apply_of_unmatched context refused, apply_of_unmatched context' refused⟩
  · exact .inr ⟨rule, decides.mem, found, apply_of_decides context decides,
      apply_of_decides context' decides⟩

/-- Which rule is named for a line does not depend on the context. -/
theorem rule?_apply_eq (table : Table) (context context' : Context) (line : Text) :
    (table.apply context line).rule? = (table.apply context' line).rule? := by
  rcases table.unmatched_or_outcomes context context' line with
    ⟨one, other⟩ | ⟨rule, _, found, one, other⟩
  · rw [one, other]
  · rw [one, other, Rule.rule?_outcome, Rule.rule?_outcome]

/-- A line that is no child record is translated in the same way in all contexts. -/
theorem apply_of_rule?_ne_child {context : Context} {line : Text}
    (other : (Table.standard.apply context line).rule? ≠ some "child") (context' : Context) :
    Table.standard.apply context line = Table.standard.apply context' line := by
  rcases Table.standard.unmatched_or_outcomes context context' line with
    ⟨one, two⟩ | ⟨rule, member, found, one, two⟩
  · rw [one, two]
  · rw [one, Rule.rule?_outcome] at other
    rw [one, two]
    refine Rule.outcome_of_ne_child member ?_ context context' line found
    rintro rfl
    exact other rfl

theorem apply_congr {context context' : Context} (departs : context.departure = context'.departure)
    (year : context.currentYear = context'.currentYear) (table : Table) (line : Text) :
    table.apply context line = table.apply context' line := by
  rcases table.unmatched_or_outcomes context context' line with
    ⟨one, other⟩ | ⟨rule, _, found, one, other⟩
  · rw [one, other]
  · rw [one, other, Rule.outcome_congr departs year]

/-- A birth code that gives no age gives none on any other departure date of the same clock,
for the same reason. -/
theorem apply_redated {context context' : Context} {departure departure' : Date} {line : Text}
    {failure : Failure} (dated : context.departure = some departure)
    (dated' : context'.departure = some departure')
    (year : context.currentYear = context'.currentYear)
    (failed : Table.standard.apply context line = .failed failure) :
    ∃ matched token cause,
      failure = .unresolvableAge "child" matched token departure cause ∧
        Table.standard.apply context' line =
          .failed (.unresolvableAge "child" matched token departure' cause) := by
  obtain ⟨record, name, mark, title, gap, opener, token, rest, isRecord, reason⟩ :=
    apply_eq_failed_iff.mp failed
  obtain ⟨cause, fault, rfl⟩ := reason.exists_cause dated
  exact ⟨_, token, cause, rfl, apply_eq_failed_iff.mpr ⟨record, name, mark, title, gap, opener,
    token, rest, isRecord, .unresolvable dated' (year ▸ fault)⟩⟩

end Table

/-- The whole translation of a text depends on the context through the departure date and the
current year. -/
theorem translate_congr {context context' : Context}
    (departs : context.departure = context'.departure)
    (year : context.currentYear = context'.currentYear) (input : Text) :
    translate context input = translate context' input := by
  have entries : ∀ entry, Table.standard.translateEntry context entry =
      Table.standard.translateEntry context' entry := by
    intro entry
    simp only [Table.translateEntry, Table.apply_congr departs year]
  simp only [translate, Table.translate, Table.segments, entries]

/-- The segments at one place of two translations of a text hold the same piece, and their
dashes differ only if the one outcome begins with a mark of the target system and the other
does not. -/
theorem segments_at_place {context context' : Context} {input : Text} {i : Nat}
    {segment segment' : Segment} (place : (translate context input).segments[i]? = some segment)
    (place' : (translate context' input).segments[i]? = some segment') :
    segment.input = segment'.input ∧
      (Segment.hasLeader segment.outcome.text = Segment.hasLeader segment'.outcome.text →
        segment.dash = segment'.dash) := by
  rw [getElem?_segments, Option.map_eq_some_iff] at place place'
  obtain ⟨entry, among, rfl⟩ := place
  obtain ⟨entry', among', rfl⟩ := place'
  obtain rfl := Option.some.inj (among.symm.trans among')
  refine ⟨rfl, fun same => ?_⟩
  have stacked : (translate context input).stacked = (translate context' input).stacked := rfl
  simp only [stacked, same]

/-- The texts are the same but for the departure date in the report of a missing age. -/
def DifferInDeparture (departure departure' : Date) (t t' : Text) : Prop :=
  ∃ front back, t = front ++ ", Dep: ".toList ++ Iso.write departure ++ "): ".toList ++ back ∧
    t' = front ++ ", Dep: ".toList ++ Iso.write departure' ++ "): ".toList ++ back

theorem differInDeparture_message (rule : String) (matched token : Text)
    (departure departure' : Date) (cause : BirthCode.Fault) :
    DifferInDeparture departure departure'
      (Failure.unresolvableAge rule matched token departure cause).message
      (Failure.unresolvableAge rule matched token departure' cause).message := by
  obtain ⟨front, message⟩ := Failure.exists_message_unresolvableAge rule matched token cause
  exact ⟨front, cause.message, message departure, message departure'⟩

theorem DifferInDeparture.cons {departure departure' : Date} {t t' : Text} (c : Char)
    (differ : DifferInDeparture departure departure' t t') :
    DifferInDeparture departure departure' (c :: t) (c :: t') := by
  obtain ⟨front, back, rfl, rfl⟩ := differ
  exact ⟨c :: front, back, rfl, rfl⟩

/-- A segment that fails with one departure date fails with another one, and the outputs are
the same but for that date. -/
theorem failed_redated {context context' : Context} {departure departure' : Date} {input : Text}
    {i : Nat} {segment segment' : Segment} (dated : context.departure = some departure)
    (dated' : context'.departure = some departure')
    (year : context.currentYear = context'.currentYear)
    (place : (translate context input).segments[i]? = some segment)
    (place' : (translate context' input).segments[i]? = some segment')
    (failed : segment.failed = true) :
    segment'.failed = true ∧
      DifferInDeparture departure departure' segment.output segment'.output := by
  obtain ⟨same, dashes⟩ := segments_at_place place place'
  have own := outcome_of_mem_segments (List.mem_of_getElem? place)
  have own' := outcome_of_mem_segments (List.mem_of_getElem? place')
  obtain ⟨failure, outcome⟩ := Outcome.isFailure_iff.mp failed
  obtain ⟨matched, token, cause, rfl, redated⟩ :=
    Table.apply_redated dated dated' year (own.symm.trans outcome)
  have outcome' := (same ▸ own').trans redated
  have dash : segment.dash = segment'.dash := by
    apply dashes
    rw [outcome, outcome']
    rfl
  have report := differInDeparture_message "child" matched token departure departure' cause
  refine ⟨by rw [Segment.failed, outcome']; rfl, ?_⟩
  simp only [Segment.output, outcome, outcome', Outcome.text, dash]
  split
  · exact report.cons '-'
  · exact report

/-- A context has an influence on child records only. Two contexts cut a text alike and name
the same rules; what is no child record is shown alike and never fails. Of the clock only the
year counts, and with one clock all departure dates let the same child records fail, whose
reports differ in the departure date alone. -/
theorem influence_on_children (context context' : Context) (input : Text) :
    (translate context input).stacked = (translate context' input).stacked ∧
    (translate context input).segments.length = (translate context' input).segments.length ∧
    (∀ (i : Nat) (segment segment' : Segment),
      (translate context input).segments[i]? = some segment →
      (translate context' input).segments[i]? = some segment' →
        segment.input = segment'.input ∧ segment.rule? = segment'.rule? ∧
          (segment.rule? ≠ some "child" → segment.output = segment'.output ∧
            segment.failed = false ∧ segment'.failed = false)) ∧
    (context.departure = context'.departure → context.today.year = context'.today.year →
      translate context input = translate context' input) ∧
    ∀ departure departure', context.departure = some departure →
      context'.departure = some departure' → context.today.year = context'.today.year →
      ∀ (i : Nat) (segment segment' : Segment),
        (translate context input).segments[i]? = some segment →
        (translate context' input).segments[i]? = some segment' →
          (segment.failed = true ↔ segment'.failed = true) ∧
            (segment.failed = true →
              DifferInDeparture departure departure' segment.output segment'.output) := by
  refine ⟨rfl, ?_, ?_, fun departs year => translate_congr departs year input, ?_⟩
  · have inputs := (translate_map_input context input).trans (translate_map_input context' input).symm
    simpa using congrArg List.length inputs
  · intro i segment segment' place place'
    obtain ⟨same, dashes⟩ := segments_at_place place place'
    have own := outcome_of_mem_segments (List.mem_of_getElem? place)
    have own' := outcome_of_mem_segments (List.mem_of_getElem? place')
    have named : segment.rule? = segment'.rule? := by
      rw [Segment.rule?, Segment.rule?, own, own', same]
      exact Table.rule?_apply_eq ..
    refine ⟨same, named, fun other => ?_⟩
    have unfailing : segment.failed = false := by
      rw [← Bool.not_eq_true, failed_eq_true_iff (List.mem_of_getElem? place)]
      exact fun fails => other fails.1
    have outcome : segment.outcome = segment'.outcome := by
      rw [own, own', ← same]
      refine Table.apply_of_rule?_ne_child ?_ context'
      rw [← own]
      exact other
    refine ⟨?_, unfailing, ?_⟩
    · simp only [Segment.output, outcome, dashes (congrArg _ (congrArg _ outcome))]
    · rw [Segment.failed, ← outcome]
      exact unfailing
  · intro departure departure' dated dated' year i segment segment' place place'
    have forward := failed_redated dated dated' year place place'
    have back := failed_redated dated' dated year.symm place' place
    exact ⟨⟨fun failed => (forward failed).1, fun failed => (back failed).1⟩,
      fun failed => (forward failed).2⟩

end Shorthand
