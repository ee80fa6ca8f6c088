import Shorthand.Proofs.Entry.ChildFailure
import Shorthand.Proofs.Line.Continuation

/-! Which segments of a line fail, and what is reported. A segment shows the translation of
its own text, so it fails exactly when that text is a child record without a departure date
or with a token that stands for no birth date. The report is settled by the segment and the
context, and the safety nets of the rules and of the token's reader are never reached. -/
namespace Shorthand

/-- A segment is what the standard table makes of its text. -/
theorem outcome_of_mem_segments {context : Context} {input : Text} {segment : Segment}
    (member : segment ∈ (translate context input).segments) :
    segment.outcome = Table.standard.apply context segment.input := by
  obtain ⟨own, trimmed, nonempty, _⟩ := translate_segment_input member
  rw [own, Table.translateEntry_of_trimmed (Text.trim_eq_self_iff.mpr trimmed) nonempty]

theorem failed_eq_true_iff {context : Context} {input : Text} {segment : Segment}
    (member : segment ∈ (translate context input).segments) :
    segment.failed = true ↔ segment.rule? = some "child" ∧
      (context.departure = none ∨ ∃ token, Rule.Captures segment.input token ∧
        ¬ BirthCode.Resolves context.currentYear token) := by
  rw [Segment.failed, Segment.rule?, outcome_of_mem_segments member]
  exact Table.isFailure_apply_iff

/-- A segment that fails is a child record with one of the stated failures. -/
theorem exists_failureOf {context : Context} {input : Text} {segment : Segment}
    (member : segment ∈ (translate context input).segments) (failed : segment.failed = true) :
    ∃ record name mark title gap opener token rest failure,
      Rule.IsChildRecord segment.input record name mark title gap opener token rest ∧
        segment.outcome = .failed failure ∧ FailureOf context segment.input
          [record, name, title, gap, opener, token, [')']].flatten token failure := by
  obtain ⟨failure, outcome⟩ := Outcome.isFailure_iff.mp failed
  obtain ⟨record, name, mark, title, gap, opener, token, rest, isRecord, reason⟩ :=
    Table.apply_eq_failed_iff.mp ((outcome_of_mem_segments member).symm.trans outcome)
  exact ⟨record, name, mark, title, gap, opener, token, rest, failure, isRecord, outcome, reason⟩

/-- Only child records fail, and the context and the captured token settle how. Without a
departure date the whole segment is reported, and with one the matched text, the token and
the one reason for which it stands for no birth date. -/
theorem translate_failures (context : Context) (input : Text) :
    (∀ segment ∈ (translate context input).segments,
      (segment.failed = true ↔ segment.rule? = some "child" ∧
        (context.departure = none ∨ ∃ token, Rule.Captures segment.input token ∧
          ¬ BirthCode.Resolves context.currentYear token)) ∧
      (segment.failed = true → context.departure = none →
        segment.outcome = .failed (.missingDeparture "child" segment.input)) ∧
      (segment.failed = true → ∀ departure, context.departure = some departure →
        ∃ token matched cause, Rule.Captures segment.input token ∧
          segment.outcome = .failed (.unresolvableAge "child" matched token departure cause) ∧
          matched <+: segment.input ∧
          (∃ opener, Text.Spells "(CHD/".toList opener ∧ opener ++ token ++ [')'] <:+ matched) ∧
          ∀ fault, cause = fault ↔ BirthCode.FaultOf context.currentYear token fault) ∧
      ∀ failure, failure.Unreachable → segment.outcome ≠ .failed failure) ∧
    ∀ entry failure, failure.Unreachable →
      Table.standard.translateEntry context entry ≠ .failed failure := by
  refine ⟨fun segment member => ⟨failed_eq_true_iff member, ?_, ?_, ?_⟩, fun entry failure =>
    Table.not_translateEntry_of_unreachable⟩
  · intro failed missing
    obtain ⟨_, _, _, _, _, _, _, _, _, _, outcome, reason⟩ := exists_failureOf member failed
    cases reason with
    | undated _ => exact outcome
    | unresolvable dated _ => cases missing.symm.trans dated
  · intro failed departure dated
    obtain ⟨record, name, mark, title, gap, opener, token, rest, _, isRecord, outcome, reason⟩ :=
      exists_failureOf member failed
    have captures : Rule.Captures segment.input token :=
      ⟨record, name, mark, title, gap, opener, rest, isRecord⟩
    cases reason with
    | undated missing => cases missing.symm.trans dated
    | unresolvable dated' fault =>
      cases dated.symm.trans dated'
      refine ⟨token, _, _, captures, outcome, ⟨rest, ?_⟩, ⟨opener, isRecord.isMark.opens, ?_⟩, ?_⟩
      · rw [isRecord.whole, isRecord.isMark.whole]
        simp
      · exact ⟨record ++ name ++ title ++ gap, by simp⟩
      · intro other
        constructor
        · rintro rfl
          exact fault
        · exact fault.unique captures.isToken
  · intro failure unreachable
    rw [outcome_of_mem_segments member]
    exact Table.not_apply_of_unreachable unreachable

/-- A long s makes a token that a pattern takes and that cannot be read, and what follows
the match is left out of the report. -/
example : (translate ⟨some ⟨2024, 6, 1, by decide⟩, ⟨2026, 1, 1, by decide⟩⟩
    "NM1A/B MR 1 nm1c/d mstr(chd/01ſEP15) vip".toList).segments.map Segment.outcome =
      [.translated "NM1" "-A/B MR".toList,
        .failed (.unresolvableAge "child" "nm1c/d mstr(chd/01ſEP15)".toList "01ſEP15".toList
          ⟨2024, 6, 1, by decide⟩ (.shape "01ſEP15".toList))] := by
  decide +kernel

end Shorthand
