import Shorthand.Proofs.Entry.ChildFailure
import Shorthand.Proofs.Entry.InfantRecord
import Shorthand.Proofs.Entry.Precedence

/-! Text behind a passenger record. A record is over with its first mark, and no mark can begin
in front of that one by what is added behind it, so a longer line is the same record with more
text left over. The actions of the two passenger rules look at the parts of the record only.
What is reported is therefore the same, but for the failure that names the whole line. -/
namespace Shorthand

namespace Rule

theorem IsInfantRecord.append {line opener name code rest : Text}
    (isRecord : IsInfantRecord line opener name code rest) (t : Text) :
    IsInfantRecord (line ++ t) opener name code (rest ++ t) := by
  obtain ⟨rfl, opens, inline, token, unmarked⟩ := isRecord
  exact ⟨by simp, opens, inline, token, unmarked⟩

theorem IsChildMark.append {mark title gap opener code rest : Text}
    (isMark : IsChildMark mark title gap opener code rest) (t : Text) :
    IsChildMark (mark ++ t) title gap opener code (rest ++ t) := by
  obtain ⟨rfl, honorific, blank, opens, shaped⟩ := isMark
  exact ⟨by simp, honorific, blank, opens, shaped⟩

theorem IsChildRecord.append {line record name mark title gap opener code rest : Text}
    (isRecord : IsChildRecord line record name mark title gap opener code rest) (t : Text) :
    IsChildRecord (line ++ t) record name (mark ++ t) title gap opener code (rest ++ t) := by
  have unmarked := isRecord.unmarked
  obtain ⟨rfl, spells, inline, isMark, _⟩ := isRecord
  rw [List.append_assoc, List.append_assoc]
  exact isChildRecord_of_unmarked spells inline unmarked (isMark.append t)

end Rule

/-- The same outcome for a line and for a longer one, or a failure that names each of them. -/
inductive SameReading (line longer : Text) : Outcome → Outcome → Prop where
  | translated (rule : String) (output : Text) :
      SameReading line longer (.translated rule output) (.translated rule output)
  | unresolvable (rule : String) (matched code : Text) (departure : Date)
      (cause : BirthCode.Fault) :
      SameReading line longer (.failed (.unresolvableAge rule matched code departure cause))
        (.failed (.unresolvableAge rule matched code departure cause))
  | undated (rule : String) :
      SameReading line longer (.failed (.missingDeparture rule line))
        (.failed (.missingDeparture rule longer))

theorem SameReading.rule? {line longer : Text} {outcome outcome' : Outcome}
    (same : SameReading line longer outcome outcome') : outcome'.rule? = outcome.rule? := by
  cases same <;> rfl

/-- A child is reported alike on every line that goes on differently behind the mark. -/
theorem Rule.sameReading_child (context : Context)
    (line longer record name title gap opener token rest more : Text) :
    SameReading line longer
      (child.outcome context line ⟨[record, name, title, gap, opener, token, [')']], rest⟩)
      (child.outcome context longer ⟨[record, name, title, gap, opener, token, [')']], more⟩) := by
  cases dated : context.departure with
  | none =>
    rw [outcome_child_undated dated, outcome_child_undated dated]
    exact .undated "child"
  | some departure =>
    cases age : ageOn token departure context.currentYear with
    | ok years =>
      rw [outcome_child_of_age dated age, outcome_child_of_age dated age]
      exact .translated ..
    | error cause =>
      rw [outcome_child_of_error dated age, outcome_child_of_error dated age]
      exact .unresolvable ..

namespace Table

/-- Text behind an infant or a child never changes how the record is read: the same rule takes
the longer line, with the same output or for the same reason, and only a failure that names the
whole line names the longer one instead. -/
theorem apply_passenger_append {context : Context} {line : Text} {rule : String}
    (passenger : rule = "infant" ∨ rule = "child")
    (taken : (Table.standard.apply context line).rule? = some rule) (t : Text) :
    (Table.standard.apply context (line ++ t)).rule? = some rule ∧
      SameReading line (line ++ t) (Table.standard.apply context line)
        (Table.standard.apply context (line ++ t)) := by
  have same : SameReading line (line ++ t) (Table.standard.apply context line)
      (Table.standard.apply context (line ++ t)) := by
    rcases passenger with rfl | rfl
    · obtain ⟨found, decides⟩ :=
        @exists_decides_of_rule?_apply _ _ _ .infant nodup_names_standard (by decide) taken
      obtain ⟨opener, name, code, rest, isRecord, rfl⟩ :=
        Rule.match?_infant_iff.mp decides.matched
      rw [apply_of_decides context decides, apply_of_decides context (isRecord.append t).decides,
        Rule.outcome_infant, Rule.outcome_infant]
      exact .translated ..
    · obtain ⟨found, decides⟩ :=
        @exists_decides_of_rule?_apply _ _ _ .child nodup_names_standard (by decide) taken
      obtain ⟨record, name, mark, title, gap, opener, token, rest, isRecord, rfl⟩ :=
        Rule.match?_child_iff.mp decides.matched
      rw [apply_of_decides context decides, apply_of_decides context (isRecord.append t).decides]
      exact Rule.sameReading_child ..
  exact ⟨same.rule?.trans taken, same⟩

/-- A day that February lacks is reported, though a better record and a line follow. -/
theorem apply_passenger_append_of_second_record :
    (Table.standard.apply ⟨some ⟨2024, 6, 1, by decide⟩, ⟨2026, 1, 1, by decide⟩⟩
        "NM1A/B MR (CHD/31FEB15)".toList).rule? = some "child" ∧
      Table.standard.apply ⟨some ⟨2024, 6, 1, by decide⟩, ⟨2026, 1, 1, by decide⟩⟩
        ("NM1A/B MR (CHD/31FEB15)".toList ++ " MSTR (CHD/01JAN15)\n(INFC/D/01JAN23)".toList) =
          .failed (.unresolvableAge "child" "NM1A/B MR (CHD/31FEB15)".toList "31FEB15".toList
            ⟨2024, 6, 1, by decide⟩ (.date 2015 2 31)) := by
  have single : Table.standard.apply ⟨some ⟨2024, 6, 1, by decide⟩, ⟨2026, 1, 1, by decide⟩⟩
      "NM1A/B MR (CHD/31FEB15)".toList =
        .failed (.unresolvableAge "child" "NM1A/B MR (CHD/31FEB15)".toList "31FEB15".toList
          ⟨2024, 6, 1, by decide⟩ (.date 2015 2 31)) := by
    decide +kernel
  have taken := congrArg Outcome.rule? single
  have same := (apply_passenger_append (Or.inr rfl) taken
    " MSTR (CHD/01JAN15)\n(INFC/D/01JAN23)".toList).2
  rw [single] at same
  refine ⟨taken, ?_⟩
  generalize Table.standard.apply _ (_ ++ _) = outcome at same ⊢
  cases same
  rfl

end Table
end Shorthand
