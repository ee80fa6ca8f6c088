import Shorthand.Line.Translation
import Shorthand.Proofs.Entry.Opening

/-! What the failure marker tells. No rule that succeeds begins its output like the marker, so a
text that is shown with the marker in front is the report of a failure, or it stood there before
and passed through. -/
namespace Shorthand

theorem not_marker_prefix_of_opening {c : Char} (opening : c ∈ openings) (t : Text) :
    ¬ Failure.marker <+: c :: t := by
  rintro ⟨rest, same⟩
  have letter : 'E' = c := (List.cons.inj same).1
  rw [← letter] at opening
  exact absurd opening (by decide)

namespace Table

theorem not_marker_prefix_of_translated {context : Context} {line output : Text} {rule : String}
    (translated : Table.standard.apply context line = .translated rule output) :
    ¬ Failure.marker <+: output := by
  rcases apply_shapes context line with
    ⟨passed, _⟩ | ⟨rule', c, rest, opening, translated'⟩ | ⟨failure, failed⟩
  · cases passed.symm.trans translated
  · cases translated'.symm.trans translated
    exact not_marker_prefix_of_opening opening rest
  · cases failed.symm.trans translated

/-- A line is shown with the marker in front if it fails, or if it has the marker itself and no
rule takes it. -/
theorem marker_prefix_text_apply_iff (context : Context) (line : Text) :
    Failure.marker <+: (Table.standard.apply context line).text ↔
      (Table.standard.apply context line).isFailure = true ∨
        ((Table.standard.apply context line).rule? = none ∧ Failure.marker <+: line) := by
  rcases apply_shapes context line with
    ⟨passed, _⟩ | ⟨rule, c, rest, opening, translated⟩ | ⟨failure, failed⟩
  · rw [passed]
    simp [Outcome.text, Outcome.isFailure, Outcome.rule?]
  · rw [translated]
    refine iff_of_false (not_marker_prefix_of_opening opening rest) ?_
    simp [Outcome.isFailure, Outcome.rule?]
  · rw [failed]
    exact iff_of_true failure.marker_prefix_message (Or.inl rfl)

end Table

/-- The marker stands in front of what is shown for an entry exactly when the entry failed, or
when no rule takes it and the marker is the entry's own. No rule that succeeds shows it. -/
theorem marker_prefix_translateEntry_iff (context : Context) (entry : Text) :
    (Failure.marker <+: translateEntry context entry ↔
      (Table.standard.translateEntry context entry).isFailure = true ∨
        ((Table.standard.translateEntry context entry).rule? = none ∧
          Failure.marker <+: entry.trim)) ∧
      ∀ (line : Text) (rule : String) (output : Text),
        Table.standard.apply context line = .translated rule output →
          ¬ Failure.marker <+: output := by
  refine ⟨?_, fun _ _ _ translated => Table.not_marker_prefix_of_translated translated⟩
  rw [translateEntry, Table.translateEntry]
  by_cases blank : entry.trim = []
  · simp [blank, Outcome.text, Outcome.isFailure, Outcome.rule?, Failure.marker]
  · rw [if_neg blank]
    exact Table.marker_prefix_text_apply_iff context entry.trim

/-- A child without a departure date is shown with the marker in front, an entry that repeats
such a report keeps it, and the code whose letters begin like the marker does not show it. -/
theorem marker_prefix_translateEntry_of_child_and_echo :
    (Failure.marker <+: translateEntry ⟨none, ⟨2026, 1, 1, by decide⟩⟩
        "NM1A/B MR(CHD/01JAN15)".toList) ∧
      (Failure.marker <+: translateEntry ⟨none, ⟨2026, 1, 1, by decide⟩⟩ " ERROR: SP".toList) ∧
      Table.standard.apply ⟨none, ⟨2026, 1, 1, by decide⟩⟩ "ER".toList =
        .translated "ER" ['*', 'R', 'R'] ∧ ¬ Failure.marker <+: ['*', 'R', 'R'] := by
  have translated : Table.standard.apply ⟨none, ⟨2026, 1, 1, by decide⟩⟩ "ER".toList =
      .translated "ER" ['*', 'R', 'R'] := by
    decide +kernel
  refine ⟨?_, ?_, translated, ?_⟩
  · exact (marker_prefix_translateEntry_iff _ _).1.mpr (Or.inl (by decide +kernel))
  · exact (marker_prefix_translateEntry_iff _ _).1.mpr
      (Or.inr ⟨by decide +kernel, by decide +kernel⟩)
  · exact (marker_prefix_translateEntry_iff _ []).2 _ _ _ translated

end Shorthand
