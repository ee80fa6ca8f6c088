import Shorthand.Line.Translation
import Shorthand.Proofs.Entry.Opening
import Shorthand.Proofs.Text.Trimming

/-! Translating what was translated before. Whatever is shown for an entry is foreign to the
standard rules: an output for its first character, a failure for its marker, and an entry that
passed through because no rule takes it. So a second translation, in any context, trims the text
and does nothing else. -/
namespace Shorthand

theorem trimmed_of_opening {c : Char} (opening : c ∈ openings) : Text.Trimmed [c] := by
  have solid : (openings.all fun c => decide (Text.Trimmed [c])) = true := by decide
  exact of_decide_eq_true (List.all_eq_true.mp solid c opening)

/-- No rule takes an output without the blanks at its end. -/
theorem unclaimed_trim_of_opening {c : Char} (opening : c ∈ openings) (t : Text) :
    Unclaimed (Text.trim (c :: t)) := by
  have whole : Text.trim (c :: t) = c :: Text.trimEnd t :=
    Text.trim_append (trimmed_of_opening opening) (by simp) t
  rw [whole]
  exact unclaimed_of_opening opening _

theorem unclaimed_trim_of_marker {t : Text} (marked : Failure.marker <+: t) :
    Unclaimed t.trim := by
  obtain ⟨rest, rfl⟩ := marked
  rw [Text.trim_append (by decide) (by decide)]
  exact unclaimed_of_marker (List.prefix_append ..)

theorem Table.unclaimed_trim_text_apply (context : Context) {line : Text}
    (trimmed : line.trim = line) :
    Unclaimed (Table.standard.apply context line).text.trim := by
  rcases apply_shapes context line with
    ⟨passed, unclaimed⟩ | ⟨rule, c, rest, opening, translated⟩ | ⟨failure, failed⟩
  · rw [passed]
    show Unclaimed line.trim
    rwa [trimmed]
  · rw [translated]
    exact unclaimed_trim_of_opening opening rest
  · rw [failed]
    exact unclaimed_trim_of_marker failure.marker_prefix_message

/-- No rule takes what is shown for an entry. -/
theorem unclaimed_trim_translateEntry (context : Context) (entry : Text) :
    Unclaimed (translateEntry context entry).trim := by
  rw [translateEntry, Table.translateEntry]
  by_cases blank : entry.trim = []
  · rw [if_pos blank]
    exact unclaimed_nil
  · rw [if_neg blank]
    exact Table.unclaimed_trim_text_apply context
      (Text.trim_eq_self_iff.mpr (Text.trimmed_trim entry))

/-- What is shown for an entry, also for one that failed, passes through when it is translated
again, whatever the two contexts are. It loses the blanks at its ends and nothing else, since no
rule takes it. -/
theorem translateEntry_again (context context' : Context) (entry : Text) :
    Unclaimed (translateEntry context entry).trim ∧
      Table.standard.translateEntry context' (translateEntry context entry) =
        .unmatched (translateEntry context entry).trim ∧
      translateEntry context' (translateEntry context entry) =
        (translateEntry context entry).trim := by
  have unclaimed := unclaimed_trim_translateEntry context entry
  have again : Table.standard.translateEntry context' (translateEntry context entry) =
      .unmatched (translateEntry context entry).trim := by
    rw [Table.translateEntry]
    by_cases blank : (translateEntry context entry).trim = []
    · rw [if_pos blank, blank]
    · rw [if_neg blank, Table.apply_of_unclaimed unclaimed]
  refine ⟨unclaimed, again, ?_⟩
  rw [translateEntry, again]
  rfl

end Shorthand
