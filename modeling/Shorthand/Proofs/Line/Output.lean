import Shorthand.Proofs.Entry.Opening
import Shorthand.Proofs.Entry.Vocabulary
import Shorthand.Proofs.Line.Failures
import Shorthand.Proofs.Text.Parts

/-! The output of a whole line. The outputs of its segments are joined by a section sign, which
is none of the characters that translation adds. So where the line itself has no section sign
the output can be taken apart again, and since no segment is shown as nothing, no output is
lost in it. -/
namespace Shorthand

/-- Something is shown for every line that is not empty. -/
theorem Table.text_apply_ne_nil (context : Context) {line : Text} (nonempty : line ≠ []) :
    (Table.standard.apply context line).text ≠ [] := by
  rcases apply_shapes context line with
    ⟨passed, _⟩ | ⟨rule, c, rest, _, translated⟩ | ⟨failure, failed⟩
  · rw [passed]
    exact nonempty
  · rw [translated]
    exact List.cons_ne_nil c rest
  · rw [failed]
    exact List.append_ne_nil_of_left_ne_nil (List.cons_ne_nil _ _) _

variable {context : Context} {input : Text} {segment : Segment}

theorem segment_output_ne_nil (member : segment ∈ (translate context input).segments) :
    segment.output ≠ [] := by
  have shown : segment.outcome.text ≠ [] := by
    rw [outcome_of_mem_segments member]
    exact Table.text_apply_ne_nil context (translate_segment_input member).2.2.1
  unfold Segment.output
  split
  · exact List.cons_ne_nil _ _
  · exact shown

/-- The input of a segment stands in the line as it is. -/
theorem infix_of_mem_segments (member : segment ∈ (translate context input).segments) :
    segment.input <:+: input := by
  have among : segment.input ∈ Stack.entries input.trim := by
    rw [← translate_map_input context input]
    exact List.mem_map_of_mem member
  exact (Stack.infix_of_mem_entries among).trans (Text.trim_isInfix input)

/-- Every character that is shown for a segment stands in the line or is the library's own. -/
theorem drawnFrom_segment_output (member : segment ∈ (translate context input).segments) :
    Text.DrawnFrom input segment.output := by
  have drawn : Text.DrawnFrom input segment.outcome.text := by
    rw [outcome_of_mem_segments member]
    exact (Table.drawnFrom_apply context segment.input).mono (infix_of_mem_segments member).subset
  unfold Segment.output
  split
  · exact drawn.cons rfl
  · exact drawn

/-- A foreign character that the line lacks is not in its output, section signs apart. -/
theorem not_mem_output {c : Char} (absent : c ∉ input) (foreign : Text.isOwn c = false)
    (other : c ≠ '§') : c ∉ (translate context input).output := by
  intro member
  rcases Text.mem_of_mem_intercalate member with same | ⟨part, among, inside⟩
  · exact other same
  · obtain ⟨segment, isSegment, rfl⟩ := List.mem_map.mp among
    exact (drawnFrom_segment_output isSegment).not_mem absent foreign inside

/-- A line that is not blank has a segment. -/
theorem segments_ne_nil (context : Context) (solid : input.blank = false) :
    (translate context input).segments ≠ [] := by
  intro none
  have entries : Stack.entries input.trim = [] := by
    rw [← translate_map_input context input, none, List.map_nil]
  rw [Stack.entries_eq_nil_iff (Text.trimmed_trim input), Text.trim_eq_nil_iff, solid] at entries
  cases entries

/-- The output of a line without a section sign is taken apart at its section signs into the
outputs of the segments, none of which is empty. -/
theorem splitOn_output (context : Context) {input : Text} (solid : input.blank = false)
    (unmarked : '§' ∉ input) :
    (translate context input).output.splitOn '§' =
        (translate context input).segments.map Segment.output ∧
      (∀ segment ∈ (translate context input).segments, segment.output ≠ []) ∧
        (translate context input).output.count '§' = (translate context input).segments.length - 1 ∧
          1 ≤ (translate context input).segments.length := by
  have nonempty := segments_ne_nil context solid
  have parts : (translate context input).output.splitOn '§' =
      (translate context input).segments.map Segment.output := by
    refine List.splitOn_intercalate '§' ?_ (by simpa using nonempty)
    intro output among
    obtain ⟨segment, member, rfl⟩ := List.mem_map.mp among
    exact (drawnFrom_segment_output member).not_mem unmarked (by decide)
  have count := congrArg List.length parts
  rw [Text.length_splitOn, List.length_map] at count
  refine ⟨parts, fun segment member => segment_output_ne_nil member, by omega, by omega⟩

/-- A name record, an availability line and a child without a departure date, on one line. -/
theorem splitOn_output_three :
    Text.blank "NM1A/B MR 1 anX/AKE ms 1NM1E/F MS(CHD/01JAN15)".toList = false ∧
      '§' ∉ "NM1A/B MR 1 anX/AKE ms 1NM1E/F MS(CHD/01JAN15)".toList ∧
      (translate ⟨none, ⟨2026, 1, 1, by decide⟩⟩
          "NM1A/B MR 1 anX/AKE ms 1NM1E/F MS(CHD/01JAN15)".toList).output.splitOn '§' =
        ["-A/B MR".toList, "1X¤KE ms".toList, ("-ERROR: departure date required to apply rule " ++
          "'child' to 'NM1E/F MS(CHD/01JAN15)'").toList] ∧
      (translate ⟨none, ⟨2026, 1, 1, by decide⟩⟩
          "NM1A/B MR 1 anX/AKE ms 1NM1E/F MS(CHD/01JAN15)".toList).output.count '§' = 2 := by
  have solid : Text.blank "NM1A/B MR 1 anX/AKE ms 1NM1E/F MS(CHD/01JAN15)".toList = false := by
    decide
  have unmarked : '§' ∉ "NM1A/B MR 1 anX/AKE ms 1NM1E/F MS(CHD/01JAN15)".toList := by decide
  obtain ⟨parts, _, count, _⟩ := splitOn_output ⟨none, ⟨2026, 1, 1, by decide⟩⟩ solid unmarked
  refine ⟨solid, unmarked, ?_, ?_⟩
  · rw [parts]
    decide +kernel
  · rw [count]
    decide +kernel

end Shorthand
