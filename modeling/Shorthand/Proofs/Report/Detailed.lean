import Shorthand.Proofs.Line.Output
import Shorthand.Proofs.Line.Trace
import Shorthand.Proofs.Report.Decolored
import Shorthand.Report.Detailed

/-! What a report shows. Its parts are fixed words, numbers, the departure date, the line and its
segments with the names of their rules, and durations. None of them brings in the escape character:
where the line has none, no part of the report has one. -/
namespace Shorthand

theorem Numeral.escape_not_mem_decimal (n : Nat) : '\x1b' ∉ decimal n :=
  (Text.drawnFrom_decimal n).not_mem List.not_mem_nil (by decide)

namespace Duration

theorem escape_not_mem_fraction (places part : Nat) : '\x1b' ∉ fraction places part := by
  have digits : '\x1b' ∉ ((Numeral.padded places part).reverse.dropWhile (· == '0')).reverse := by
    have padded : '\x1b' ∉ Numeral.padded places part :=
      (Text.drawnFrom_padded places part).not_mem List.not_mem_nil (by decide)
    intro member
    exact padded (List.mem_reverse.mp
      ((List.dropWhile_subset _) (List.mem_reverse.mp member)))
  unfold fraction
  dsimp only
  split
  · exact List.not_mem_nil
  · rw [List.mem_cons, not_or]
    exact ⟨by decide, digits⟩

theorem escape_not_mem_inUnit (scale places : Nat) {unit : String}
    (named : '\x1b' ∉ unit.toList) (nanoseconds : Nat) :
    '\x1b' ∉ inUnit scale places unit nanoseconds :=
  List.not_mem_append (List.not_mem_append (Numeral.escape_not_mem_decimal _)
    (escape_not_mem_fraction places _)) named

theorem escape_not_mem_write (nanoseconds : Nat) : '\x1b' ∉ write nanoseconds := by
  unfold write
  repeat' split
  · exact escape_not_mem_inUnit 1000000000 9 (by decide) nanoseconds
  · exact escape_not_mem_inUnit 1000000 6 (by decide) nanoseconds
  · exact escape_not_mem_inUnit 1000 3 (by decide) nanoseconds
  · exact escape_not_mem_inUnit 1 0 (by decide) nanoseconds

end Duration

/-- Durations that are shown without the escape character. -/
structure Timing.Inert (timing : Timing) : Prop where
  total : '\x1b' ∉ timing.total
  split : '\x1b' ∉ timing.split
  segment : ∀ place, '\x1b' ∉ timing.segment place

/-- Measured durations are shown without it. -/
theorem Timing.inert_of_durations (total split : Nat) (segment : Nat → Nat) :
    Timing.Inert ⟨Duration.write total, Duration.write split,
      fun place => Duration.write (segment place)⟩ :=
  ⟨Duration.escape_not_mem_write total, Duration.escape_not_mem_write split,
    fun place => Duration.escape_not_mem_write (segment place)⟩

/-- A translation of which nothing that is shown has an escape character. -/
structure Translation.Inert (translation : Translation) : Prop where
  text : '\x1b' ∉ translation.text
  output : '\x1b' ∉ translation.output
  segment : ∀ segment ∈ translation.segments,
    '\x1b' ∉ segment.input ∧ '\x1b' ∉ segment.output ∧ '\x1b' ∉ segment.ruleName

/-- A line without the escape character is translated without it. -/
theorem inert_translate {line : Text} (inert : '\x1b' ∉ line) (context : Context) :
    (translate context line).Inert where
  text := inert
  output := not_mem_output inert (by decide) (by decide)
  segment segment member := by
    have input : '\x1b' ∉ segment.input :=
      fun inside => inert ((infix_of_mem_segments member).subset inside)
    have output := (drawnFrom_segment_output member).not_mem inert (by decide)
    have rule : '\x1b' ∉ segment.ruleName := by
      have names : ∀ name ∈ Segment.ruleNames, '\x1b' ∉ name := by decide
      exact names _ (ruleName_mem member)
    exact ⟨input, output, rule⟩

namespace Report

open Styled (Inert)

variable {timing : Timing}

theorem inert_title {text : String} (inert : '\x1b' ∉ text.toList) : Inert (title text) := by
  have before : '\x1b' ∉ "━━━ ".toList := by decide
  have after : '\x1b' ∉ " ━━━".toList := by decide
  exact .cons (List.not_mem_append (List.not_mem_append before inert) after) .nil

theorem inert_segmentLines (durations : timing.Inert) {segment : Segment}
    (input : '\x1b' ∉ segment.input) (output : '\x1b' ∉ segment.output)
    (rule : '\x1b' ∉ segment.ruleName) (place : Nat) :
    ∀ line ∈ segmentLines timing segment place, Inert line := by
  have number : '\x1b' ∉ '[' :: Numeral.decimal place ++ [']'] :=
    List.not_mem_append (List.not_mem_cons_of_ne_of_not_mem (by decide)
      (Numeral.escape_not_mem_decimal place)) (by decide)
  have outcome : Inert [.plain "  ", Tone.frame.span ('[' :: Numeral.decimal place ++ [']']),
      .plain " ", ⟨none, segment.input⟩, .plain " ", Tone.muted.span ['→'], .plain " ",
      (if segment.failed then Tone.failure else Tone.success).span segment.output] :=
    .cons (by decide) <| .cons number <| .cons (by decide) <| .cons input <| .cons (by decide) <|
      .cons (by decide) <| .cons (by decide) <| .cons output .nil
  have origin : Inert [.plain "      ", Tone.muted.span "rule:".toList, .plain " ",
      Tone.rule.span segment.ruleName, .plain "  ", Tone.muted.span ['│'], .plain " ",
      Tone.muted.span (timing.segment place)] :=
    .cons (by decide) <| .cons (by decide) <| .cons (by decide) <| .cons rule <|
      .cons (by decide) <| .cons (by decide) <| .cons (by decide) <|
      .cons (durations.segment place) .nil
  exact List.forall_mem_cons.mpr ⟨outcome, List.forall_mem_singleton.mpr origin⟩

variable {translation : Translation}

theorem inert_segments (durations : timing.Inert) (inert : translation.Inert) :
    ∀ line ∈ segments timing translation, Inert line := by
  unfold segments
  split
  · exact List.forall_mem_singleton.mpr (.cons (by decide) .nil)
  · dsimp only
    rw [List.forall_mem_append]
    constructor
    · have note : '\x1b' ∉ "passenger separator found, ".toList ++
          Numeral.decimal translation.segments.length ++ " segments".toList :=
        List.not_mem_append (List.not_mem_append (by decide) (Numeral.escape_not_mem_decimal _))
          (by decide)
      split
      · exact List.forall_mem_singleton.mpr (.cons (by decide) (.cons note .nil))
      · exact List.forall_mem_nil _
    · intro line member
      obtain ⟨⟨segment, place⟩, among, inside⟩ := List.mem_flatMap.mp member
      obtain ⟨input, output, rule⟩ := inert.segment segment (List.fst_mem_of_mem_zipIdx among)
      exact inert_segmentLines durations input output rule place line inside

theorem inert_lines (durations : timing.Inert) (departure : Option Date)
    (inert : translation.Inert) : ∀ line ∈ lines timing departure translation, Inert line := by
  have heading : '\x1b' ∉ "⚙  Translating: \"".toList ++ translation.text ++ ['"'] :=
    List.not_mem_append (List.not_mem_append (by decide) inert.text) (by decide)
  have departs : '\x1b' ∉ (departure.map Iso.write).getD "none".toList := by
    cases departure with
    | none => decide
    | some date => exact (Text.drawnFrom_isoDate date).not_mem List.not_mem_nil (by decide)
  have result : Inert [.plain "  ",
      (if translation.hasFailures then Tone.failure else Tone.strong).span translation.output] :=
    .cons (by decide) (.cons inert.output .nil)
  have total : Inert [.plain "  Total: ", Tone.success.span timing.total,
      .plain "  │  Split: ", Tone.muted.span timing.split] :=
    .cons (by decide) <| .cons durations.total <| .cons (by decide) <| .cons durations.split .nil
  unfold lines
  dsimp only
  rw [List.forall_mem_append, List.forall_mem_append]
  refine ⟨⟨?_, inert_segments durations inert⟩, ?_⟩
  · simp only [List.forall_mem_cons]
    exact ⟨.nil, .cons heading .nil,
      .cons (by decide) (.cons (by decide) (.cons (by decide) (.cons departs .nil))), .nil,
      inert_title (by decide), List.forall_mem_nil _⟩
  · simp only [List.forall_mem_cons]
    exact ⟨.nil, inert_title (by decide), result, .nil, inert_title (by decide), total, .nil,
      List.forall_mem_nil _⟩

/-- Where neither the translation nor a duration has an escape character, the report has none. -/
theorem inert_detailed (durations : timing.Inert) (departure : Option Date)
    (inert : translation.Inert) : Inert (detailed timing departure translation) :=
  Styled.inert_ofLines (inert_lines durations departure inert)

end Report
end Shorthand
