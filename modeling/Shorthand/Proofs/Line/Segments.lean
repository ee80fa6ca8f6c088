import Shorthand.Line.Translation
import Shorthand.Proofs.Passenger.Splitting

/-! Which texts the segments of a line hold. They are the pieces of the trimmed
line, in order and character for character, only that an empty piece at the end is
left out. Conversely every line that stacks trimmed texts at separators is split
into exactly these texts, whatever they begin with. -/
namespace Shorthand

namespace Stack

/-- The pieces of a line that are translated. -/
def entries (line : Text) : List Text := ((pieces line).map Text.trim).filter (· ≠ [])

/-- Every piece but the last ends with an honorific. -/
theorem endsInTitle_of_mem_dropLast {line piece : Text}
    (member : piece ∈ (pieces line).dropLast) : EndsInTitle piece := by
  obtain ⟨first, others, same, cutting⟩ := exists_isCutting line
  rw [same] at member
  exact cutting.titled piece member

/-- No blank stands at the ends of a piece of a trimmed line. -/
theorem trimmed_of_mem_pieces {line piece : Text} (trimmed : Text.Trimmed line)
    (member : piece ∈ pieces line) : Text.Trimmed piece := by
  obtain ⟨first, others, same, cutting⟩ := exists_isCutting line
  constructor
  · rw [same] at member
    rcases List.mem_cons.mp member with rfl | later
    · exact cutting.solidStart_iff.mp trimmed.1
    · obtain ⟨other, among, rfl⟩ := List.mem_map.mp later
      exact cutting.solid other among
  · rw [← List.dropLast_append_getLast (pieces_ne_nil line), List.mem_append] at member
    rcases member with inner | last
    · exact (endsInTitle_of_mem_dropLast inner).solidEnd
    · rw [List.mem_singleton.mp last]
      refine trimmed.2.of_suffix (cutting.last_suffix ?_)
      rw [← same, List.getLast?_eq_some_getLast (pieces_ne_nil line)]

/-- The pieces of a trimmed line are translated as they are, except an empty last one. -/
theorem entries_of_trimmed {line : Text} (trimmed : Text.Trimmed line) :
    entries line =
      if (pieces line).getLast? = some [] then (pieces line).dropLast else pieces line := by
  have kept : (pieces line).map Text.trim = pieces line := by
    conv_rhs => rw [← List.map_id (pieces line)]
    exact List.map_congr_left fun piece member =>
      Text.trim_eq_self_iff.mpr (trimmed_of_mem_pieces trimmed member)
  have inner : (pieces line).dropLast.filter (· ≠ []) = (pieces line).dropLast := by
    rw [List.filter_eq_self]
    intro piece member
    simpa using (endsInTitle_of_mem_dropLast member).ne_nil
  have nonempty := pieces_ne_nil line
  have whole := List.dropLast_append_getLast nonempty
  rw [entries, kept, List.getLast?_eq_some_getLast nonempty]
  split
  · next empty =>
    rw [Option.some.injEq] at empty
    conv_lhs => rw [← whole, List.filter_append, inner, empty]
    simp
  · next full =>
    rw [Option.some.injEq] at full
    conv_lhs => rw [← whole, List.filter_append, inner]
    simpa [full] using whole

/-- Nothing of a line is translated exactly when the line is empty. -/
theorem entries_eq_nil_iff {line : Text} (trimmed : Text.Trimmed line) :
    entries line = [] ↔ line = [] := by
  rw [entries_of_trimmed trimmed]
  constructor
  · intro none
    split at none
    · next empty =>
      obtain ⟨first, others, same, cutting⟩ := exists_isCutting line
      cases others with
      | nil =>
        rw [same] at empty
        cases empty
        exact (isCutting_nil_iff.mp cutting).1
      | cons other others => simp [same] at none
    · exact absurd none (pieces_ne_nil line)
  · rintro rfl
    simp [pieces_of_firstCut_none (show firstCut [] = none from rfl)]

/-- An entry of a trimmed line is one of its pieces: it is trimmed, not empty and has
nothing to split. -/
theorem entry_of_mem {line entry : Text} (trimmed : Text.Trimmed line)
    (member : entry ∈ entries line) :
    Text.Trimmed entry ∧ entry ≠ [] ∧ isStacked entry = false := by
  obtain ⟨inside, full⟩ := List.mem_filter.mp member
  obtain ⟨piece, among, rfl⟩ := List.mem_map.mp inside
  have ends := trimmed_of_mem_pieces trimmed among
  rw [Text.trim_eq_self_iff.mpr ends] at full ⊢
  exact ⟨ends, by simpa using full, isStacked_of_mem_pieces among⟩

/-- An entry stands in its line as it is. -/
theorem infix_of_mem_entries {line entry : Text} (member : entry ∈ entries line) :
    entry <:+: line := by
  obtain ⟨piece, among, rfl⟩ := List.mem_map.mp (List.mem_of_mem_filter member)
  exact (Text.trim_isInfix piece).trans (infix_of_mem_pieces among)

/-- A text with nothing to trim and nothing to split is its own only entry. -/
theorem entries_of_single {t : Text} (trimmed : Text.Trimmed t) (nonempty : t ≠ [])
    (single : isStacked t = false) : entries t = [t] := by
  have whole : pieces t = [t] :=
    pieces_of_firstCut_none (firstCut_eq_none_iff.mpr (isStacked_eq_false_iff.mp single))
  rw [entries_of_trimmed trimmed, whole, if_neg (by simpa using nonempty)]

/-- Texts that can be put on one line: each is trimmed, not empty and has nothing to
split, and all but the last end with an honorific. -/
structure Stackable (first : Text) (others : List (Text × Text)) : Prop where
  separators : ∀ other ∈ others, IsSeparator other.1
  nonempty : ∀ text ∈ first :: others.map Prod.snd, text ≠ []
  trimmed : ∀ text ∈ first :: others.map Prod.snd, Text.Trimmed text
  single : ∀ text ∈ first :: others.map Prod.snd, ¬ HoldsSeparator text
  titled : ∀ text ∈ (first :: others.map Prod.snd).dropLast, EndsInTitle text

theorem Stackable.isCutting {first : Text} {others : List (Text × Text)}
    (stackable : Stackable first others) : IsCutting (stack first others) first others := by
  refine ⟨rfl, stackable.separators, stackable.titled, ?_, stackable.single⟩
  intro other member
  exact (stackable.trimmed other.2
    (List.mem_cons_of_mem _ (List.mem_map_of_mem member))).1

theorem Stackable.trimmed_stack {first : Text} {others : List (Text × Text)}
    (stackable : Stackable first others) : Text.Trimmed (stack first others) := by
  have cutting := stackable.isCutting
  refine ⟨cutting.solidStart_iff.mpr (stackable.trimmed first (by simp)).1, ?_⟩
  have isLast := List.getLast?_eq_some_getLast (List.cons_ne_nil first (others.map Prod.snd))
  have member := List.mem_of_getLast? isLast
  obtain ⟨front, whole⟩ := cutting.last_suffix isLast
  rw [← whole]
  exact (Text.solidEnd_append (stackable.nonempty _ member)).mpr (stackable.trimmed _ member).2

end Stack

@[simp] theorem continueRecord_map_input (segments : List Segment) :
    (continueRecord segments).map Segment.input = segments.map Segment.input := by
  cases segments with
  | nil => rfl
  | cons first others => simp [continueRecord, Segment.continued, Function.comp_def]

/-- The segments of a line hold its entries, whether or not dashes are put in front. -/
theorem translate_map_input (context : Context) (input : Text) :
    (translate context input).segments.map Segment.input = Stack.entries input.trim := by
  have plain : (Table.standard.segments context input.trim).map Segment.input =
      Stack.entries input.trim := by
    simp [Table.segments, Stack.entries, Function.comp_def]
  rw [translate, Table.translate]
  dsimp only
  split
  · rw [continueRecord_map_input, plain]
  · exact plain

/-- A line with nothing to split is translated as one entry. -/
theorem translate_of_single (context : Context) {line : Text} (trimmed : Text.Trimmed line)
    (nonempty : line ≠ []) (single : Stack.isStacked line = false) :
    (translate context line).stacked = false ∧ (translate context line).segments =
      [⟨line, Table.standard.translateEntry context line, false⟩] := by
  have entries := Stack.entries_of_single trimmed nonempty single
  rw [Stack.entries] at entries
  rw [translate, Table.translate]
  dsimp only
  rw [Text.trim_eq_self_iff.mpr trimmed, single, Table.segments, entries]
  exact ⟨rfl, rfl⟩

/-- Nothing of a line is lost, and it is split wherever an honorific, blanks and a 1
follow one another. The segments are the pieces of the trimmed line as they stand. -/
theorem split_exact :
    (∀ t : Text, (Stack.isStacked t = false ↔ ¬ Stack.HoldsSeparator t) ∧
      (Stack.isStacked t = true → ∃ first others, others ≠ [] ∧
        Stack.pieces t = first :: others.map Prod.snd ∧ Stack.IsCutting t first others ∧
          ∀ piece ∈ Stack.pieces t, Stack.isStacked piece = false)) ∧
    ∀ (context : Context) (input : Text),
      (Stack.isStacked input.trim = false → Stack.pieces input.trim = [input.trim]) ∧
      (∀ piece ∈ Stack.pieces input.trim, piece.trim = piece) ∧
      (translate context input).segments.map Segment.input =
        (if (Stack.pieces input.trim).getLast? = some [] then (Stack.pieces input.trim).dropLast
          else Stack.pieces input.trim) ∧
      ((translate context input).segments = [] ↔ ∀ c ∈ input, Text.isBlank c = true) := by
  constructor
  · intro t
    refine ⟨Stack.isStacked_eq_false_iff, fun stacked => ?_⟩
    obtain ⟨first, others, same, cutting⟩ := Stack.exists_isCutting t
    refine ⟨first, others, ?_, same, cutting, fun _ => Stack.isStacked_of_mem_pieces⟩
    rintro rfl
    rw [Stack.isStacked_eq_true_iff_length, same] at stacked
    simp at stacked
  · intro context input
    have trimmed := Text.trimmed_trim input
    have inputs := translate_map_input context input
    refine ⟨fun single => ?_, fun piece member => ?_, ?_, ?_⟩
    · exact Stack.pieces_of_firstCut_none
        (Stack.firstCut_eq_none_iff.mpr (Stack.isStacked_eq_false_iff.mp single))
    · exact Text.trim_eq_self_iff.mpr (Stack.trimmed_of_mem_pieces trimmed member)
    · rw [inputs, Stack.entries_of_trimmed trimmed]
    · rw [← List.map_eq_nil_iff (f := Segment.input), inputs, Stack.entries_eq_nil_iff trimmed,
        Text.trim_eq_nil_iff, Text.blank_iff]

/-- Splitting undoes stacking: texts put on one line with separators between them are
its segments again, whatever they begin with. -/
theorem segments_stack (context : Context) {first : Text} {others : List (Text × Text)}
    (stackable : Stack.Stackable first others) :
    (translate context (Stack.stack first others)).segments.map Segment.input =
        first :: others.map Prod.snd ∧
      ((translate context (Stack.stack first others)).stacked = true ↔
        2 ≤ (first :: others.map Prod.snd).length) := by
  have trimmed := stackable.trimmed_stack
  have unchanged := Text.trim_eq_self_iff.mpr trimmed
  have texts := Stack.pieces_of_isCutting stackable.isCutting
  constructor
  · have full : (first :: others.map Prod.snd).getLast? ≠ some [] := by
      intro empty
      exact stackable.nonempty _ (List.mem_of_getLast? empty) rfl
    rw [translate_map_input, unchanged, Stack.entries_of_trimmed trimmed, texts, if_neg full]
  · show Stack.isStacked (Stack.stack first others).trim = true ↔ _
    rw [unchanged, Stack.isStacked_eq_true_iff_length, texts]

/-- Four passengers, of whom one begins with the digit 1 and one with `NM1`. -/
theorem segments_stack_four :
    Stack.Stackable "NM1KIM/MINSU mr".toList [(" 1\t".toList, "1LEE/A MIſS".toList),
        (['1'], "NM1C/D MSTR".toList), ("\u30001 ".toList, "MR X".toList)] ∧
      (translate ⟨none, ⟨2026, 1, 1, by decide⟩⟩
        "NM1KIM/MINSU mr 1\t1LEE/A MIſS1NM1C/D MSTR\u30001 MR X".toList).segments.map
          Segment.input = ["NM1KIM/MINSU mr".toList, "1LEE/A MIſS".toList,
            "NM1C/D MSTR".toList, "MR X".toList] ∧
      (translate ⟨none, ⟨2026, 1, 1, by decide⟩⟩
        "NM1KIM/MINSU mr 1\t1LEE/A MIſS1NM1C/D MSTR\u30001 MR X".toList).stacked = true := by
  have stackable : Stack.Stackable "NM1KIM/MINSU mr".toList
      [(" 1\t".toList, "1LEE/A MIſS".toList), (['1'], "NM1C/D MSTR".toList),
        ("\u30001 ".toList, "MR X".toList)] := by
    refine ⟨?_, by decide +kernel, by decide +kernel, ?_, ?_⟩
    · simp only [List.forall_mem_cons]
      exact ⟨⟨[' '], ['\t'], rfl, rfl, rfl⟩, ⟨[], [], rfl, rfl, rfl⟩,
        ⟨['\u3000'], [' '], rfl, rfl, rfl⟩, by simp⟩
    · have whole : ∀ text ∈ ["NM1KIM/MINSU mr".toList, "1LEE/A MIſS".toList,
          "NM1C/D MSTR".toList, "MR X".toList], Stack.isStacked text = false := by decide +kernel
      exact fun text member => Stack.isStacked_eq_false_iff.mp (whole text member)
    · simp only [List.map_cons, List.map_nil, List.dropLast_cons_cons, List.dropLast_singleton,
        List.forall_mem_cons]
      exact ⟨⟨['m', 'r'], by decide +kernel, by decide +kernel⟩,
        ⟨['M', 'I', 'ſ', 'S'], by decide +kernel, by decide +kernel⟩,
        ⟨['M', 'S', 'T', 'R'], by decide +kernel, by decide +kernel⟩, by simp⟩
  have line : Stack.stack "NM1KIM/MINSU mr".toList [(" 1\t".toList, "1LEE/A MIſS".toList),
      (['1'], "NM1C/D MSTR".toList), ("\u30001 ".toList, "MR X".toList)] =
        "NM1KIM/MINSU mr 1\t1LEE/A MIſS1NM1C/D MSTR\u30001 MR X".toList := by decide +kernel
  obtain ⟨inputs, stacked⟩ := segments_stack ⟨none, ⟨2026, 1, 1, by decide⟩⟩ stackable
  rw [line] at inputs stacked
  exact ⟨stackable, inputs, stacked.mpr (by decide)⟩

end Shorthand
