import Shorthand.Proofs.Text.Parts
import Shorthand.Proofs.Text.Trimming

/-! The lines of a text as far as they hold something. What stands on them, the blanks around
it apart, is found by taking the text apart at its newlines alone: it does not matter whether
the last line is ended, nor whether a carriage return stands before a newline. So two texts put
one below the other have the lines of the first and then those of the second. -/
namespace Shorthand.Text

/-- Some line of the text is not blank. -/
def Filled (t : Text) : Prop := ∃ line ∈ t.lines, line.blank = false

/-- The lines that are not blank. -/
def filledLines (t : Text) : List Text := t.lines.filter fun line => !line.blank

/-- What stands on the lines that are not blank, without the blanks around it. -/
def trimmedLines (t : Text) : List Text := ((t.splitOn '\n').map trim).filter (· ≠ [])

/-- The text with a carriage return before every newline. -/
def withReturns (t : Text) : Text := t.flatMap fun c => if c = '\n' then ['\r', '\n'] else [c]

/-- A blank at the end of a text is trimmed away. -/
theorem trim_append_singleton {c : Char} (space : isBlank c = true) (t : Text) :
    trim (t ++ [c]) = trim t := by
  by_cases blank : t.blank = true
  · have all : (t ++ [c]).blank = true := by
      rw [blank_append, blank]
      simp [Text.blank, space]
    rw [(trim_eq_nil_iff _).mpr blank, (trim_eq_nil_iff _).mpr all]
  · have start : trimStart (t ++ [c]) = trimStart t ++ [c] := by
      have solid : (t.dropWhile isBlank).isEmpty = false := by
        rw [List.isEmpty_eq_false_iff]
        exact fun none => blank ((dropWhile_isBlank_eq_nil_iff t).mp none)
      rw [trimStart, List.dropWhile_append, solid]
      rfl
    rw [trim, start]
    exact List.rdropWhile_concat_pos isBlank (trimStart t) c space

theorem trim_dropReturn (line : Text) : (dropReturn line).trim = line.trim := by
  unfold dropReturn
  split
  · next ends =>
    conv_rhs => rw [← List.dropLast_append_getLast? '\r' ends]
    exact (trim_append_singleton rfl _).symm
  · rfl

private theorem filter_solid_map_trim (lines : List Text) :
    (lines.filter fun line => !line.blank).map trim = (lines.map trim).filter (· ≠ []) := by
  rw [List.filter_map]
  congr 2
  funext line
  rw [Bool.eq_iff_iff]
  simp [trim_eq_nil_iff]

/-- What stands on the lines of a text is found between its newlines. -/
theorem map_trim_filledLines (t : Text) : t.filledLines.map trim = t.trimmedLines := by
  obtain ⟨ended, last, parts⟩ : ∃ ended last, t.splitOn '\n' = ended ++ [last] :=
    ⟨_, _, (List.dropLast_append_getLast (List.splitOn_ne_nil '\n' t)).symm⟩
  have returns : (ended.map dropReturn).map trim = ended.map trim := by
    rw [List.map_map]
    exact List.map_congr_left fun line _ => trim_dropReturn line
  rw [filledLines, filter_solid_map_trim, trimmedLines, lines, parts, List.dropLast_concat,
    List.getLast?_concat, List.map_append, List.map_append, List.filter_append, List.filter_append,
    returns]
  by_cases empty : last = []
  · subst empty
    rfl
  · simp [empty]

theorem filledLines_eq_nil_iff {t : Text} : t.filledLines = [] ↔ ¬ t.Filled := by
  simp [filledLines, List.filter_eq_nil_iff, Filled]

theorem trimmedLines_eq_nil_iff {t : Text} : t.trimmedLines = [] ↔ ¬ t.Filled := by
  rw [← filledLines_eq_nil_iff, ← map_trim_filledLines, List.map_eq_nil_iff]

theorem trimmedLines_append_newline (a b : Text) :
    trimmedLines (a ++ '\n' :: b) = trimmedLines a ++ trimmedLines b := by
  rw [trimmedLines, List.splitOn_append_cons_self, List.map_append, List.filter_append]
  rfl

theorem Filled.append_newline {a : Text} (filled : a.Filled) (b : Text) :
    (a ++ '\n' :: b).Filled := by
  by_contra blank
  have none := trimmedLines_eq_nil_iff.mpr blank
  rw [trimmedLines_append_newline, List.append_eq_nil_iff] at none
  exact trimmedLines_eq_nil_iff.mp none.1 filled

/-- A text on one line, with or without a carriage return behind it. -/
theorem trimmedLines_append_return {line : Text} (single : '\n' ∉ line) :
    trimmedLines (line ++ ['\r']) = trimmedLines line := by
  have still : '\n' ∉ line ++ ['\r'] := by simp [single]
  rw [trimmedLines, trimmedLines, List.splitOn_eq_singleton still, List.splitOn_eq_singleton single,
    List.map_singleton, List.map_singleton, trim_append_singleton rfl]

/-- Carriage returns before the newlines change nothing on the lines. -/
theorem trimmedLines_withReturns (t : Text) : trimmedLines (withReturns t) = trimmedLines t := by
  have kept : ∀ {line : Text}, '\n' ∉ line → withReturns line = line := by
    intro line single
    have same : ∀ c ∈ line, (if c = '\n' then ['\r', '\n'] else [c]) = [c] := by
      intro c member
      have other : c ≠ '\n' := fun newline => single (newline ▸ member)
      exact if_neg other
    rw [withReturns, List.flatMap_congr same]
    exact List.flatMap_singleton' line
  induction t using parts_induction '\n' with
  | single line single => rw [kept single]
  | more first rest single ih =>
    have ended : withReturns (first ++ '\n' :: rest) =
        (first ++ ['\r']) ++ '\n' :: withReturns rest := by
      rw [withReturns, List.flatMap_append, ← withReturns, kept single]
      simp [withReturns]
    rw [ended, trimmedLines_append_newline, trimmedLines_append_newline,
      trimmedLines_append_return single, ih]

theorem solid_of_mem_filledLines {t line : Text} (member : line ∈ t.filledLines) :
    line.blank = false := by
  simpa using (List.mem_filter.mp member).2

/-- No line holds a newline. -/
theorem not_mem_of_mem_lines {t line : Text} (member : line ∈ t.lines) : '\n' ∉ line := by
  rw [lines, List.mem_append] at member
  rcases member with ended | last
  · obtain ⟨part, among, rfl⟩ := List.mem_map.mp ended
    have absent := not_mem_of_mem_splitOn (List.dropLast_subset _ among)
    unfold dropReturn
    split
    · exact fun inside => absent (List.dropLast_subset _ inside)
    · exact absent
  · have among := Option.mem_toList.mp (List.mem_of_mem_filter last)
    exact not_mem_of_mem_splitOn (List.mem_of_getLast? among)

end Shorthand.Text
