import Shorthand.Text.Quoted

/-! A quoted text stands on one line. A newline is written by two other characters, and a code
point by its hexadecimal digits. Letters, digits and the other visible characters of ASCII stand
for themselves, quotes and backslashes apart. -/
namespace Shorthand.Quoted

theorem newline_not_mem_hexadecimal (n : Nat) : '\n' ∉ Nat.toDigits 16 n := by
  have digit : ∀ d < 16, Nat.digitChar d ≠ '\n' := by decide
  induction n using Nat.strongRecOn with
  | ind n ih =>
    rw [Nat.toDigits_eq_if (by decide)]
    split
    · next small =>
      rw [List.mem_singleton]
      exact (digit n small).symm
    · next large =>
      rw [List.mem_append, List.mem_singleton, not_or]
      exact ⟨ih (n / 16) (by omega), (digit (n % 16) (Nat.mod_lt n (by decide))).symm⟩

theorem newline_not_mem_codePoint (c : Char) : '\n' ∉ codePoint c := by
  rw [codePoint, List.mem_append, List.mem_append, not_or, not_or]
  exact ⟨⟨by decide, newline_not_mem_hexadecimal c.toNat⟩, by decide⟩

theorem newline_not_mem_escape (c : Char) : '\n' ∉ escape c := by
  unfold escape
  split
  case h_7 other _ _ =>
    split
    · rw [List.mem_singleton]
      exact fun same => other same.symm
    · exact newline_not_mem_codePoint c
  all_goals decide

/-- Whatever is quoted, no newline is written. -/
theorem newline_not_mem_write (t : Text) : '\n' ∉ write t := by
  rw [write, List.mem_append, List.mem_cons, List.mem_flatMap]
  rintro ((same | ⟨c, _, inside⟩) | last)
  · cases same
  · exact newline_not_mem_escape c inside
  · exact absurd last (by decide)

/-- The characters of ASCII from the blank on that are written as they are. -/
def isVisible (c : Char) : Bool :=
  (0x20 ≤ c.toNat && c.toNat ≤ 0x7E) && (c != '"' && c != '\\')

/-- No range of the table reaches from the blank to the end of visible ASCII. -/
def sparesVisible (ranges : List (Nat × Nat)) : Bool :=
  ranges.all fun range => range.2 < 0x20 || 0x7E < range.1

theorem not_within_of_sparesVisible {ranges : List (Nat × Nat)} {c : Char}
    (spares : sparesVisible ranges = true) (visible : isVisible c = true) :
    Property.within ranges c.toNat = false := by
  simp only [isVisible, Bool.and_eq_true, decide_eq_true_eq] at visible
  rw [Property.within, List.any_eq_false]
  intro range member
  have apart := List.all_eq_true.mp spares range member
  simp only [Bool.or_eq_true, decide_eq_true_eq] at apart
  simp only [Bool.and_eq_true, decide_eq_true_eq]
  omega

theorem escape_of_visible {c : Char} (visible : isVisible c = true) : escape c = [c] := by
  have plain : isPlain c = true := by
    rw [isPlain, not_within_of_sparesVisible (by decide +kernel) visible,
      not_within_of_sparesVisible (by decide +kernel) visible,
      not_within_of_sparesVisible (by decide +kernel) visible]
    rfl
  unfold escape
  split
  case h_7 => rw [if_pos plain]
  all_goals cases visible

theorem flatMap_escape_of_visible {t : Text} (visible : t.all isVisible = true) :
    t.flatMap escape = t := by
  induction t with
  | nil => rfl
  | cons c t ih =>
    rw [List.all_cons, Bool.and_eq_true] at visible
    rw [List.flatMap_cons, escape_of_visible visible.1, ih visible.2, List.singleton_append]

/-- A text of such characters is written as it is. -/
theorem write_of_visible {t : Text} (visible : t.all isVisible = true) :
    write t = '"' :: t ++ ['"'] := by
  rw [write, flatMap_escape_of_visible visible]

/-- Between two such texts a newline is written by a backslash and a letter. -/
theorem write_of_two_lines {s t : Text} (first : s.all isVisible = true)
    (second : t.all isVisible = true) :
    write (s ++ '\n' :: t) = '"' :: (s ++ '\\' :: 'n' :: t) ++ ['"'] := by
  rw [write, List.flatMap_append, List.flatMap_cons, flatMap_escape_of_visible first,
    flatMap_escape_of_visible second]
  rfl

end Shorthand.Quoted
