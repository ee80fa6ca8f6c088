import Mathlib.Data.List.DropRight
import Mathlib.Data.List.TakeWhile
import Shorthand.Text.Basic

/-! Trimming leaves a text alone exactly when no blank stands at its ends, so a
second trimming never removes anything. A run of characters of one kind is also
the only such run at the front of a text when a character of another kind, or
nothing at all, follows it, and no run reaches across a character that it lacks. -/
namespace Shorthand.Text

/-- The text does not begin with a blank. The empty text does not. -/
def SolidStart (t : Text) : Prop := ∀ c ∈ t.head?, isBlank c = false

/-- The text does not end with a blank. -/
def SolidEnd (t : Text) : Prop := ∀ c ∈ t.getLast?, isBlank c = false

/-- No blank stands at either end of the text. -/
def Trimmed (t : Text) : Prop := SolidStart t ∧ SolidEnd t

instance (t : Text) : Decidable (SolidStart t) := Option.decidableForallMem _

instance (t : Text) : Decidable (SolidEnd t) := Option.decidableForallMem _

instance (t : Text) : Decidable (Trimmed t) := inferInstanceAs (Decidable (_ ∧ _))

theorem blank_iff {t : Text} : blank t = true ↔ ∀ c ∈ t, isBlank c = true := by
  simp [blank, List.all_eq_true]

@[simp] theorem blank_append (s t : Text) : blank (s ++ t) = (blank s && blank t) := by
  simp [blank, List.all_append]

theorem blank_concat {t : Text} {c : Char} (blank : t.blank = true) (space : isBlank c = true) :
    (t ++ [c]).blank = true := by
  rw [blank_append, blank, Text.blank, List.all_cons, space]
  rfl

theorem not_blank_of_mem {t : Text} {c : Char} (member : c ∈ t) (solid : isBlank c = false) :
    ¬ t.blank = true := by
  intro blank
  rw [blank_iff.mp blank c member] at solid
  cases solid

@[simp] theorem solidStart_cons {c : Char} {t : Text} :
    SolidStart (c :: t) ↔ isBlank c = false := by
  simp [SolidStart]

theorem solidStart_append {s t : Text} (nonempty : s ≠ []) :
    SolidStart (s ++ t) ↔ SolidStart s := by
  cases s with
  | nil => exact absurd rfl nonempty
  | cons c s => simp

theorem solidEnd_append {s t : Text} (nonempty : t ≠ []) : SolidEnd (s ++ t) ↔ SolidEnd t := by
  rw [SolidEnd, SolidEnd, List.getLast?_append_of_ne_nil _ nonempty]

theorem SolidEnd.of_suffix {s t : Text} (solid : SolidEnd t) (suffix : s <:+ t) :
    SolidEnd s := by
  obtain ⟨front, rfl⟩ := suffix
  by_cases none : s = []
  · subst none
    simp [SolidEnd]
  · exact (solidEnd_append none).mp solid

theorem solidStart_dropWhile (t : Text) : SolidStart (t.dropWhile isBlank) := by
  intro c head
  have stopped := List.head?_dropWhile_not isBlank t
  rw [Option.mem_def.mp head] at stopped
  exact stopped

/-- A run of one kind of characters at the front of a text is unique if another
kind follows it. -/
theorem run_unique {kind : Char → Bool} {a b x y : Text} (aRun : ∀ c ∈ a, kind c = true)
    (bRun : ∀ c ∈ b, kind c = true) (xStops : ∀ c ∈ x.head?, kind c = false)
    (yStops : ∀ c ∈ y.head?, kind c = false) (same : a ++ x = b ++ y) : a = b ∧ x = y := by
  have taken : ∀ {run stop : Text}, (∀ c ∈ run, kind c = true) →
      (∀ c ∈ stop.head?, kind c = false) → (run ++ stop).takeWhile kind = run := by
    intro run stop all stops
    rw [List.takeWhile_append_of_pos all]
    cases stop with
    | nil => simp
    | cons c stop => simp [stops c (by simp)]
  have runs : a = b := by rw [← taken aRun xStops, same, taken bRun yStops]
  subst runs
  exact ⟨rfl, List.append_cancel_left same⟩

/-- Blanks at the front of a text are all of its leading blanks if no further one
follows. -/
theorem blanks_unique {a b x y : Text} (aBlank : blank a = true) (bBlank : blank b = true)
    (xSolid : SolidStart x) (ySolid : SolidStart y) (same : a ++ x = b ++ y) : a = b ∧ x = y :=
  run_unique (blank_iff.mp aBlank) (blank_iff.mp bBlank) xSolid ySolid same

/-- What begins a text and lacks one of its characters ends before that character. -/
theorem prefix_before {run front back : Text} {c : Char} (starts : run <+: front ++ c :: back)
    (absent : c ∉ run) : run <+: front := by
  obtain ⟨rest, same⟩ := starts
  rcases List.append_eq_append_iff.mp same with ⟨middle, whole, _⟩ | ⟨middle, rfl, later⟩
  · exact ⟨middle, whole.symm⟩
  · cases middle with
    | nil => simp
    | cons d middle =>
      rw [List.cons_append, List.cons.injEq] at later
      exact absurd (by simp [later.1]) absent

/-- What goes up to a character that the end of a text lacks is over before that end. -/
theorem prefix_through {before after front back : Text} {c : Char}
    (same : before ++ c :: after = front ++ back) (absent : c ∉ back) :
    before ++ [c] <+: front := by
  rcases List.append_eq_append_iff.mp same with ⟨middle, rfl, later⟩ | ⟨middle, _, rfl⟩
  · cases middle with
    | nil =>
      rw [List.nil_append] at later
      subst later
      exact absurd (by simp) absent
    | cons d middle =>
      rw [List.cons_append, List.cons.injEq] at later
      obtain ⟨rfl, _⟩ := later
      exact ⟨middle, by simp⟩
  · exact absurd (by simp) absent

/-- Blanks at the front are trimmed away. -/
theorem trimStart_append {gap : Text} (blank : gap.blank = true) (t : Text) :
    trimStart (gap ++ t) = trimStart t :=
  List.dropWhile_append_of_pos (blank_iff.mp blank)

theorem trimStart_eq_self_iff {t : Text} : trimStart t = t ↔ SolidStart t := by
  constructor
  · intro kept
    rw [← kept]
    exact solidStart_dropWhile t
  · intro solid
    cases t with
    | nil => rfl
    | cons c t => simp [trimStart, solidStart_cons.mp solid]

theorem trimEnd_eq_self_iff {t : Text} : trimEnd t = t ↔ SolidEnd t := by
  have ends : trimEnd t = t ↔ ∀ nonempty : t ≠ [], ¬ isBlank (t.getLast nonempty) = true :=
    List.rdropWhile_eq_self_iff
  rw [ends]
  cases t with
  | nil => simp [SolidEnd]
  | cons c t => simp [SolidEnd, List.getLast?_eq_some_getLast]

/-- Trimming does not reach across a character that is not blank. -/
theorem trimEnd_append {s : Text} (solid : SolidEnd s) (t : Text) :
    trimEnd (s ++ t) = s ++ trimEnd t := by
  have kept : s.reverse.dropWhile isBlank = s.reverse :=
    List.reverse_injective ((trimEnd_eq_self_iff.mpr solid).trans s.reverse_reverse.symm)
  rw [trimEnd, trimEnd, List.reverse_append, List.dropWhile_append]
  split
  · next none => rw [List.isEmpty_iff.mp none, kept]; simp
  · simp

/-- Behind a text without blanks at its ends, trimming reaches the end of the whole only. -/
theorem trim_append {s : Text} (trimmed : Trimmed s) (nonempty : s ≠ []) (t : Text) :
    trim (s ++ t) = s ++ trimEnd t := by
  have start : trimStart (s ++ t) = s ++ t :=
    trimStart_eq_self_iff.mpr ((solidStart_append nonempty).mpr trimmed.1)
  rw [trim, start, trimEnd_append trimmed.2]

/-- Blanks around a text are trimmed away. -/
theorem trim_surrounded {before t after : Text} (blankBefore : before.blank = true)
    (blankAfter : after.blank = true) (trimmed : Trimmed t) : trim (before ++ t ++ after) = t := by
  by_cases empty : t = []
  · subst empty
    rw [trim_eq_nil_iff, List.append_nil, blank_append, blankBefore, blankAfter]
    rfl
  · have nothing : trimEnd after = [] := by
      rw [trimEnd, List.reverse_eq_nil_iff, dropWhile_isBlank_eq_nil_iff]
      simpa [Text.blank] using blankAfter
    have inner : trim (before ++ (t ++ after)) = trim (t ++ after) := by
      rw [trim, trimStart_append blankBefore, trim]
    rw [List.append_assoc, inner, trim_append trimmed empty, nothing, List.append_nil]

theorem trimmed_trim (t : Text) : Trimmed (trim t) := by
  have shorter : trim t <+: trimStart t := List.rdropWhile_prefix isBlank (trimStart t)
  constructor
  · intro c head
    obtain ⟨tail, whole⟩ := shorter
    refine solidStart_dropWhile t c ?_
    show c ∈ (trimStart t).head?
    rw [← whole, List.head?_append, Option.mem_def.mp head]
    rfl
  · exact trimEnd_eq_self_iff.mp (List.rdropWhile_idempotent isBlank (trimStart t))

theorem trim_isInfix (t : Text) : trim t <:+: t := by
  have shorter : trim t <+: trimStart t := List.rdropWhile_prefix isBlank (trimStart t)
  exact shorter.isInfix.trans (List.dropWhile_suffix isBlank).isInfix

/-- Trimming leaves a text alone exactly when no blank stands at its ends. -/
theorem trim_eq_self_iff {t : Text} : trim t = t ↔ Trimmed t := by
  constructor
  · intro kept
    rw [← kept]
    exact trimmed_trim t
  · intro trimmed
    rw [trim, trimStart_eq_self_iff.mpr trimmed.1, trimEnd_eq_self_iff.mpr trimmed.2]

end Shorthand.Text
