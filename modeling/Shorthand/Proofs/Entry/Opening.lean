import Shorthand.Proofs.Entry.FirstMatch
import Shorthand.Proofs.Text.Acceptance

/-! How entries and outputs begin. An action settles the first character of its output, whatever
its parts hold, and no standard pattern begins with any of these characters. The marker of a
failure shares its first letters with one pattern only, which ends before the marker does. -/
namespace Shorthand

/-- The character that opens the output of an action, if the action settles it. -/
def Action.opening? : Action → Option Char
  | .template (.fixed (c :: _) :: _) => some c
  | .template _ => none
  | .infant _ _ => some '-'
  | .child _ _ _ => some '-'

theorem Action.head?_of_run {rule : String} {context : Context} {found : Match}
    {action : Action} {output : Text} {c : Char} (ran : action.run rule context found = .ok output)
    (opens : action.opening? = some c) : output.head? = some c := by
  cases action with
  | template slots =>
    cases ran
    match slots, opens with
    | .fixed (_ :: _) :: _, rfl => rfl
  | infant name code =>
    cases opens
    simp only [run, runInfant] at ran
    split at ran
    · cases ran
      rfl
    · cases ran
  | child name title code =>
    cases opens
    simp only [run, runChild] at ran
    split at ran
    · split at ran
      · cases ran
      · split at ran
        · cases ran
          rfl
        · cases ran
    · cases ran

/-- Whether a pattern can begin with the character. -/
def Pattern.opens : Pattern → Char → Bool
  | .exactly (k :: _) :: _, c => k.admits c
  | _, _ => true

theorem Pattern.opens_of_accepts {pattern : Pattern} {c : Char} {t : Text}
    (accepts : pattern.Accepts (c :: t)) : pattern.opens c = true := by
  unfold opens
  split
  · obtain ⟨taken, left, whole, fits, _⟩ := accepts_exactly_iff.mp accepts
    obtain ⟨d, taken, admitted, _, rfl⟩ := List.forall₂_cons_left_iff.mp fits
    rw [List.cons_append, List.cons.injEq] at whole
    rw [whole.1]
    exact admitted
  · rfl

/-- The characters that the outputs of the standard rules begin with. -/
def openings : List Char := ['-', '*', '0', '1', '9', 'W', 'D']

/-- Every standard rule settles the first character of its output. -/
theorem opening_standard :
    ∀ rule ∈ Table.standard, rule.action.opening?.map openings.contains = some true := by
  decide

/-- No standard rule takes a line that begins like an output. -/
theorem opens_standard :
    ∀ rule ∈ Table.standard, (openings.all fun c => !rule.pattern.opens c) = true := by
  decide

/-- Only the code for the end of a transaction begins with the first letter of the marker. -/
theorem opens_marker_standard : ∀ rule ∈ Table.standard, rule.pattern.opens 'E' = true →
    rule.pattern = [.word "ER", .finish] := by
  decide

/-- No standard rule takes the text. -/
def Unclaimed (t : Text) : Prop := ∀ rule ∈ Table.standard, ¬ rule.pattern.Accepts t

theorem unclaimed_nil : Unclaimed [] := by
  have refused : ∀ rule ∈ Table.standard, rule.pattern.match? [] = none := by decide
  exact fun rule member => Pattern.match?_eq_none_iff.mp (refused rule member)

theorem unclaimed_of_opening {c : Char} (opening : c ∈ openings) (t : Text) :
    Unclaimed (c :: t) := by
  intro rule member accepts
  have closed := List.all_eq_true.mp (opens_standard rule member) c opening
  rw [Pattern.opens_of_accepts accepts] at closed
  cases closed

theorem unclaimed_of_marker {t : Text} (marked : Failure.marker <+: t) : Unclaimed t := by
  obtain ⟨rest, rfl⟩ := marked
  intro rule member accepts
  have pattern := opens_marker_standard rule member (Pattern.opens_of_accepts accepts)
  rw [pattern, Pattern.accepts_word_iff rfl] at accepts
  obtain ⟨taken, left, whole, spells, last⟩ := accepts
  rw [Pattern.accepts_finish_iff.mp last, List.append_nil] at whole
  have short : 2 = (Failure.marker ++ rest).length := spells.length_eq.trans (by rw [whole])
  have long : Failure.marker.length = 6 := rfl
  rw [List.length_append] at short
  omega

theorem Table.apply_of_unclaimed {line : Text} (unclaimed : Unclaimed line) (context : Context) :
    Table.standard.apply context line = .unmatched line :=
  apply_of_unmatched context fun rule member =>
    Pattern.match?_eq_none_iff.mpr (unclaimed rule member)

/-- What is shown for a line: the line itself, which no rule takes, an output with one of the
openings in front, or a failure with its marker in front. -/
theorem Table.apply_shapes (context : Context) (line : Text) :
    (Table.standard.apply context line = .unmatched line ∧ Unclaimed line) ∨
      (∃ rule c rest, c ∈ openings ∧
        Table.standard.apply context line = .translated rule (c :: rest)) ∨
      ∃ failure, Table.standard.apply context line = .failed failure := by
  rcases Table.standard.unmatched_or_decides line with refused | ⟨rule, found, decides⟩
  · exact Or.inl ⟨apply_of_unmatched context refused, fun rule member =>
      Pattern.match?_eq_none_iff.mp (refused rule member)⟩
  · rw [apply_of_decides context decides, Rule.outcome]
    cases ran : rule.run context line found with
    | error failure => exact Or.inr (Or.inr ⟨failure, rfl⟩)
    | ok output =>
      obtain ⟨c, opens, among⟩ := Option.map_eq_some_iff.mp (opening_standard rule decides.mem)
      have head := Action.head?_of_run (Rule.action_of_run ran) opens
      obtain ⟨rest, rfl⟩ := List.head?_eq_some_iff.mp head
      exact Or.inr (Or.inl ⟨rule.name, c, rest, List.contains_iff_mem.mp among, rfl⟩)

end Shorthand
