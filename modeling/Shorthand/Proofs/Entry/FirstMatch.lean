import Shorthand.Entry.Table

/-! Which rule decides about a line. The first rule that matches settles the outcome
by its own run, whatever stands behind it in the table, and a line passes through
exactly when no rule matches it. -/
namespace Shorthand

theorem Outcome.isFailure_iff {outcome : Outcome} :
    outcome.isFailure = true ↔ ∃ failure, outcome = .failed failure := by
  cases outcome <;> simp [isFailure]

/-- The outcome of a rule for a line that it matched. -/
def Rule.outcome (rule : Rule) (context : Context) (line : Text) (found : Match) : Outcome :=
  match rule.run context line found with
  | .ok output => .translated rule.name output
  | .error failure => .failed failure

/-- A rule succeeds by running its action. -/
theorem Rule.action_of_run {rule : Rule} {context : Context} {line output : Text} {found : Match}
    (ran : rule.run context line found = .ok output) :
    rule.action.run rule.name context found = .ok output := by
  unfold Rule.run at ran
  split at ran
  · cases ran
  · exact ran

/-- A template is filled from the match, and what follows the match is kept. -/
theorem Rule.outcome_template {rule : Rule} {slots : List Slot} (free : rule.needsDeparture = false)
    (filled : rule.action = .template slots) (context : Context) (line : Text) (found : Match) :
    rule.outcome context line found =
      .translated rule.name (slots.flatMap (Slot.fill found) ++ found.rest) := by
  rw [outcome, run, if_neg (by simp [free]), filled]
  rfl

/-- A failure carries the name of the rule whose action failed. -/
theorem Action.rule_of_run_error {rule : String} {context : Context} {found : Match}
    {action : Action} {failure : Failure}
    (failed : action.run rule context found = .error failure) : failure.rule = rule := by
  cases action with
  | template slots => cases failed
  | infant name code =>
    simp only [run, runInfant] at failed
    split at failed
    · cases failed
    · cases failed
      rfl
  | child name title code =>
    simp only [run, runChild] at failed
    split at failed
    · split at failed
      · cases failed
        rfl
      · split at failed
        · cases failed
        · cases failed
          rfl
    · cases failed
      rfl

/-- The outcome names the rule, whether it succeeded or not. -/
theorem Rule.rule?_outcome (rule : Rule) (context : Context) (line : Text) (found : Match) :
    (rule.outcome context line found).rule? = some rule.name := by
  unfold outcome
  cases ran : rule.run context line found with
  | ok output => rfl
  | error failure =>
    unfold run at ran
    split at ran
    · cases ran
      rfl
    · exact congrArg some (Action.rule_of_run_error ran)

namespace Table

/-- A rule decides about a line if it matches and no earlier rule does. -/
def Decides (table : Table) (line : Text) (rule : Rule) (found : Match) : Prop :=
  ∃ earlier later, table = earlier ++ rule :: later ∧
    (∀ other ∈ earlier, other.pattern.match? line = none) ∧ rule.pattern.match? line = some found

theorem Decides.mem {table : Table} {line : Text} {rule : Rule} {found : Match}
    (decides : table.Decides line rule found) : rule ∈ table := by
  obtain ⟨earlier, later, rfl, _⟩ := decides
  simp

theorem Decides.matched {table : Table} {line : Text} {rule : Rule} {found : Match}
    (decides : table.Decides line rule found) : rule.pattern.match? line = some found := by
  obtain ⟨_, _, _, _, matched⟩ := decides
  exact matched

/-- The rule that decides settles the outcome. -/
theorem apply_of_decides {table : Table} {line : Text} {rule : Rule} {found : Match}
    (context : Context) (decides : table.Decides line rule found) :
    table.apply context line = rule.outcome context line found := by
  obtain ⟨earlier, later, rfl, refused, matched⟩ := decides
  induction earlier with
  | nil => exact apply_of_match_some matched
  | cons other earlier ih =>
    rw [List.forall_mem_cons] at refused
    rw [List.cons_append, apply_of_match_none refused.1]
    exact ih refused.2

theorem apply_of_unmatched {table : Table} {line : Text} (context : Context)
    (refused : ∀ rule ∈ table, rule.pattern.match? line = none) :
    table.apply context line = .unmatched line := by
  induction table with
  | nil => rfl
  | cons rule rules ih =>
    rw [List.forall_mem_cons] at refused
    rw [apply_of_match_none refused.1]
    exact ih refused.2

/-- Either no rule matches a line or one rule decides about it. -/
theorem unmatched_or_decides (table : Table) (line : Text) :
    (∀ rule ∈ table, rule.pattern.match? line = none) ∨
      ∃ rule found, table.Decides line rule found := by
  induction table with
  | nil => exact Or.inl (by simp)
  | cons rule rules ih =>
    cases matched : rule.pattern.match? line with
    | some found => exact Or.inr ⟨rule, found, [], rules, rfl, by simp, matched⟩
    | none =>
      rcases ih with refused | ⟨other, found, earlier, later, rfl, refused, hit⟩
      · exact Or.inl (List.forall_mem_cons.mpr ⟨matched, refused⟩)
      · exact Or.inr ⟨other, found, rule :: earlier, later, rfl,
          List.forall_mem_cons.mpr ⟨matched, refused⟩, hit⟩

/-- What becomes of a line: it passes through, or the rule that decides about it succeeds by its
action or fails. -/
theorem apply_cases (table : Table) (context : Context) (line : Text) :
    table.apply context line = .unmatched line ∨
      ∃ rule found, table.Decides line rule found ∧
        ((∃ output, rule.action.run rule.name context found = .ok output ∧
            table.apply context line = .translated rule.name output) ∨
          ∃ failure, rule.run context line found = .error failure ∧
            table.apply context line = .failed failure) := by
  rcases table.unmatched_or_decides line with refused | ⟨rule, found, decides⟩
  · exact Or.inl (apply_of_unmatched context refused)
  · refine Or.inr ⟨rule, found, decides, ?_⟩
    rw [apply_of_decides context decides, Rule.outcome]
    cases ran : rule.run context line found with
    | ok output => exact Or.inl ⟨output, Rule.action_of_run ran, rfl⟩
    | error failure => exact Or.inr ⟨failure, rfl, rfl⟩

/-- The name in the outcome is that of the rule that decides. -/
theorem rule?_apply_eq_some_iff {table : Table} {context : Context} {line : Text} {name : String} :
    (table.apply context line).rule? = some name ↔
      ∃ rule found, table.Decides line rule found ∧ rule.name = name := by
  constructor
  · intro named
    rcases table.unmatched_or_decides line with refused | ⟨rule, found, decides⟩
    · rw [apply_of_unmatched context refused] at named
      cases named
    · rw [apply_of_decides context decides, Rule.rule?_outcome] at named
      exact ⟨rule, found, decides, Option.some.inj named⟩
  · rintro ⟨rule, found, decides, rfl⟩
    rw [apply_of_decides context decides, Rule.rule?_outcome]

/-- A line to which no rule is named passes through as it is. -/
theorem apply_of_rule?_eq_none {table : Table} {context : Context} {line : Text}
    (unnamed : (table.apply context line).rule? = none) :
    table.apply context line = .unmatched line := by
  rcases table.unmatched_or_decides line with refused | ⟨rule, found, decides⟩
  · exact apply_of_unmatched context refused
  · rw [apply_of_decides context decides, Rule.rule?_outcome] at unnamed
    cases unnamed

/-- An entry with nothing to trim is given to the rules as it is. -/
theorem translateEntry_of_trimmed {table : Table} {context : Context} {entry : Text}
    (unchanged : entry.trim = entry) (nonempty : entry ≠ []) :
    table.translateEntry context entry = table.apply context entry := by
  simp [translateEntry, unchanged, nonempty]

end Table
end Shorthand
