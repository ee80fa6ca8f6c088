import Shorthand.Proofs.Entry.ChildRecord
import Shorthand.Proofs.Passenger.BirthFault

/-! The failures of the standard table. An action that refers to parts of its own pattern
never misses one, and only an action that computes an age can fail after that, so every
failure comes from a child record: there is no departure date, or the birth code in its
first mark stands for no date. What is reported follows from the record and the context,
and since the pattern has seen the shape of the code, neither its day nor its year alone
is ever at fault. -/
namespace Shorthand

/-- The action refers to none but the first parts of a match, this many of them. -/
def Action.Within (count : Nat) : Action → Prop
  | .template _ => True
  | .infant name code => name < count ∧ code < count
  | .child name title code => name < count ∧ title < count ∧ code < count

instance (count : Nat) : (action : Action) → Decidable (action.Within count)
  | .template _ => inferInstanceAs (Decidable True)
  | .infant _ _ => inferInstanceAs (Decidable (_ ∧ _))
  | .child _ _ _ => inferInstanceAs (Decidable (_ ∧ _ ∧ _))

/-- The action computes no age. -/
def Action.isSteady : Action → Bool
  | .child _ _ _ => false
  | _ => true

/-- An action that computes no age succeeds with the parts it refers to. -/
theorem Action.exists_output {action : Action} {rule : String} {context : Context} {found : Match}
    (steady : action.isSteady = true) (within : action.Within found.parts.length) :
    ∃ output, action.run rule context found = .ok output := by
  cases action with
  | template slots => exact ⟨_, rfl⟩
  | infant name code =>
    obtain ⟨nameInside, codeInside⟩ := within
    simp only [run, List.getElem?_eq_getElem nameInside, List.getElem?_eq_getElem codeInside]
    exact ⟨_, rfl⟩
  | child name title code => cases steady

theorem within_standard : ∀ rule ∈ Table.standard, rule.action.Within rule.pattern.length := by
  decide

/-- Only the child rule asks for a departure date, and only its action computes an age. -/
theorem steady_standard : ∀ rule ∈ Table.standard,
    rule = .child ∨ (rule.needsDeparture = false ∧ rule.action.isSteady = true) := by
  decide +kernel

/-- The failures of a child record: the whole entry is reported without a departure date,
and with one the matched text and the token that stands for no birth date. -/
inductive FailureOf (context : Context) (entry matched token : Text) : Failure → Prop where
  | undated (missing : context.departure = none) :
      FailureOf context entry matched token (.missingDeparture "child" entry)
  | unresolvable {departure : Date} {cause : BirthCode.Fault}
      (dated : context.departure = some departure)
      (fault : BirthCode.FaultOf context.currentYear token cause) :
      FailureOf context entry matched token
        (.unresolvableAge "child" matched token departure cause)

/-- With a departure date a child record fails for a fault of its token. -/
theorem FailureOf.exists_cause {context : Context} {entry matched token : Text} {failure : Failure}
    {departure : Date} (failed : FailureOf context entry matched token failure)
    (dated : context.departure = some departure) :
    ∃ cause, BirthCode.FaultOf context.currentYear token cause ∧
      failure = .unresolvableAge "child" matched token departure cause := by
  cases failed with
  | undated missing => cases dated.symm.trans missing
  | @unresolvable _ cause present fault =>
    cases dated.symm.trans present
    exact ⟨cause, fault, rfl⟩

/-- The failures that no translation ends with. -/
inductive Failure.Unreachable : Failure → Prop where
  | incompleteMatch (rule : String) (matched : Text) : Unreachable (.incompleteMatch rule matched)
  | day (rule : String) (matched code : Text) (departure : Date) (characters : Text) :
      Unreachable (.unresolvableAge rule matched code departure (.day characters))
  | year (rule : String) (matched code : Text) (departure : Date) (characters : Text) :
      Unreachable (.unresolvableAge rule matched code departure (.year characters))

theorem FailureOf.reachable {context : Context} {entry matched token : Text} {failure : Failure}
    (failed : FailureOf context entry matched token failure) : ¬ failure.Unreachable := by
  intro unreachable
  cases failed with
  | undated _ => cases unreachable
  | unresolvable _ fault => cases fault <;> cases unreachable

namespace Rule

/-- Every rule but the child rule succeeds on the lines that it matches. -/
theorem exists_translated {rule : Rule} {context : Context} {line : Text} {found : Match}
    (member : rule ∈ Table.standard) (other : rule ≠ child)
    (matched : rule.pattern.match? line = some found) :
    ∃ output, rule.outcome context line found = .translated rule.name output := by
  obtain ⟨undemanding, steady⟩ := (steady_standard rule member).resolve_left other
  have within := within_standard rule member
  rw [← Pattern.length_parts matched] at within
  obtain ⟨output, ran⟩ := Action.exists_output steady within
  refine ⟨output, ?_⟩
  rw [outcome, run, if_neg (by simp [undemanding]), ran]

/-- The token stands in the first mark of the name record. -/
def Captures (line token : Text) : Prop :=
  ∃ record name mark title gap opener rest,
    IsChildRecord line record name mark title gap opener token rest

theorem Captures.isToken {line token : Text} (captures : Captures line token) :
    BirthCode.IsToken token := by
  obtain ⟨_, _, _, _, _, _, _, isRecord⟩ := captures
  exact BirthCode.shaped_iff_isToken.mp isRecord.isMark.shaped

/-- The captured token is the sixth part of what the child pattern finds. -/
theorem captures_iff {line token : Text} : Captures line token ↔
    ∃ found, child.pattern.match? line = some found ∧ found.parts[5]? = some token := by
  constructor
  · rintro ⟨record, name, mark, title, gap, opener, rest, isRecord⟩
    exact ⟨_, match?_child_iff.mpr
      ⟨record, name, mark, title, gap, opener, token, rest, isRecord, rfl⟩, rfl⟩
  · rintro ⟨found, matched, sixth⟩
    obtain ⟨record, name, mark, title, gap, opener, code, rest, isRecord, rfl⟩ :=
      match?_child_iff.mp matched
    cases sixth
    exact ⟨record, name, mark, title, gap, opener, rest, isRecord⟩

theorem Captures.unique {line token token' : Text} (captures : Captures line token)
    (captures' : Captures line token') : token = token' := by
  obtain ⟨found, matched, sixth⟩ := captures_iff.mp captures
  obtain ⟨found', matched', sixth'⟩ := captures_iff.mp captures'
  cases matched.symm.trans matched'
  exact Option.some.inj (sixth.symm.trans sixth')

theorem outcome_child_undated {context : Context} {line : Text} {found : Match}
    (missing : context.departure = none) :
    child.outcome context line found = .failed (.missingDeparture "child" line) := by
  rw [outcome, run, if_pos ⟨rfl, missing⟩]
  rfl

/-- With a departure date the fault of the token is reported. -/
theorem outcome_child_of_error {context : Context}
    {line record name title gap opener token rest : Text} {departure : Date}
    {cause : BirthCode.Fault} (dated : context.departure = some departure)
    (failed : ageOn token departure context.currentYear = .error cause) :
    child.outcome context line ⟨[record, name, title, gap, opener, token, [')']], rest⟩ =
      .failed (.unresolvableAge "child"
        [record, name, title, gap, opener, token, [')']].flatten token departure cause) := by
  have given : ¬ (child.needsDeparture = true ∧ context.departure = none) := by simp [dated]
  have ran : child.action.run child.name context
      ⟨[record, name, title, gap, opener, token, [')']], rest⟩ =
        .error (.unresolvableAge "child"
          [record, name, title, gap, opener, token, [')']].flatten token departure cause) := by
    show Action.runChild "child" context _ (some name) (some title) (some token) = _
    simp only [Action.runChild, dated, failed]
    rfl
  rw [outcome, run, if_neg given, ran]

/-- A child record fails in exactly the stated ways. -/
theorem outcome_child_eq_failed_iff {context : Context}
    {line record name title gap opener token rest : Text} {failure : Failure}
    (isToken : BirthCode.IsToken token) :
    child.outcome context line ⟨[record, name, title, gap, opener, token, [')']], rest⟩ =
        .failed failure ↔
      FailureOf context line [record, name, title, gap, opener, token, [')']].flatten token
        failure := by
  cases dated : context.departure with
  | none =>
    rw [outcome_child_undated dated]
    constructor
    · intro same
      cases same
      exact .undated dated
    · intro failed
      cases failed with
      | undated _ => rfl
      | unresolvable present _ => cases dated.symm.trans present
  | some departure =>
    have faults := @BirthCode.ageOn_eq_error_iff_faultOf _ isToken departure context.currentYear
    cases age : ageOn token departure context.currentYear with
    | error cause =>
      rw [outcome_child_of_error dated age]
      constructor
      · intro same
        cases same
        exact .unresolvable dated (faults.mp age)
      · intro failed
        obtain ⟨cause', fault, rfl⟩ := failed.exists_cause dated
        cases age.symm.trans (faults.mpr fault)
        rfl
    | ok years =>
      rw [Rule.outcome_child_of_age dated age]
      constructor
      · intro same
        cases same
      · intro failed
        obtain ⟨cause', fault, rfl⟩ := failed.exists_cause dated
        cases age.symm.trans (faults.mpr fault)

end Rule

namespace Table

/-- An entry fails exactly when it is a child record with one of the stated failures. -/
theorem apply_eq_failed_iff {context : Context} {line : Text} {failure : Failure} :
    Table.standard.apply context line = .failed failure ↔
      ∃ record name mark title gap opener token rest,
        Rule.IsChildRecord line record name mark title gap opener token rest ∧
          FailureOf context line [record, name, title, gap, opener, token, [')']].flatten token
            failure := by
  constructor
  · intro failed
    rcases Table.standard.unmatched_or_decides line with refused | ⟨rule, found, decides⟩
    · rw [apply_of_unmatched context refused] at failed
      cases failed
    · rw [apply_of_decides context decides] at failed
      by_cases isChild : rule = .child
      · subst isChild
        obtain ⟨record, name, mark, title, gap, opener, token, rest, isRecord, rfl⟩ :=
          Rule.match?_child_iff.mp decides.matched
        have isToken := BirthCode.shaped_iff_isToken.mp isRecord.isMark.shaped
        exact ⟨record, name, mark, title, gap, opener, token, rest, isRecord,
          (Rule.outcome_child_eq_failed_iff isToken).mp failed⟩
      · obtain ⟨output, succeeded⟩ := Rule.exists_translated decides.mem isChild decides.matched
        cases succeeded.symm.trans failed
  · rintro ⟨record, name, mark, title, gap, opener, token, rest, isRecord, failed⟩
    have isToken := BirthCode.shaped_iff_isToken.mp isRecord.isMark.shaped
    rw [apply_of_decides context isRecord.decides]
    exact (Rule.outcome_child_eq_failed_iff isToken).mpr failed

/-- The child rule is named for the name records with a mark. -/
theorem rule?_apply_eq_child_iff {context : Context} {line : Text} :
    (Table.standard.apply context line).rule? = some "child" ↔
      ∃ token, Rule.Captures line token := by
  have only : ∀ rule ∈ Table.standard, rule.name = "child" → rule = .child := by decide +kernel
  rw [rule?_apply_eq_some_iff]
  constructor
  · rintro ⟨rule, found, decides, named⟩
    obtain rfl := only rule decides.mem named
    obtain ⟨record, name, mark, title, gap, opener, token, rest, isRecord, _⟩ :=
      Rule.match?_child_iff.mp decides.matched
    exact ⟨token, record, name, mark, title, gap, opener, rest, isRecord⟩
  · rintro ⟨token, record, name, mark, title, gap, opener, rest, isRecord⟩
    exact ⟨_, _, isRecord.decides, rfl⟩

/-- An entry fails exactly when it is a child record and there is no departure date or
the captured token stands for no birth date. -/
theorem isFailure_apply_iff {context : Context} {line : Text} :
    (Table.standard.apply context line).isFailure = true ↔
      (Table.standard.apply context line).rule? = some "child" ∧
        (context.departure = none ∨
          ∃ token, Rule.Captures line token ∧ ¬ BirthCode.Resolves context.currentYear token) := by
  rw [Outcome.isFailure_iff, rule?_apply_eq_child_iff]
  simp only [apply_eq_failed_iff]
  constructor
  · rintro ⟨_, record, name, mark, title, gap, opener, token, rest, isRecord, failed⟩
    have captures : Rule.Captures line token :=
      ⟨record, name, mark, title, gap, opener, rest, isRecord⟩
    refine ⟨⟨token, captures⟩, ?_⟩
    cases failed with
    | undated missing => exact Or.inl missing
    | unresolvable _ fault =>
      exact Or.inr ⟨token, captures, (BirthCode.not_resolves_iff captures.isToken).mpr ⟨_, fault⟩⟩
  · rintro ⟨⟨token, captures⟩, reason⟩
    obtain ⟨record, name, mark, title, gap, opener, rest, isRecord⟩ := id captures
    have isToken := captures.isToken
    cases dated : context.departure with
    | none =>
      exact ⟨_, record, name, mark, title, gap, opener, token, rest, isRecord, .undated dated⟩
    | some departure =>
      obtain ⟨token', captures', missing⟩ := reason.resolve_left (by simp [dated])
      obtain rfl := captures.unique captures'
      obtain ⟨cause, fault⟩ := (BirthCode.not_resolves_iff isToken).mp missing
      exact ⟨_, record, name, mark, title, gap, opener, token, rest, isRecord,
        .unresolvable dated fault⟩

theorem not_apply_of_unreachable {context : Context} {line : Text} {failure : Failure}
    (unreachable : failure.Unreachable) :
    Table.standard.apply context line ≠ .failed failure := by
  intro failed
  obtain ⟨_, _, _, _, _, _, _, _, _, reason⟩ := apply_eq_failed_iff.mp failed
  exact reason.reachable unreachable

theorem not_translateEntry_of_unreachable {context : Context} {entry : Text} {failure : Failure}
    (unreachable : failure.Unreachable) :
    Table.standard.translateEntry context entry ≠ .failed failure := by
  intro failed
  rw [translateEntry] at failed
  split at failed
  · cases failed
  · exact not_apply_of_unreachable unreachable failed

end Table
end Shorthand
