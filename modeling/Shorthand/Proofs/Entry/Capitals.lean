import Shorthand.Proofs.Entry.FirstMatch
import Shorthand.Proofs.Passenger.BirthFault
import Shorthand.Proofs.Text.Capitals

/-! Entries in capital letters. A birth code in capitals is read as before, and what an action
copies from a match comes out in capitals, between fixed texts that are in capitals already. So
the standard table makes of an entry in capitals what it makes of the entry, in capitals: the
same rule takes it, and it fails for the same reason. -/
namespace Shorthand

namespace Text

theorem capitals_decimal (n : Nat) : capitals (Numeral.decimal n) = Numeral.decimal n :=
  capitals_of_digits fun _ member => Nat.isDigit_of_mem_toDigits (by decide) (by decide) member

theorem capitals_signed (z : Int) : capitals (Numeral.signed z) = Numeral.signed z := by
  unfold Numeral.signed
  split
  · rw [capitals_cons, capitals_decimal]
    rfl
  · exact capitals_decimal _

end Text

namespace BirthCode

/-- The fault with the characters that it repeats in capitals. -/
def Fault.capitals : Fault → Fault
  | .shape token => .shape token.capitals
  | .day characters => .day characters.capitals
  | .month characters => .month characters.capitals
  | .year characters => .year characters.capitals
  | .date y m d => .date y m d

theorem Fault.capitals_message (cause : Fault) :
    cause.capitals.message.capitals = cause.message.capitals := by
  unfold capitals message
  -- The fixed words are the same on both sides and must not be opened to their letters.
  generalize "' is not a DDMMMYY token".toList = misshapen, "invalid day '".toList = day,
    "unknown month '".toList = month, "invalid year '".toList = year
  cases cause <;>
    simp only [Text.capitals_append, Text.capitals_cons, Text.capitals_capitals]

theorem twoDigits?_toUpper (c d : Char) : twoDigits? c.toUpper d.toUpper = twoDigits? c d := by
  rw [twoDigits?, twoDigits?, Letter.isDigit_toUpper, Letter.isDigit_toUpper]
  by_cases digits : c.isDigit = true ∧ d.isDigit = true
  · rw [Letter.toUpper_of_isDigit digits.1, Letter.toUpper_of_isDigit digits.2]
  · rw [if_neg digits, if_neg digits]

theorem monthNumber?_capitals (letters : Text) :
    monthNumber? letters.capitals = monthNumber? letters := by
  have again : letters.capitals.map Char.toUpper = letters.map Char.toUpper :=
    Text.capitals_capitals letters
  rw [monthNumber?, monthNumber?, again]

/-- The numbers of a token in capitals are those of the token. -/
theorem read_capitals (token : Text) :
    read token.capitals = (read token).mapError Fault.capitals := by
  match token with
  | [d₁, d₂, m₁, m₂, m₃, y₁, y₂] =>
    have ascii := Text.all_isAscii_capitals [d₁, d₂, m₁, m₂, m₃, y₁, y₂]
    have month := monthNumber?_capitals [m₁, m₂, m₃]
    simp only [Text.capitals_cons, Text.capitals_nil] at ascii month ⊢
    simp only [read, ascii, month, twoDigits?_toUpper]
    by_cases native : [d₁, d₂, m₁, m₂, m₃, y₁, y₂].all Letter.isAscii = true
    · rw [if_pos native, if_pos native]
      cases twoDigits? d₁ d₂ with
      | none => rfl
      | some day =>
        cases monthNumber? [m₁, m₂, m₃] with
        | none => rfl
        | some month => cases twoDigits? y₁ y₂ <;> rfl
    · rw [if_neg native, if_neg native]
      rfl
  | [] | [_] | [_, _] | [_, _, _] | [_, _, _, _] | [_, _, _, _, _] | [_, _, _, _, _, _]
  | _ :: _ :: _ :: _ :: _ :: _ :: _ :: _ :: _ => rfl

theorem ageOn_capitals (token : Text) (reference : Date) (currentYear : Int) :
    ageOn token.capitals reference currentYear =
      (ageOn token reference currentYear).mapError Fault.capitals := by
  rw [ageOn, ageOn, read_capitals]
  cases read token with
  | error cause => rfl
  | ok code =>
    simp only [Except.mapError, bind, Except.bind]
    cases born : code.birthDate currentYear with
    | ok birth => rfl
    | error cause =>
      -- Of a date that does not exist only numbers are reported.
      obtain ⟨_, rfl⟩ := birthDate_eq_error_iff.mp born
      rfl

end BirthCode

/-- The failure with what it repeats of the entry in capitals. -/
def Failure.capitals : Failure → Failure
  | .missingDeparture rule entry => .missingDeparture rule entry.capitals
  | .unresolvableAge rule matched code departure cause =>
    .unresolvableAge rule matched.capitals code.capitals departure cause.capitals
  | .incompleteMatch rule matched => .incompleteMatch rule matched.capitals

theorem Failure.capitals_message (failure : Failure) :
    failure.capitals.message.capitals = failure.message.capitals := by
  unfold capitals message detail
  generalize "departure date required to apply rule '".toList = required, "' to '".toList = applied,
    "cannot compute age (".toList = unresolved, ", DOB: ".toList = born, ", Dep: ".toList = departs,
    "): ".toList = close, "rule '".toList = named, "' matched '".toList = matched,
    "' but its captures are incomplete".toList = incomplete
  cases failure <;>
    simp only [Text.capitals_append, Text.capitals_cons, Text.capitals_capitals,
      BirthCode.Fault.capitals_message]

/-- The outcome with all that is shown of the entry in capitals. -/
def Outcome.capitals : Outcome → Outcome
  | .unmatched line => .unmatched line.capitals
  | .translated rule output => .translated rule output.capitals
  | .failed failure => .failed failure.capitals

namespace Outcome

@[simp] theorem rule?_capitals (outcome : Outcome) : outcome.capitals.rule? = outcome.rule? := by
  cases outcome with
  | failed failure => cases failure <;> rfl
  | _ => rfl

@[simp] theorem isFailure_capitals (outcome : Outcome) :
    outcome.capitals.isFailure = outcome.isFailure := by
  cases outcome <;> rfl

@[simp] theorem capitals_text (outcome : Outcome) :
    outcome.capitals.text.capitals = outcome.text.capitals := by
  cases outcome with
  | unmatched line => exact Text.capitals_capitals line
  | translated rule output => exact Text.capitals_capitals output
  | failed failure => exact failure.capitals_message

end Outcome

/-- The fixed texts of an action are in capitals. -/
def Action.isCapital : Action → Bool
  | .template slots => slots.all fun
    | .fixed t => t.capitals == t
    | .part _ => true
  | _ => true

theorem capital_standard : ∀ rule ∈ Table.standard, rule.action.isCapital = true := by decide

theorem Slot.fill_capitals {slot : Slot} (written : ∀ t, slot = .fixed t → t.capitals = t)
    (found : Match) : slot.fill found.capitals = (slot.fill found).capitals := by
  cases slot with
  | fixed t => exact (written t rfl).symm
  | part i =>
    simp only [fill, Match.capitals, List.getD_eq_getElem?_getD, List.getElem?_map]
    cases found.parts[i]? <;> rfl

namespace Action

theorem incompleteMatch_capitals (rule : String) (found : Match) :
    Failure.incompleteMatch rule found.capitals.text =
      (Failure.incompleteMatch rule found.text).capitals := by
  rw [Match.text_capitals]
  rfl

theorem runInfant_capitals (rule : String) (found : Match) (name code : Option Text) :
    runInfant rule found.capitals (name.map Text.capitals) (code.map Text.capitals) =
      ((runInfant rule found name code).map Text.capitals).mapError Failure.capitals := by
  have incomplete := incompleteMatch_capitals rule found
  cases name with
  | none => exact congrArg Except.error incomplete
  | some name =>
    cases code with
    | none => exact congrArg Except.error incomplete
    | some code =>
      have opener : Text.capitals "-I/".toList = "-I/".toList := by decide
      have mark : Text.capitals "*I".toList = "*I".toList := by decide
      have digits : code.capitals.drop (code.capitals.length - 2) =
          Text.capitals (code.drop (code.length - 2)) := by
        rw [Text.capitals, Text.capitals, List.length_map, List.map_drop]
      simp only [Option.map_some, runInfant, Except.map, Except.mapError, Text.capitals_append,
        Text.trim_capitals, opener, mark, digits]

theorem runChild_capitals (rule : String) (context : Context) (found : Match)
    (name title code : Option Text) :
    runChild rule context found.capitals (name.map Text.capitals) (title.map Text.capitals)
        (code.map Text.capitals) =
      ((runChild rule context found name title code).map Text.capitals).mapError
        Failure.capitals := by
  have incomplete := incompleteMatch_capitals rule found
  cases name with
  | none => exact congrArg Except.error incomplete
  | some name =>
    cases title with
    | none => exact congrArg Except.error incomplete
    | some title =>
      cases code with
      | none => exact congrArg Except.error incomplete
      | some code =>
        simp only [Option.map_some, runChild, Match.text_capitals, BirthCode.ageOn_capitals]
        cases context.departure with
        | none => rfl
        | some departure =>
          dsimp only
          cases ageOn code departure context.currentYear with
          | error cause => rfl
          | ok age =>
            have mark : Text.capitals "*C".toList = "*C".toList := by decide
            simp only [Except.map, Except.mapError, Text.capitals_append, Text.capitals_cons, mark,
              Text.capitals_signed]
            rfl

/-- An action whose fixed texts are in capitals gives for a match in capitals what it gives for
the match, in capitals. -/
theorem run_capitals {action : Action} (written : action.isCapital = true) (rule : String)
    (context : Context) (found : Match) : action.run rule context found.capitals =
      ((action.run rule context found).map Text.capitals).mapError Failure.capitals := by
  cases action with
  | template slots =>
    have filled : ∀ slot ∈ slots, slot.fill found.capitals = (slot.fill found).capitals := by
      intro slot among
      refine Slot.fill_capitals (fun t fixed => ?_) found
      subst fixed
      exact eq_of_beq (List.all_eq_true.mp written _ among)
    have whole : slots.flatMap (Slot.fill found.capitals) =
        Text.capitals (slots.flatMap (Slot.fill found)) := by
      rw [Text.capitals, List.map_flatMap]
      exact List.flatMap_congr filled
    simp only [run, whole, Except.map, Except.mapError, Text.capitals_append]
    rfl
  | infant name code =>
    simp only [run, Match.capitals, List.getElem?_map]
    exact runInfant_capitals rule found found.parts[name]? found.parts[code]?
  | child name title code =>
    simp only [run, Match.capitals, List.getElem?_map]
    exact runChild_capitals rule context found found.parts[name]? found.parts[title]?
      found.parts[code]?

end Action

/-- A rule comes for an entry in capitals to the same outcome, in capitals. -/
theorem Rule.outcome_capitals {rule : Rule} (written : rule.action.isCapital = true)
    (context : Context) (line : Text) (found : Match) :
    rule.outcome context line.capitals found.capitals =
      (rule.outcome context line found).capitals := by
  unfold outcome run
  by_cases missing : rule.needsDeparture = true ∧ context.departure = none
  · rw [if_pos missing, if_pos missing]
    rfl
  · rw [if_neg missing, if_neg missing, Action.run_capitals written]
    cases rule.action.run rule.name context found <;> rfl

namespace Table

theorem apply_capitals {table : Table} (written : ∀ rule ∈ table, rule.action.isCapital = true)
    (context : Context) (line : Text) :
    table.apply context line.capitals = (table.apply context line).capitals := by
  induction table with
  | nil => rfl
  | cons rule rules ih =>
    rw [List.forall_mem_cons] at written
    have search := rule.pattern.match?_capitals line
    cases matched : rule.pattern.match? line with
    | none =>
      rw [matched] at search
      rw [apply_of_match_none matched, apply_of_match_none search, ih written.2]
    | some found =>
      rw [matched] at search
      rw [apply_of_match_some matched, apply_of_match_some search]
      exact Rule.outcome_capitals written.1 context line found

/-- An entry in capitals is translated like the entry, in capitals. -/
theorem translateEntry_capitals (context : Context) (entry : Text) :
    standard.translateEntry context entry.capitals =
      (standard.translateEntry context entry).capitals := by
  unfold translateEntry
  rw [Text.trim_capitals]
  by_cases blank : entry.trim = []
  · simp only [blank, Text.capitals_nil, if_true]
    rfl
  · simp only [Text.capitals_eq_nil_iff, blank, if_false]
    exact apply_capitals capital_standard context entry.trim

end Table
end Shorthand
