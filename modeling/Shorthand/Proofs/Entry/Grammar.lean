import Shorthand.Proofs.Entry.ChildRecord
import Shorthand.Proofs.Entry.Precedence

/-! The grammar of the standard table. Each rule is given the form of its entries in terms
of how a line is spelled, with no pattern in it, and the rule that is named for a line is
the one whose form the line has. A rule without rivals takes every line of its form; the
three general forms leave out the lines of the special form above them. -/
namespace Shorthand

/-- `(INF`, and on the same line a slash, a birth code and a closing bracket. -/
def IsInfantEntry (line : Text) : Prop :=
  ∃ opener name code rest, line = opener ++ (name ++ '/' :: (code ++ ')' :: rest)) ∧
    Text.Spells "(INF".toList opener ∧ '\n' ∉ name ∧ BirthCode.IsToken code

/-- `NM1`, and on the same line a title that is followed by blanks and a birth code in the
brackets of a child. -/
def IsChildEntry (line : Text) : Prop :=
  ∃ record name title gap opener code rest,
    line = record ++ (name ++ (title ++ (gap ++ (opener ++ (code ++ ')' :: rest))))) ∧
      Text.Spells "NM1".toList record ∧ '\n' ∉ name ∧ Stack.IsHonorific title ∧
        Text.blank gap = true ∧ Text.Spells "(CHD/".toList opener ∧ BirthCode.IsToken code

/-- `AN`, and behind it on the same line `/A`. -/
def IsAirlineEntry (line : Text) : Prop :=
  ∃ code front marker rest, line = code ++ (front ++ (marker ++ rest)) ∧
    Text.Spells "AN".toList code ∧ '\n' ∉ front ∧ Text.Spells "/A".toList marker

/-- Which lines each rule takes. -/
inductive Takes (line : Text) : String → Prop where
  | infant (form : IsInfantEntry line) : Takes line "infant"
  | child (form : IsChildEntry line) : Takes line "child"
  | availabilityWithAirline (form : IsAirlineEntry line) : Takes line "AN/A"
  | retrieveWithText (begins : Text.Begins "RT/".toList line) : Takes line "RT/text"
  | retrieve (whole : Text.Spells "RT".toList line) : Takes line "RT"
  | wholeEntry (code : String) (among : code ∈ ["APE", "APM-SEL", "FXB", "FXP/R,U", "ER", "SP"])
      (whole : Text.Spells code.toList line) : Takes line code
  | availability (begins : Text.Begins "AN".toList line) (plain : ¬ IsAirlineEntry line) :
      Takes line "AN"
  | sell (begins : Text.Begins "SS".toList line) : Takes line "SS"
  | nameRecord (begins : Text.Begins "NM1".toList line) (plain : ¬ IsChildEntry line) :
      Takes line "NM1"

namespace Rule

theorem accepts_infant_iff {line : Text} : infant.pattern.Accepts line ↔ IsInfantEntry line := by
  constructor
  · intro accepts
    obtain ⟨opener, _, rfl, opens, named⟩ := (Pattern.accepts_word_iff rfl).mp accepts
    obtain ⟨name, _, rfl, inline, slashed⟩ := Pattern.accepts_shortest_iff.mp named
    obtain ⟨_, rfl, coded⟩ := (Pattern.accepts_symbol_iff rfl rfl rfl).mp slashed
    obtain ⟨code, _, rfl, shaped, closed⟩ := Pattern.accepts_exactly_iff.mp coded
    obtain ⟨rest, rfl, _⟩ := (Pattern.accepts_symbol_iff rfl rfl rfl).mp closed
    exact ⟨opener, name, code, rest, rfl, opens, inline, BirthCode.shaped_iff_isToken.mp shaped⟩
  · rintro ⟨opener, name, code, rest, rfl, opens, inline, token⟩
    have closed : Pattern.Accepts [.word ")"] (')' :: rest) :=
      (Pattern.accepts_symbol_iff rfl rfl rfl).mpr ⟨rest, rfl, Pattern.accepts_nil rest⟩
    have coded : Pattern.Accepts [.birthCode, .word ")"] (code ++ ')' :: rest) :=
      Pattern.accepts_exactly_iff.mpr
        ⟨code, _, rfl, BirthCode.shaped_iff_isToken.mpr token, closed⟩
    have slashed : Pattern.Accepts [.word "/", .birthCode, .word ")"]
        ('/' :: (code ++ ')' :: rest)) :=
      (Pattern.accepts_symbol_iff rfl rfl rfl).mpr ⟨_, rfl, coded⟩
    exact (Pattern.accepts_word_iff rfl).mpr ⟨opener, _, rfl, opens,
      Pattern.accepts_shortest_iff.mpr ⟨name, _, rfl, inline, slashed⟩⟩

theorem accepts_child_iff {line : Text} : child.pattern.Accepts line ↔ IsChildEntry line := by
  constructor
  · intro accepts
    obtain ⟨record, _, rfl, spells, named⟩ := (Pattern.accepts_word_iff rfl).mp accepts
    obtain ⟨name, _, rfl, inline, _, marked⟩ := Pattern.accepts_shortest_iff.mp named
    obtain ⟨title, gap, opener, code, rest, mark, _⟩ := match?_childMark_iff.mp marked
    obtain ⟨rfl, honorific, blank, opens, shaped⟩ := mark
    exact ⟨record, name, title, gap, opener, code, rest, rfl, spells, inline, honorific, blank,
      opens, BirthCode.shaped_iff_isToken.mp shaped⟩
  · rintro ⟨record, name, title, gap, opener, code, rest, rfl, spells, inline, honorific, blank,
      opens, token⟩
    have marked : childMark.Accepts (title ++ (gap ++ (opener ++ (code ++ ')' :: rest)))) :=
      ⟨_, match?_childMark_iff.mpr ⟨title, gap, opener, code, rest,
        ⟨rfl, honorific, blank, opens, BirthCode.shaped_iff_isToken.mpr token⟩, rfl⟩⟩
    exact (Pattern.accepts_word_iff rfl).mpr ⟨record, _, rfl, spells,
      Pattern.accepts_shortest_iff.mpr ⟨name, _, rfl, inline, marked⟩⟩

theorem accepts_availabilityWithAirline_iff {line : Text} :
    availabilityWithAirline.pattern.Accepts line ↔ IsAirlineEntry line := by
  constructor
  · intro accepts
    obtain ⟨code, _, rfl, spells, inner⟩ := (Pattern.accepts_word_iff rfl).mp accepts
    obtain ⟨front, _, rfl, inline, marked⟩ := Pattern.accepts_longest_iff.mp inner
    obtain ⟨marker, rest, rfl, marks, _⟩ := (Pattern.accepts_word_iff rfl).mp marked
    exact ⟨code, front, marker, rest, rfl, spells, inline, marks⟩
  · rintro ⟨code, front, marker, rest, rfl, spells, inline, marks⟩
    have marked : Pattern.Accepts [.word "/A", .longest] (marker ++ rest) :=
      (Pattern.accepts_word_iff rfl).mpr ⟨marker, rest, rfl, marks, Pattern.accepts_longest rest⟩
    exact (Pattern.accepts_word_iff rfl).mpr ⟨code, _, rfl, spells,
      Pattern.accepts_longest_iff.mpr ⟨front, _, rfl, inline, marked⟩⟩

/-- A leading word with anything behind it on the line. -/
theorem accepts_leading_iff {word : String} {line : Text}
    (plain : word.toList.all Letter.isPlain = true) :
    Pattern.Accepts [.word word, .longest] line ↔ Text.Begins word.toList line := by
  rw [Pattern.accepts_word_iff plain]
  constructor
  · rintro ⟨spelling, rest, whole, spells, _⟩
    exact ⟨spelling, rest, whole, spells⟩
  · rintro ⟨spelling, rest, whole, spells⟩
    exact ⟨spelling, rest, whole, spells, Pattern.accepts_longest rest⟩

/-- A word that is the whole line. -/
theorem accepts_whole_iff {word : String} {line : Text}
    (plain : word.toList.all Letter.isPlain = true) :
    Pattern.Accepts [.word word, .finish] line ↔ Text.Spells word.toList line := by
  rw [Pattern.accepts_word_iff plain]
  constructor
  · rintro ⟨spelling, rest, rfl, spells, last⟩
    rw [Pattern.accepts_finish_iff.mp last, List.append_nil]
    exact spells
  · intro spells
    exact ⟨line, [], by simp, spells, Pattern.accepts_finish_iff.mpr rfl⟩

/-- A bare retrieval may have a slash at its end, but such a line begins like a retrieval
with text. -/
theorem left_to_retrieve_iff {line : Text} :
    retrieve.pattern.Accepts line ∧ ¬ retrieveWithText.pattern.Accepts line ↔
      Text.Spells "RT".toList line := by
  have slashed : ∀ word ∈ [['/'], []], word.all Letter.isPlain = true := by decide
  rw [retrieve, retrieveWithText, accepts_leading_iff rfl, Pattern.accepts_word_iff rfl]
  constructor
  · rintro ⟨⟨spelling, _, rfl, spells, optional⟩, unslashed⟩
    obtain ⟨word, among, taken, _, rfl, marks, last⟩ :=
      (Pattern.accepts_oneOf_iff slashed).mp optional
    obtain rfl := Pattern.accepts_finish_iff.mp last
    simp only [List.mem_cons, List.not_mem_nil, or_false] at among
    rcases among with rfl | rfl
    · have longer : Text.Spells "RT/".toList (spelling ++ taken) := List.rel_append spells marks
      rw [List.append_nil] at unslashed
      exact absurd longer.begins unslashed
    · rw [List.forall₂_nil_left_iff.mp marks]
      simpa using spells
  · intro spells
    refine ⟨⟨line, [], by simp, spells, ?_⟩, ?_⟩
    · exact (Pattern.accepts_oneOf_iff slashed).mpr
        ⟨[], by simp, [], [], rfl, .nil, Pattern.accepts_finish_iff.mpr rfl⟩
    · rintro ⟨spelling, rest, rfl, longer⟩
      have short : 2 = (spelling ++ rest).length := spells.length_eq
      have long : 3 = spelling.length := longer.length_eq
      rw [List.length_append] at short
      omega

end Rule

namespace Table

/-- The codes that are whole entries. -/
def wholeCodes : List String := ["APE", "APM-SEL", "FXB", "FXP/R,U", "ER", "SP"]

/-- Every standard rule has a form of its own or is for a code that is a whole entry. -/
theorem standard_cases : ∀ rule ∈ Table.standard,
    rule ∈ [.infant, .child, .availabilityWithAirline, .retrieveWithText, .retrieve,
      .leadingCode "AN" ['1'], .leadingCode "SS" ['0'], .leadingCode "NM1" ['-']] ∨
        (rule.name ∈ wholeCodes ∧ rule.pattern = [.word rule.name, .finish]) := by
  decide +kernel

/-- The rules of the codes that are whole entries have no rivals. -/
theorem exists_whole : ∀ code ∈ wholeCodes, code.toList.all Letter.isPlain = true ∧
    ∃ rule ∈ Table.standard, rule.name = code ∧ rule.pattern = [.word code, .finish] ∧
      Table.standard.rivals rule = [] := by
  decide +kernel

/-- A rule is left with lines of its form only. -/
theorem takes_of_left {rule : Rule} {line : Text} (member : rule ∈ Table.standard)
    (accepts : rule.pattern.Accepts line)
    (unrivalled : ∀ other ∈ Table.standard.rivals rule, ¬ other.pattern.Accepts line) :
    Takes line rule.name := by
  rcases standard_cases rule member with own | ⟨among, pattern⟩
  · simp only [List.mem_cons, List.not_mem_nil, or_false] at own
    rcases own with rfl | rfl | rfl | rfl | rfl | rfl | rfl | rfl
    · exact .infant (Rule.accepts_infant_iff.mp accepts)
    · exact .child (Rule.accepts_child_iff.mp accepts)
    · exact .availabilityWithAirline (Rule.accepts_availabilityWithAirline_iff.mp accepts)
    · exact .retrieveWithText ((Rule.accepts_leading_iff rfl).mp accepts)
    · exact .retrieve (Rule.left_to_retrieve_iff.mp
        ⟨accepts, unrivalled .retrieveWithText (by decide +kernel)⟩)
    · refine .availability ((Rule.accepts_leading_iff rfl).mp accepts) fun form => ?_
      exact unrivalled .availabilityWithAirline (by decide +kernel)
        (Rule.accepts_availabilityWithAirline_iff.mpr form)
    · exact .sell ((Rule.accepts_leading_iff rfl).mp accepts)
    · refine .nameRecord ((Rule.accepts_leading_iff rfl).mp accepts) fun form => ?_
      exact unrivalled .child (by decide +kernel) (Rule.accepts_child_iff.mpr form)
  · rw [pattern] at accepts
    exact .wholeEntry rule.name among
      ((Rule.accepts_whole_iff (exists_whole rule.name among).1).mp accepts)

/-- A line of a rule's form is left to that rule. -/
theorem left_of_takes {name : String} {line : Text} (takes : Takes line name) :
    ∃ rule ∈ Table.standard, rule.name = name ∧ rule.pattern.Accepts line ∧
      ∀ other ∈ Table.standard.rivals rule, ¬ other.pattern.Accepts line := by
  have unrivalled : ∀ {rule : Rule}, Table.standard.rivals rule = [] →
      ∀ other ∈ Table.standard.rivals rule, ¬ other.pattern.Accepts line := by
    intro rule none other rival
    rw [none] at rival
    cases rival
  have rivalled : ∀ {rule single : Rule}, Table.standard.rivals rule = [single] →
      ¬ single.pattern.Accepts line →
        ∀ other ∈ Table.standard.rivals rule, ¬ other.pattern.Accepts line := by
    intro rule single one refused other rival
    rw [one, List.mem_singleton] at rival
    exact rival ▸ refused
  cases takes with
  | infant form =>
    exact ⟨.infant, by decide, rfl, Rule.accepts_infant_iff.mpr form,
      unrivalled (by decide +kernel)⟩
  | child form =>
    exact ⟨.child, by decide, rfl, Rule.accepts_child_iff.mpr form, unrivalled (by decide +kernel)⟩
  | availabilityWithAirline form =>
    exact ⟨.availabilityWithAirline, by decide, rfl,
      Rule.accepts_availabilityWithAirline_iff.mpr form, unrivalled (by decide +kernel)⟩
  | retrieveWithText begins =>
    exact ⟨.retrieveWithText, by decide, rfl, (Rule.accepts_leading_iff rfl).mpr begins,
      unrivalled (by decide +kernel)⟩
  | retrieve whole =>
    obtain ⟨accepts, refused⟩ := Rule.left_to_retrieve_iff.mpr whole
    exact ⟨.retrieve, by decide, rfl, accepts, rivalled (by decide +kernel) refused⟩
  | wholeEntry code among whole =>
    obtain ⟨plain, rule, member, named, pattern, none⟩ := exists_whole name among
    exact ⟨rule, member, named, pattern ▸ (Rule.accepts_whole_iff plain).mpr whole, unrivalled none⟩
  | availability begins plain =>
    exact ⟨.leadingCode "AN" ['1'], by decide, rfl, (Rule.accepts_leading_iff rfl).mpr begins,
      rivalled (by decide +kernel) (Rule.accepts_availabilityWithAirline_iff.not.mpr plain)⟩
  | sell begins =>
    exact ⟨.leadingCode "SS" ['0'], by decide, rfl, (Rule.accepts_leading_iff rfl).mpr begins,
      unrivalled (by decide +kernel)⟩
  | nameRecord begins plain =>
    exact ⟨.leadingCode "NM1" ['-'], by decide, rfl, (Rule.accepts_leading_iff rfl).mpr begins,
      rivalled (by decide +kernel) (Rule.accepts_child_iff.not.mpr plain)⟩

/-- The rule that is named for a line is the one whose form the line has. -/
theorem rule?_apply_iff_takes {context : Context} {line : Text} {name : String} :
    (Table.standard.apply context line).rule? = some name ↔ Takes line name := by
  rw [rule?_apply_iff_left nodup_standard]
  constructor
  · rintro ⟨rule, member, rfl, accepts, unrivalled⟩
    exact takes_of_left member accepts unrivalled
  · exact left_of_takes

/-- The rule that takes a line settles its outcome by what its pattern finds there. -/
theorem exists_outcome_of_takes {context : Context} {line : Text} {rule : Rule}
    (member : rule ∈ Table.standard) (takes : Takes line rule.name) :
    ∃ found, rule.pattern.match? line = some found ∧
      Table.standard.apply context line = rule.outcome context line found := by
  obtain ⟨found, decides⟩ := exists_decides_of_rule?_apply nodup_names_standard member
    ((@rule?_apply_iff_takes context line rule.name).mpr takes)
  exact ⟨found, decides.matched, apply_of_decides context decides⟩

/-- The standard table takes exactly the lines of its grammar, each by the rule of its
form, and every other line passes through unchanged and without a failure. -/
theorem standard_grammar (context : Context) (line : Text) :
    (∀ name, (Table.standard.apply context line).rule? = some name ↔ Takes line name) ∧
      ((∀ name, ¬ Takes line name) → (Table.standard.apply context line).rule? = none ∧
        (Table.standard.apply context line).isFailure = false ∧
          (Table.standard.apply context line).text = line) := by
  refine ⟨fun _ => rule?_apply_iff_takes, fun foreign => ?_⟩
  have unnamed : (Table.standard.apply context line).rule? = none := by
    rw [Option.eq_none_iff_forall_ne_some]
    exact fun name named => foreign name (rule?_apply_iff_takes.mp named)
  rw [apply_of_rule?_eq_none unnamed]
  exact ⟨rfl, rfl, rfl⟩

end Table
end Shorthand
