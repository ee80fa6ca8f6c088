import Shorthand.Proofs.Entry.Opening
import Shorthand.Proofs.Line.Segments

/-! When a segment gets a dash. The decision looks at the first character of the
segment's own text, and that character is settled by what became of the segment:
every rule but one opens its output with a leader, no failure text begins with one,
and a text that passed through begins as it did before. So the dash depends on the
rule, the failure and the input of its own segment and on the line as a whole, never
on another segment. -/
namespace Shorthand

/-- The text begins with one of the marks of the target system. -/
def BeginsLed (t : Text) : Prop := ∃ c ∈ t.head?, c ∈ ['-', '*', '0', '1', '9', 'W']

/-- The text begins with `NM1` in ASCII letters of either case. -/
def OpensNameRecord (t : Text) : Prop :=
  ∃ n m rest, t = n :: m :: '1' :: rest ∧ (n = 'N' ∨ n = 'n') ∧ (m = 'M' ∨ m = 'm')

/-- What became of an entry leaves room for a dash: it failed, or the rule `SP` took it,
or it passed through without a mark of the target system in front. -/
def WantsDash (outcome : Outcome) (entry : Text) : Prop :=
  outcome.isFailure = true ∨ outcome.rule? = some "SP" ∨
    (outcome.rule? = none ∧ ¬ BeginsLed entry)

theorem hasLeader_eq_true_iff {t : Text} : Segment.hasLeader t = true ↔ BeginsLed t := by
  cases t with
  | nil => simp [Segment.hasLeader, BeginsLed]
  | cons c t => simp [Segment.hasLeader, Segment.leaders, BeginsLed]

theorem isNameRecord_eq_true_iff {t : Text} : isNameRecord t = true ↔ OpensNameRecord t := by
  have code : ['N', 'M', '1'].map Char.toUpper = ['N', 'M', '1'] := rfl
  rw [isNameRecord, Letter.sameAscii, beq_iff_eq, code, OpensNameRecord]
  match t with
  | [] | [_] | [_, _] => simp
  | n :: m :: one :: rest =>
    have upperN : n.toUpper = 'N' ↔ n = 'N' ∨ n = 'n' := Letter.toUpper_eq_iff rfl
    have upperM : m.toUpper = 'M' ↔ m = 'M' ∨ m = 'm' := Letter.toUpper_eq_iff rfl
    have upperOne : one.toUpper = '1' ↔ one = '1' ∨ one = '1' := Letter.toUpper_eq_iff rfl
    simp only [List.take_succ_cons, List.take_zero, List.map_cons, List.map_nil, List.cons.injEq,
      upperN, upperM, upperOne, or_self, and_true]
    constructor
    · rintro ⟨isN, isM, rfl⟩
      exact ⟨n, m, rest, ⟨rfl, rfl, rfl, rfl⟩, isN, isM⟩
    · rintro ⟨_, _, _, ⟨rfl, rfl, rfl, rfl⟩, isN, isM⟩
      exact ⟨isN, isM, rfl⟩

/-- Every standard rule but `SP` opens its output with a mark of the target system. -/
theorem standard_opening : ∀ rule ∈ Table.standard,
    rule.action.opening?.map Segment.leaders.contains = some (rule.name != "SP") := by
  decide

/-- The first character of an outcome's text is a mark of the target system unless the
outcome leaves room for a dash. -/
theorem hasLeader_eq_false_iff (context : Context) {entry : Text} (unchanged : entry.trim = entry)
    (nonempty : entry ≠ []) :
    Segment.hasLeader (Table.standard.translateEntry context entry).text = false ↔
      WantsDash (Table.standard.translateEntry context entry) entry := by
  rw [Table.translateEntry_of_trimmed unchanged nonempty]
  rcases Table.standard.apply_cases context entry with
    passed | ⟨rule, found, decides, ⟨output, ran, translated⟩ | ⟨failure, _, failed⟩⟩
  · rw [passed, ← Bool.not_eq_true]
    show ¬ Segment.hasLeader entry = true ↔ _
    rw [hasLeader_eq_true_iff]
    simp [WantsDash, Outcome.isFailure, Outcome.rule?]
  · obtain ⟨c, opens, marked⟩ := Option.map_eq_some_iff.mp (standard_opening rule decides.mem)
    have head := Action.head?_of_run ran opens
    rw [translated]
    show Segment.hasLeader output = false ↔ _
    rw [Segment.hasLeader, head, Option.any_some, marked]
    simp [WantsDash, Outcome.isFailure, Outcome.rule?]
  · rw [failed]
    show Segment.hasLeader failure.message = false ↔ _
    exact ⟨fun _ => Or.inl rfl, fun _ => rfl⟩

/-- The segment at one place of a line, made from the entry at that place. -/
theorem getElem?_segments (context : Context) (input : Text) (i : Nat) :
    (translate context input).segments[i]? = (Stack.entries input.trim)[i]?.map fun entry =>
      ⟨entry, Table.standard.translateEntry context entry,
        (translate context input).stacked && isNameRecord input.trim && decide (0 < i) &&
          !Segment.hasLeader (Table.standard.translateEntry context entry).text⟩ := by
  have plain : Table.standard.segments context input.trim =
      (Stack.entries input.trim).map fun entry =>
        ⟨entry, Table.standard.translateEntry context entry, false⟩ := rfl
  show (if Stack.isStacked input.trim && isNameRecord input.trim
    then continueRecord (Table.standard.segments context input.trim)
    else Table.standard.segments context input.trim)[i]? = _
  have stacked : (translate context input).stacked = Stack.isStacked input.trim := rfl
  rw [plain, stacked]
  cases record : Stack.isStacked input.trim && isNameRecord input.trim with
  | false => simp
  | true =>
    cases Stack.entries input.trim with
    | nil => simp [continueRecord]
    | cons first others =>
      cases i with
      | zero => simp [continueRecord]
      | succ i => simp [continueRecord, Segment.continued, Function.comp_def]

/-- The cases in which the segment at one place of a line gets a dash. -/
structure NeedsDash (context : Context) (input : Text) (i : Nat) (segment : Segment) : Prop where
  stacked : (translate context input).stacked = true
  record : OpensNameRecord input.trim
  several : 2 ≤ (translate context input).segments.length
  later : 0 < i
  wants : WantsDash segment.outcome segment.input

/-- A segment has a dash exactly in the stated cases. -/
theorem dash_eq_true_iff {context : Context} {input : Text} {i : Nat} {segment : Segment}
    (place : (translate context input).segments[i]? = some segment) :
    segment.dash = true ↔ NeedsDash context input i segment := by
  have inside := (List.getElem?_eq_some_iff.mp place).1
  rw [getElem?_segments, Option.map_eq_some_iff] at place
  obtain ⟨entry, among, rfl⟩ := place
  obtain ⟨trimmed, nonempty, _⟩ :=
    Stack.entry_of_mem (Text.trimmed_trim input) (List.mem_of_getElem? among)
  have unmarked := hasLeader_eq_false_iff context (Text.trim_eq_self_iff.mpr trimmed) nonempty
  simp only [Bool.and_eq_true, decide_eq_true_eq, Bool.not_eq_true', isNameRecord_eq_true_iff,
    unmarked]
  constructor
  · rintro ⟨⟨⟨stacked, record⟩, later⟩, wants⟩
    exact ⟨stacked, record, by omega, later, wants⟩
  · rintro ⟨stacked, record, _, later, wants⟩
    exact ⟨⟨⟨stacked, record⟩, later⟩, wants⟩

/-- A segment of a line is what its input gives as a line of its own, but for the dash. -/
theorem translate_segment_input {context : Context} {input : Text} {segment : Segment}
    (member : segment ∈ (translate context input).segments) :
    segment.outcome = Table.standard.translateEntry context segment.input ∧
      Text.Trimmed segment.input ∧ segment.input ≠ [] ∧
        (translate context segment.input).segments = [⟨segment.input, segment.outcome, false⟩] := by
  obtain ⟨i, place⟩ := List.mem_iff_getElem?.mp member
  rw [getElem?_segments, Option.map_eq_some_iff] at place
  obtain ⟨entry, among, rfl⟩ := place
  obtain ⟨trimmed, nonempty, single⟩ :=
    Stack.entry_of_mem (Text.trimmed_trim input) (List.mem_of_getElem? among)
  exact ⟨rfl, trimmed, nonempty, (translate_of_single context trimmed nonempty single).2⟩

/-- Translation is local to the segments of a line. A segment shows the translation of
its own input, and a dash in front of it in the stated cases only. -/
theorem translate_local (context : Context) (input : Text) :
    (translate context input).output =
        List.intercalate ['§'] ((translate context input).segments.map Segment.output) ∧
      ∀ i segment, (translate context input).segments[i]? = some segment →
        (NeedsDash context input i segment →
          segment.output = '-' :: translateEntry context segment.input) ∧
        (¬ NeedsDash context input i segment →
          segment.output = translateEntry context segment.input) ∧
        ((translate context input).stacked = true → OpensNameRecord input.trim → 0 < i →
          BeginsLed segment.output) ∧
        ∃ alone, (translate context segment.input).segments = [alone] ∧
          alone.input = segment.input ∧ alone.rule? = segment.rule? ∧
            alone.failed = segment.failed ∧ alone.output = translateEntry context segment.input := by
  refine ⟨rfl, ?_⟩
  intro i segment place
  have inside := (List.getElem?_eq_some_iff.mp place).1
  obtain ⟨own, trimmed, nonempty, alone⟩ := translate_segment_input (List.mem_of_getElem? place)
  have dashed := dash_eq_true_iff place
  have text : segment.outcome.text = translateEntry context segment.input := by
    rw [own, translateEntry]
  refine ⟨fun needs => ?_, fun spared => ?_, fun stacked record later => ?_, ?_⟩
  · rw [Segment.output, if_pos (dashed.mpr needs), text]
  · rw [Segment.output, if_neg fun dash => spared (dashed.mp dash), text]
  · by_cases wants : WantsDash segment.outcome segment.input
    · rw [Segment.output, if_pos (dashed.mpr ⟨stacked, record, by omega, later, wants⟩)]
      exact ⟨'-', rfl, by simp⟩
    · rw [Segment.output, if_neg fun dash => wants (dashed.mp dash).wants]
      rw [own, ← hasLeader_eq_false_iff context (Text.trim_eq_self_iff.mpr trimmed) nonempty,
        Bool.not_eq_false, ← own] at wants
      exact hasLeader_eq_true_iff.mp wants
  · exact ⟨_, alone, rfl, rfl, rfl, text⟩

end Shorthand
