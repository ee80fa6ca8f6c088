import Shorthand.Proofs.Entry.Capitals
import Shorthand.Proofs.Line.Failures

/-! Lines that differ in the case of ASCII letters only. They are split at the same places, the
same rules take their segments, and the same segments fail; what is shown is the same but for
the case of letters. A dash can depend on the case in one way: of the marks of the target
system only W is a letter, and as a mark it is a capital. So a continuation that passes through
gets a dash in front of a small w, and none in front of a capital one. -/
namespace Shorthand

namespace Stack

theorem cutHere_capitals (t : Text) :
    cutHere t.capitals = (cutHere t).map (Prod.map Text.capitals Text.capitals) := by
  rw [cutHere, cutHere, Pattern.match?_capitals]
  cases separator.match? t with
  | none => rfl
  | some found =>
    simp only [Option.map_some, Option.bind_eq_bind, Option.bind_some, Match.capitals,
      List.head?_map]
    cases found.parts.head? <;> rfl

theorem firstCut_capitals (t : Text) :
    firstCut t.capitals = (firstCut t).map (Prod.map Text.capitals Text.capitals) := by
  induction t with
  | nil => rfl
  | cons c t ih =>
    have here := cutHere_capitals (c :: t)
    rw [Text.capitals_cons] at here
    rw [Text.capitals_cons, firstCut, firstCut, here, ih]
    cases cutHere (c :: t) with
    | some cut => rfl
    | none => cases firstCut t <;> rfl

theorem isStacked_capitals (t : Text) : isStacked t.capitals = isStacked t := by
  rw [isStacked, isStacked, firstCut_capitals, Option.isSome_map]

/-- A text in capitals is split at the same separators. -/
theorem pieces_capitals (t : Text) : pieces t.capitals = (pieces t).map Text.capitals := by
  have search := firstCut_capitals t
  induction t using pieces.induct with
  | case1 t single =>
    rw [single] at search
    rw [pieces_of_firstCut_none single, pieces_of_firstCut_none search]
    rfl
  | case2 t before after cut shorter ih =>
    rw [cut] at search
    rw [pieces_of_firstCut_some cut, pieces_of_firstCut_some search, ih (firstCut_capitals after)]
    rfl

theorem entries_capitals (line : Text) :
    entries line.capitals = (entries line).map Text.capitals := by
  have trimmed : ∀ piece ∈ pieces line,
      (Text.trim ∘ Text.capitals) piece = (Text.capitals ∘ Text.trim) piece :=
    fun piece _ => Text.trim_capitals piece
  rw [entries, entries, pieces_capitals, List.map_map, List.map_congr_left trimmed, ← List.map_map,
    List.filter_map]
  simp only [Function.comp_def, ne_eq, Text.capitals_eq_nil_iff]

end Stack

theorem isNameRecord_capitals (t : Text) : isNameRecord t.capitals = isNameRecord t := by
  have front : t.capitals.take 3 = Text.capitals (t.take 3) := List.map_take.symm
  rw [isNameRecord, isNameRecord, front]
  show (Text.capitals (Text.capitals (t.take 3)) == _) = _
  rw [Text.capitals_capitals]
  rfl

theorem head?_capitals_eq_iff {t : Text} :
    t.capitals.head? = some 'W' ↔ t.head? = some 'w' ∨ t.head? = some 'W' := by
  cases t with
  | nil => simp
  | cons c t =>
    have upper : c.toUpper = 'W' ↔ c = 'W' ∨ c = 'w' := Letter.toUpper_eq_iff rfl
    simp [upper, or_comm]

/-- A small w in front becomes a mark of the target system, and the marks stay what they are. -/
theorem beginsLed_capitals_iff {t : Text} :
    BeginsLed t.capitals ↔ BeginsLed t ∨ t.head? = some 'w' := by
  cases t with
  | nil => simp [BeginsLed]
  | cons c t =>
    have upper : ∀ mark, Letter.isPlain mark = true →
        (c.toUpper = mark ↔ c = mark ∨ c = mark.toLower) :=
      fun mark plain => Letter.toUpper_eq_iff plain
    simp [BeginsLed, upper '-' rfl, upper '*' rfl, upper '0' rfl, upper '1' rfl, upper '9' rfl,
      upper 'W' rfl, or_assoc]

/-- An outcome that names no rule leaves room for a dash if the entry begins with no mark. -/
theorem wantsDash_iff_of_unnamed {outcome : Outcome} {entry : Text}
    (unnamed : outcome.rule? = none) : WantsDash outcome entry ↔ ¬ BeginsLed entry := by
  cases outcome with
  | unmatched line => simp [WantsDash, Outcome.isFailure, Outcome.rule?]
  | translated rule output => cases unnamed
  | failed failure => cases unnamed

/-- A segment behind the first one of a stacked name record that passed through and begins with
the letter W. -/
structure ShowsCase (context : Context) (input : Text) (i : Nat) (segment : Segment) : Prop where
  stacked : (translate context input).stacked = true
  record : OpensNameRecord input.trim
  later : 0 < i
  unmatched : segment.rule? = none
  letter : segment.input.head? = some 'w' ∨ segment.input.head? = some 'W'

variable {context : Context} {input input' : Text} {i : Nat} {segment segment' : Segment}

/-- Such a segment gets a dash before a small w, and none before a capital one. -/
theorem ShowsCase.output (shows : ShowsCase context input i segment)
    (place : (translate context input).segments[i]? = some segment) :
    (segment.input.head? = some 'w' ∧ segment.output = '-' :: segment.input) ∨
      (segment.input.head? = some 'W' ∧ segment.output = segment.input) := by
  have inside := (List.getElem?_eq_some_iff.mp place).1
  have later := shows.later
  have unnamed := shows.unmatched
  have text : segment.outcome.text = segment.input := by
    have own := outcome_of_mem_segments (List.mem_of_getElem? place)
    rw [Segment.rule?, own] at unnamed
    rw [own, Table.apply_of_rule?_eq_none unnamed]
    rfl
  have dashed : segment.dash = true ↔ ¬ BeginsLed segment.input := by
    rw [dash_eq_true_iff place, ← wantsDash_iff_of_unnamed unnamed]
    exact ⟨fun needs => needs.wants,
      fun wants => ⟨shows.stacked, shows.record, by omega, later, wants⟩⟩
  rcases shows.letter with small | capital
  · have unmarked : ¬ BeginsLed segment.input := by simp [BeginsLed, small]
    rw [Segment.output, if_pos (dashed.mpr unmarked), text]
    exact Or.inl ⟨small, rfl⟩
  · have marked : BeginsLed segment.input := by simp [BeginsLed, capital]
    rw [Segment.output, if_neg fun dash => dashed.mp dash marked, text]
    exact Or.inr ⟨capital, rfl⟩

section

variable (same : input.capitals = input'.capitals)
include same

theorem trim_of_capitals_eq : input.trim.capitals = input'.trim.capitals := by
  rw [← Text.trim_capitals, ← Text.trim_capitals, same]

theorem stacked_of_capitals_eq :
    (translate context input).stacked = (translate context input').stacked := by
  show Stack.isStacked input.trim = Stack.isStacked input'.trim
  rw [← Stack.isStacked_capitals, trim_of_capitals_eq same, Stack.isStacked_capitals]

theorem record_of_capitals_eq (record : OpensNameRecord input.trim) :
    OpensNameRecord input'.trim := by
  rw [← isNameRecord_eq_true_iff] at record ⊢
  rw [← isNameRecord_capitals, ← trim_of_capitals_eq same, isNameRecord_capitals, record]

theorem entries_of_capitals_eq : (Stack.entries input.trim).map Text.capitals =
    (Stack.entries input'.trim).map Text.capitals := by
  rw [← Stack.entries_capitals, ← Stack.entries_capitals, trim_of_capitals_eq same]

theorem length_of_capitals_eq :
    (translate context input).segments.length = (translate context input').segments.length := by
  have entries := congrArg List.length (entries_of_capitals_eq same)
  rw [← translate_map_input context input, ← translate_map_input context input'] at entries
  simpa using entries

variable (place : (translate context input).segments[i]? = some segment)
  (place' : (translate context input').segments[i]? = some segment')
include place place'

/-- At the same place stand the same texts, translated alike, but for the case of letters. -/
theorem segments_of_capitals_eq : segment.input.capitals = segment'.input.capitals ∧
    segment.outcome.capitals = segment'.outcome.capitals := by
  have entries := congrArg (·[i]?) (entries_of_capitals_eq same)
  rw [getElem?_segments, Option.map_eq_some_iff] at place place'
  obtain ⟨entry, among, rfl⟩ := place
  obtain ⟨entry', among', rfl⟩ := place'
  have texts : entry.capitals = entry'.capitals := by simpa [among, among'] using entries
  refine ⟨texts, ?_⟩
  show (Table.standard.translateEntry context entry).capitals = _
  rw [← Table.translateEntry_capitals, texts, Table.translateEntry_capitals]

theorem rule?_of_capitals_eq : segment.rule? = segment'.rule? := by
  have outcomes := congrArg Outcome.rule? (segments_of_capitals_eq same place place').2
  rwa [Outcome.rule?_capitals, Outcome.rule?_capitals] at outcomes

theorem failed_of_capitals_eq : segment.failed = segment'.failed := by
  have outcomes := congrArg Outcome.isFailure (segments_of_capitals_eq same place place').2
  rwa [Outcome.isFailure_capitals, Outcome.isFailure_capitals] at outcomes

theorem ShowsCase.of_capitals_eq (shows : ShowsCase context input i segment) :
    ShowsCase context input' i segment' where
  stacked := stacked_of_capitals_eq same ▸ shows.stacked
  record := record_of_capitals_eq same shows.record
  later := shows.later
  unmatched := rule?_of_capitals_eq same place place' ▸ shows.unmatched
  letter := by
    rw [← head?_capitals_eq_iff, ← (segments_of_capitals_eq same place place').1,
      head?_capitals_eq_iff]
    exact shows.letter

/-- A dash is given in both lines, unless the case of the first letter shows in it. -/
theorem NeedsDash.of_capitals_eq (hidden : ¬ ShowsCase context input i segment)
    (needs : NeedsDash context input i segment) : NeedsDash context input' i segment' where
  stacked := stacked_of_capitals_eq same ▸ needs.stacked
  record := record_of_capitals_eq same needs.record
  several := length_of_capitals_eq same ▸ needs.several
  later := needs.later
  wants := by
    have named := rule?_of_capitals_eq same place place'
    rcases needs.wants with fails | leaves | ⟨unmatched, unmarked⟩
    · exact Or.inl ((failed_of_capitals_eq same place place').symm.trans fails)
    · exact Or.inr (Or.inl (named.symm.trans leaves))
    · refine Or.inr (Or.inr ⟨named.symm.trans unmatched, fun marked' => ?_⟩)
      have either := beginsLed_capitals_iff.mpr (Or.inl marked')
      rw [← (segments_of_capitals_eq same place place').1, beginsLed_capitals_iff] at either
      rcases either with marked | small
      · exact unmarked marked
      · exact hidden ⟨needs.stacked, needs.record, needs.later, unmatched, Or.inl small⟩

end

/-- Translation does not regard the case of ASCII letters. Lines that differ in it have as many
segments, of the same texts and rules, that fail alike and show the same, but for the case of
letters and for the dash of a segment that shows the case of its first letter. -/
theorem translate_sameAscii (context : Context) {input input' : Text}
    (same : Letter.sameAscii input input' = true) :
    (translate context input).stacked = (translate context input').stacked ∧
      (translate context input).segments.length = (translate context input').segments.length ∧
      ∀ (i : Nat) (segment segment' : Segment),
        (translate context input).segments[i]? = some segment →
        (translate context input').segments[i]? = some segment' →
          Letter.sameAscii segment.input segment'.input = true ∧
          segment.rule? = segment'.rule? ∧ segment.failed = segment'.failed ∧
          (ShowsCase context input i segment ↔ ShowsCase context input' i segment') ∧
          (¬ ShowsCase context input i segment →
            Letter.sameAscii segment.output segment'.output = true) ∧
          (ShowsCase context input i segment → ∀ shown ∈ [segment, segment'],
            (shown.input.head? = some 'w' ∧ shown.output = '-' :: shown.input) ∨
              (shown.input.head? = some 'W' ∧ shown.output = shown.input)) := by
  rw [Text.sameAscii_iff] at same
  refine ⟨stacked_of_capitals_eq same, length_of_capitals_eq same, ?_⟩
  intro i segment segment' place place'
  obtain ⟨texts, outcomes⟩ := segments_of_capitals_eq same place place'
  have shows := ShowsCase.of_capitals_eq same place place'
  have shows' := ShowsCase.of_capitals_eq same.symm place' place
  refine ⟨Text.sameAscii_iff.mpr texts, rule?_of_capitals_eq same place place',
    failed_of_capitals_eq same place place', ⟨shows, shows'⟩, fun hidden => ?_, ?_⟩
  · have dashes : segment.dash = segment'.dash := by
      rw [Bool.eq_iff_iff, dash_eq_true_iff place, dash_eq_true_iff place']
      exact ⟨NeedsDash.of_capitals_eq same place place' hidden,
        NeedsDash.of_capitals_eq same.symm place' place fun shown => hidden (shows' shown)⟩
    have shown := congrArg (fun outcome => outcome.text.capitals) outcomes
    rw [Outcome.capitals_text, Outcome.capitals_text] at shown
    rw [Text.sameAscii_iff, Segment.output, Segment.output, dashes]
    by_cases dash : segment'.dash = true
    · rw [if_pos dash, if_pos dash, Text.capitals_cons, Text.capitals_cons, shown]
    · rw [if_neg dash, if_neg dash, shown]
  · intro here shown among
    rcases List.mem_pair.mp among with rfl | rfl
    · exact here.output place
    · exact (shows here).output place'

/-- Two spellings of a name record with a continuation in W, an availability line and a child
without a birth date. Only the dash of the second segment tells them apart. -/
theorem translate_sameAscii_four :
    Letter.sameAscii "nm1Kim/A mr 1wu/b ms 1anx/ake miss1NM1c/d mstr(chd/31feb20)".toList
        "NM1KIM/a MR 1Wu/b MS 1ANX/AKE MISS1nm1C/D MSTR(CHD/31Feb20)".toList = true ∧
      (translate ⟨some ⟨2024, 6, 1, by decide⟩, ⟨2026, 1, 1, by decide⟩⟩
        "nm1Kim/A mr 1wu/b ms 1anx/ake miss1NM1c/d mstr(chd/31feb20)".toList).segments.map
          Segment.output = ["-Kim/A mr".toList, "-wu/b ms".toList, "1x¤ke miss".toList,
            ("-ERROR: cannot compute age (NM1c/d mstr(chd/31feb20), DOB: 31feb20, " ++
              "Dep: 2024-06-01): 2020-02-31 is not a calendar date").toList] ∧
      (translate ⟨some ⟨2024, 6, 1, by decide⟩, ⟨2026, 1, 1, by decide⟩⟩
        "NM1KIM/a MR 1Wu/b MS 1ANX/AKE MISS1nm1C/D MSTR(CHD/31Feb20)".toList).segments.map
          Segment.output = ["-KIM/a MR".toList, "Wu/b MS".toList, "1X¤KE MISS".toList,
            ("-ERROR: cannot compute age (nm1C/D MSTR(CHD/31Feb20), DOB: 31Feb20, " ++
              "Dep: 2024-06-01): 2020-02-31 is not a calendar date").toList] ∧
      ∀ (i : Nat) (segment segment' : Segment),
        (translate ⟨some ⟨2024, 6, 1, by decide⟩, ⟨2026, 1, 1, by decide⟩⟩
          "nm1Kim/A mr 1wu/b ms 1anx/ake miss1NM1c/d mstr(chd/31feb20)".toList).segments[i]? =
            some segment →
        (translate ⟨some ⟨2024, 6, 1, by decide⟩, ⟨2026, 1, 1, by decide⟩⟩
          "NM1KIM/a MR 1Wu/b MS 1ANX/AKE MISS1nm1C/D MSTR(CHD/31Feb20)".toList).segments[i]? =
            some segment' →
          segment.rule? = segment'.rule? ∧ segment.failed = segment'.failed := by
  have same : Letter.sameAscii
      "nm1Kim/A mr 1wu/b ms 1anx/ake miss1NM1c/d mstr(chd/31feb20)".toList
      "NM1KIM/a MR 1Wu/b MS 1ANX/AKE MISS1nm1C/D MSTR(CHD/31Feb20)".toList = true := by decide
  obtain ⟨_, _, places⟩ := translate_sameAscii _ same
  refine ⟨same, by decide +kernel, by decide +kernel, ?_⟩
  intro i segment segment' place place'
  obtain ⟨_, named, fails, _⟩ := places i segment segment' place place'
  exact ⟨named, fails⟩

end Shorthand
