import Shorthand.Line.Trace
import Shorthand.Proofs.Line.Continuation
import Shorthand.Proofs.Text.Parts
import Shorthand.Proofs.Text.Quoted

/-! What is traced. Translating with a trace gives what translating without one gives. Where a
trace is wanted, what is written on the way can be read off the translation: each segment is given
to the rules once, and the name that is noted when a rule matches is the one that the outcome has,
also if the rule fails after that. Every note is a line of its own, whatever the segments hold. -/
namespace Shorthand

namespace Traced

variable {α β : Type}

/-- What a loop over a list gives and writes is put together from its rounds. -/
theorem mapM_eq (f : α → Traced β) (xs : List α) :
    xs.mapM f = ⟨xs.map fun x => (f x).value, xs.flatMap fun x => (f x).written⟩ := by
  induction xs with
  | nil => rfl
  | cons x xs ih =>
    rw [List.mapM_cons, ih]
    simp [bind_eq, pure_eq]

/-- The result of a computation that writes a text if a trace is wanted. -/
def of (wanted : Bool) (value : α) (t : Text) : Traced α := ⟨value, if wanted then t else []⟩

theorem note_bind (wanted : Bool) (line : Text) (value : α) :
    (do note wanted line; return value) = of wanted value (line ++ ['\n']) := by
  rw [bind_eq, pure_eq, note, List.append_nil, of]

theorem of_bind {wanted : Bool} {value : α} {result : β} {s t : Text} {next : α → Traced β}
    (continues : next value = of wanted result t) :
    of wanted value s >>= next = of wanted result (s ++ t) := by
  rw [bind_eq, of, continues]
  cases wanted <;> rfl

theorem of_bind_pure (wanted : Bool) (value : α) (t : Text) (next : α → β) :
    (do return next (← of wanted value t)) = of wanted (next value) t := by
  rw [bind_eq, pure_eq, List.append_nil]
  rfl

/-- A loop writes if its rounds do. -/
theorem mapM_of {f : α → Traced β} {xs : List α} {wanted : Bool} {value : α → β} {t : α → Text}
    (each : ∀ x ∈ xs, f x = of wanted (value x) (t x)) :
    xs.mapM f = of wanted (xs.map value) (xs.flatMap t) := by
  have values : (xs.map fun x => (f x).value) = xs.map value :=
    List.map_congr_left fun x member => by rw [each x member, of]
  have texts : (xs.flatMap fun x => (f x).written) = if wanted then xs.flatMap t else [] := by
    rw [List.flatMap_congr fun x member => congrArg Traced.written (each x member)]
    cases wanted <;> simp [of]
  rw [mapM_eq, values, texts, of]

end Traced

namespace Table

/-- The name that is noted for an outcome. -/
def notedName (outcome : Outcome) : Text := (outcome.rule?.getD "<pass-through>").toList

/-- The rules come to the same outcome, and note the line once, under the name of the outcome. -/
theorem applyTraced_eq (table : Table) (wanted : Bool) (context : Context) (line : Text) :
    table.applyTraced wanted context line = .of wanted (table.apply context line)
      (matchNote (notedName (table.apply context line)) line ++ ['\n']) := by
  induction table with
  | nil => exact Traced.note_bind ..
  | cons rule rules ih =>
    cases matched : rule.pattern.match? line with
    | none =>
      simp only [applyTraced, matched, apply_of_match_none matched]
      exact ih
    | some found =>
      have applied : apply context line (rule :: rules) = rule.outcome context line found :=
        apply_of_match_some matched
      have named : notedName (rule.outcome context line found) = rule.name.toList := by
        rw [notedName, rule.rule?_outcome]
        rfl
      rw [applied, named]
      simp only [applyTraced, matched, Rule.outcome]
      cases rule.run context line found with
      | ok output => exact Traced.note_bind ..
      | error failure => exact Traced.note_bind ..

theorem translateEntryTraced_eq (table : Table) (wanted : Bool) (context : Context) {entry : Text}
    (unchanged : entry.trim = entry) (nonempty : entry ≠ []) :
    table.translateEntryTraced wanted context entry =
      .of wanted (table.translateEntry context entry)
        (matchNote (notedName (table.translateEntry context entry)) entry ++ ['\n']) := by
  rw [translateEntryTraced, unchanged, if_neg nonempty, applyTraced_eq,
    translateEntry_of_trimmed unchanged nonempty]

theorem segmentsTraced_eq (table : Table) (wanted : Bool) (context : Context) (line : Text) :
    table.segmentsTraced wanted context line = .of wanted (table.segments context line)
      ((table.segments context line).flatMap Segment.traceLine) := by
  rw [segmentsTraced, segments, List.flatMap_map]
  refine Traced.mapM_of fun piece member => ?_
  obtain ⟨among, full⟩ := List.mem_filter.mp member
  obtain ⟨part, _, rfl⟩ := List.mem_map.mp among
  have unchanged := Text.trim_eq_self_iff.mpr (Text.trimmed_trim part)
  rw [translateEntryTraced_eq table wanted context unchanged (by simpa using full)]
  exact Traced.of_bind_pure ..

end Table

/-- A dash changes nothing in the trace. -/
theorem flatMap_traceLine_continueRecord (segments : List Segment) :
    (continueRecord segments).flatMap Segment.traceLine = segments.flatMap Segment.traceLine := by
  cases segments with
  | nil => rfl
  | cons first others =>
    rw [continueRecord, List.flatMap_cons, List.flatMap_map]
    rfl

theorem length_continueRecord (segments : List Segment) :
    (continueRecord segments).length = segments.length := by
  cases segments <;> simp [continueRecord]

/-- Of a translated line is traced what its segments were before any of them got a dash. -/
theorem trace_translate (context : Context) (text : Text) :
    (translate context text).trace =
      (Table.standard.segments context text.trim).flatMap Segment.traceLine ++
        (Table.separationNote (Stack.isStacked text.trim)
          (Table.standard.segments context text.trim).length ++ ['\n']) := by
  have segments : (translate context text).segments =
      if Stack.isStacked text.trim && isNameRecord text.trim then
        continueRecord (Table.standard.segments context text.trim)
      else Table.standard.segments context text.trim := rfl
  have shown : (translate context text).segments.flatMap Segment.traceLine =
      (Table.standard.segments context text.trim).flatMap Segment.traceLine := by
    rw [segments]
    split
    · exact flatMap_traceLine_continueRecord _
    · rfl
  have count : (translate context text).segments.length =
      (Table.standard.segments context text.trim).length := by
    rw [segments]
    split
    · exact length_continueRecord _
    · rfl
  have stacked : (translate context text).stacked = Stack.isStacked text.trim := rfl
  rw [Translation.trace, shown, Translation.separationLine, stacked, count]

/-- A translation with a trace is the translation without one, and writes its trace if that is
wanted. -/
theorem translateTraced_eq (wanted : Bool) (context : Context) (text : Text) :
    translateTraced wanted context text =
      .of wanted (translate context text) (translate context text).trace := by
  rw [translateTraced, Table.translateTraced, Table.segmentsTraced_eq, trace_translate]
  exact Traced.of_bind (Traced.note_bind ..)

/-- The lines of a trace: one for each segment, in order, and one about the whole. -/
def Translation.notes (translation : Translation) : List Text :=
  (translation.segments.map fun segment => Table.matchNote segment.ruleName segment.input) ++
      [Table.separationNote translation.stacked translation.segments.length]

theorem Translation.length_notes (translation : Translation) :
    translation.notes.length = translation.segments.length + 1 := by
  simp [notes]

/-- A trace is made of its notes, each with a newline behind it. -/
theorem Translation.trace_eq (translation : Translation) :
    translation.trace = translation.notes.flatMap fun note => note ++ ['\n'] := by
  rw [notes, List.flatMap_append, List.flatMap_map, List.flatMap_singleton]
  rfl

theorem Table.name_mem_of_rule?_apply {table : Table} {context : Context} {line : Text}
    {name : String} (named : (table.apply context line).rule? = some name) :
    name ∈ table.names := by
  obtain ⟨rule, found, decides, rfl⟩ := rule?_apply_eq_some_iff.mp named
  exact List.mem_map_of_mem decides.mem

/-- The names under which segments are shown. -/
def Segment.ruleNames : List Text :=
  "<pass-through>".toList :: Table.standard.names.map String.toList

theorem ruleName_mem {context : Context} {text : Text} {segment : Segment}
    (member : segment ∈ (translate context text).segments) :
    segment.ruleName ∈ Segment.ruleNames := by
  rw [Segment.ruleName, Segment.ruleNames]
  cases named : segment.rule? with
  | none => exact List.mem_cons_self
  | some name =>
    obtain ⟨own, trimmed, nonempty, _⟩ := translate_segment_input member
    rw [Segment.rule?, own, Table.translateEntry_of_trimmed
      (Text.trim_eq_self_iff.mpr trimmed) nonempty] at named
    have standard := Table.name_mem_of_rule?_apply named
    exact List.mem_cons_of_mem _ (List.mem_map_of_mem standard)

theorem newline_not_mem_matchNote {rule : Text} (inline : '\n' ∉ rule) (line : Text) :
    '\n' ∉ Table.matchNote rule line := by
  have opener : '\n' ∉ "[rule_match] ".toList := by decide
  have arrow : '\n' ∉ " <- ".toList := by decide
  exact List.not_mem_append (List.not_mem_append (List.not_mem_append opener inline) arrow)
    (Quoted.newline_not_mem_write line)

theorem newline_not_mem_separationNote (stacked : Bool) (count : Nat) :
    '\n' ∉ Table.separationNote stacked count := by
  have digits : '\n' ∉ Numeral.decimal count := fun member =>
    absurd (Nat.isDigit_of_mem_toDigits (by decide) (by decide) member) (by decide)
  have opener : '\n' ∉ "[split] separator=".toList := by decide
  have answer : '\n' ∉ if stacked then "true".toList else "false".toList := by
    cases stacked <;> decide
  have counter : '\n' ∉ " segments=".toList := by decide
  exact List.not_mem_append (List.not_mem_append (List.not_mem_append opener answer) counter) digits

/-- No note about a line holds a newline, whatever stands in the line. -/
theorem newline_not_mem_notes {context : Context} {text note : Text}
    (member : note ∈ (translate context text).notes) : '\n' ∉ note := by
  rcases List.mem_append.mp member with among | last
  · obtain ⟨segment, isSegment, rfl⟩ := List.mem_map.mp among
    have names : ∀ name ∈ Segment.ruleNames, '\n' ∉ name := by decide
    exact newline_not_mem_matchNote (names _ (ruleName_mem isSegment)) segment.input
  · rw [List.mem_singleton.mp last]
    exact newline_not_mem_separationNote _ _

/-- The trace of a line is taken apart at its newlines into its notes. -/
theorem notes_of_trace (context : Context) (text : Text) :
    (translate context text).trace.splitOn '\n' = (translate context text).notes ++ [[]] ∧
      (translate context text).trace.count '\n' = (translate context text).segments.length + 1 := by
  have parts : (translate context text).trace.splitOn '\n' =
      (translate context text).notes ++ [[]] := by
    rw [Translation.trace_eq]
    exact Text.splitOn_ended fun note member => newline_not_mem_notes member
  have count := congrArg List.length parts
  rw [Text.length_splitOn, List.length_append, Translation.length_notes] at count
  exact ⟨parts, Nat.succ.inj count⟩

end Shorthand
