import Shorthand.Proofs.Command.Trace
import Shorthand.Proofs.Line.Influence
import Shorthand.Proofs.Line.Output
import Shorthand.Proofs.Text.Lines

/-! Lines on standard input. What is answered to them is put together from what is answered to
each line alone: the outputs one below the other, and the greatest of the exit codes. No output
holds a newline, so each line of the input has one line of the output, and it does not matter
how the lines of the input are ended. -/
namespace Shorthand

/-- The answer to lines that are translated in a context, none of them blank. -/
def Answer.ofLines (context : Context) (trace : Bool) (lines : List Text) : Answer where
  code := if lines.any fun line => (translate context line).hasFailures then 1 else 0
  stdout := lines.flatMap fun line => (translate context line).output ++ ['\n']
  stderr := if trace then lines.flatMap fun line => (translate context line).trace else []

namespace Answer

theorem ofLines_congr {context context' : Context} (departs : context.departure = context'.departure)
    (year : context.currentYear = context'.currentYear) (trace : Bool) (lines : List Text) :
    ofLines context trace lines = ofLines context' trace lines := by
  simp only [ofLines, translate_congr departs year]

/-- Blanks around the lines make no difference. -/
theorem ofLines_map_trim (context : Context) (trace : Bool) (lines : List Text) :
    ofLines context trace (lines.map Text.trim) = ofLines context trace lines := by
  have same : ∀ line : Text, translate context line.trim =
      { translate context line with text := line.trim } := by
    intro line
    simp only [translate, Table.translate, Text.trim_eq_self_iff.mpr (Text.trimmed_trim line)]
  simp only [ofLines, List.any_map, List.flatMap_map, Function.comp_def, same]
  rfl

section

variable (context : Context) (trace : Bool)

theorem ofLines_append_stdout (first second : List Text) :
    (ofLines context trace (first ++ second)).stdout =
      (ofLines context trace first).stdout ++ (ofLines context trace second).stdout :=
  List.flatMap_append

theorem ofLines_append_code (first second : List Text) :
    (ofLines context trace (first ++ second)).code =
      max (ofLines context trace first).code (ofLines context trace second).code := by
  simp only [ofLines, List.any_append]
  cases first.any fun line => (translate context line).hasFailures <;>
    cases second.any fun line => (translate context line).hasFailures <;> rfl

/-- The exit code for lines is the greatest of those for each of them. -/
theorem max?_code_ofLines (trace' : Bool) {lines : List Text} (nonempty : lines ≠ []) :
    ((lines.map fun line => ofLines context trace' [line]).map code).max? =
      some (ofLines context trace lines).code := by
  have alone : ∀ line, (ofLines context trace' [line]).code =
      if (translate context line).hasFailures then 1 else 0 := by
    intro line
    simp only [ofLines, List.any_cons, List.any_nil, Bool.or_false]
  rw [List.map_map, List.max?_eq_some_iff, List.mem_map, List.forall_mem_map]
  simp only [Function.comp_apply, alone]
  by_cases fails : (lines.any fun line => (translate context line).hasFailures) = true
  · have code : (ofLines context trace lines).code = 1 := if_pos fails
    obtain ⟨line, member, failing⟩ := List.any_eq_true.mp fails
    rw [code]
    refine ⟨⟨line, member, if_pos failing⟩, fun other _ => ?_⟩
    split <;> omega
  · have code : (ofLines context trace lines).code = 0 := if_neg fails
    have clean : ∀ line ∈ lines, ¬ (translate context line).hasFailures = true :=
      fun line member failing => fails (List.any_eq_true.mpr ⟨line, member, failing⟩)
    obtain ⟨line, member⟩ := List.exists_mem_of_ne_nil _ nonempty
    rw [code]
    refine ⟨⟨line, member, if_neg (clean line member)⟩, fun other among => ?_⟩
    rw [if_neg (clean other among)]

end

/-- One answer has the contents of several others: of each its only line, in order, and the
greatest of their exit codes. -/
structure LineByLine (answer : Answer) (others : List Answer) : Prop where
  newlines : answer.stdout.count '\n' = others.length
  line : ∀ (k : Nat) (other : Answer), others[k]? = some other → ∃ shown,
    (answer.stdout.splitOn '\n')[k]? = some shown ∧ other.stdout = shown ++ ['\n']
  greatest : (others.map Answer.code).max? = some answer.code

/-- The answer to lines is made of the answers to each of them. -/
theorem lineByLine_ofLines {context : Context} {lines : List Text} (trace trace' : Bool)
    (nonempty : lines ≠ []) (single : ∀ line ∈ lines, '\n' ∉ line) :
    LineByLine (ofLines context trace lines)
      (lines.map fun line => ofLines context trace' [line]) := by
  have printed : (ofLines context trace lines).stdout.splitOn '\n' =
      (lines.map fun line => (translate context line).output) ++ [[]] := by
    have absent : ∀ shown ∈ lines.map fun line => (translate context line).output,
        '\n' ∉ shown := by
      intro shown member
      obtain ⟨line, among, rfl⟩ := List.mem_map.mp member
      exact not_mem_output (single line among) (by decide) (by decide)
    rw [← Text.splitOn_ended absent, List.flatMap_map]
    rfl
  refine ⟨?_, ?_, ?_⟩
  · have parts := congrArg List.length printed
    rw [Text.length_splitOn] at parts
    simpa using parts
  · intro k other place
    rw [List.getElem?_map, Option.map_eq_some_iff] at place
    obtain ⟨line, among, rfl⟩ := place
    refine ⟨(translate context line).output, ?_, List.append_nil _⟩
    have inside := (List.getElem?_eq_some_iff.mp among).1
    rw [printed, List.getElem?_append_left (by simpa using inside), List.getElem?_map, among]
    rfl
  · exact max?_code_ofLines context trace trace' nonempty

end Answer

/-- A job without a report prints one output below the other. -/
theorem Job.run_of_bare {job : Job} (bare : job.verbose = false) (timing : Nat → Timing) :
    job.run timing = Answer.ofLines job.context job.trace job.lines := by
  have printed : (job.translations.zipIdx.flatMap fun placed =>
      job.print (timing placed.2) placed.1) =
        job.translations.flatMap fun translation => translation.output ++ ['\n'] := by
    simp only [print, bare, Bool.false_eq_true, if_false]
    conv_rhs => rw [← List.zipIdx_map_fst 0 job.translations, List.flatMap_map]
  rw [run_eq, printed]
  simp only [Answer.ofLines, translations, List.any_map, List.flatMap_map, Function.comp_def]

namespace Command

theorem run_of_lines {environment : Environment} {arguments : List Text} {options : Options}
    {lines : List Text} (bare : options.verbose = false)
    (given : options.lines environment.stdin = .ok lines)
    (read : request environment.terminal arguments = .ok (.translate options))
    (timing : Nat → Timing) :
    run timing environment arguments =
      Answer.ofLines ⟨options.departure, environment.today⟩ environment.trace lines := by
  rw [run, plan_of_lines read given]
  exact Job.run_of_bare bare timing

theorem run_of_no_lines {environment : Environment} {arguments : List Text} {options : Options}
    {error : UsageError} (missing : options.lines environment.stdin = .error error)
    (read : request environment.terminal arguments = .ok (.translate options))
    (timing : Nat → Timing) :
    run timing environment arguments = refusal error := by
  have planned : plan environment arguments = .answer (refusal error) := by
    simp only [plan, read, bind, Except.bind, Request.plan_of_no_lines missing]
  rw [run, planned]

/-- The answer under some settings to a text on standard input. -/
def runText (timing : Nat → Timing) (environment : Environment) (settings : List Setting)
    (t : Text) : Answer :=
  run timing { environment with stdin := some t } (settings.flatMap Setting.words)

/-- The answer under some settings to one line, which is given as an argument. -/
def runLine (timing : Nat → Timing) (environment : Environment) (settings : List Setting)
    (line : Text) : Answer :=
  run timing environment (settings.flatMap Setting.words ++ ["--input".toList, line])

section

variable (timing : Nat → Timing) (environment : Environment) (settings : List Setting)

/-- The lines that are not blank are answered, and without one the command is refused. -/
theorem runText_eq (t : Text) : runText timing environment settings t =
    if t.trimmedLines = [] then refusal .noInput
    else Answer.ofLines ⟨Setting.departureAfter none settings, environment.today⟩
      environment.trace t.trimmedLines := by
  obtain ⟨color, read⟩ := Setting.read_settings settings none environment.terminal []
  rw [List.append_nil] at read
  have given : Options.lines ({ environment with stdin := some t } : Environment).stdin
      ⟨none, Setting.departureAfter none settings, false, color⟩ =
        if t.filledLines.all Text.blank then .error .noInput else .ok t.filledLines := by
    show (if t.filledLines.all Text.blank then _ else _) = _
    split <;> rfl
  by_cases filled : t.Filled
  · have solid : ¬ t.filledLines.all Text.blank = true := by
      obtain ⟨line, member⟩ :=
        List.exists_mem_of_ne_nil _ fun none => Text.filledLines_eq_nil_iff.mp none filled
      intro all
      have spaces := List.all_eq_true.mp all line member
      rw [Text.solid_of_mem_filledLines member] at spaces
      cases spaces
    rw [if_neg solid] at given
    rw [if_neg fun none => Text.trimmedLines_eq_nil_iff.mp none filled,
      ← Text.map_trim_filledLines, Answer.ofLines_map_trim]
    exact run_of_lines rfl given read timing
  · rw [Text.filledLines_eq_nil_iff.mpr filled, List.all_nil, if_pos rfl] at given
    rw [if_pos (Text.trimmedLines_eq_nil_iff.mpr filled)]
    exact run_of_no_lines given read timing

theorem runText_of_filled {t : Text} (filled : t.Filled) :
    runText timing environment settings t =
      Answer.ofLines ⟨Setting.departureAfter none settings, environment.today⟩ environment.trace
        t.trimmedLines := by
  rw [runText_eq, if_neg fun none => Text.trimmedLines_eq_nil_iff.mp none filled]

theorem runLine_eq {line : Text} (solid : line.blank = false) :
    runLine timing environment settings line =
      Answer.ofLines ⟨Setting.departureAfter none settings, environment.today⟩ environment.trace
        [line] := by
  obtain ⟨color, read⟩ := Setting.read_settings settings none environment.terminal
    ["--input".toList, line]
  have given : Options.lines environment.stdin
      ⟨some line, Setting.departureAfter none settings, false, color⟩ = .ok [line] := by
    show (if [line].all Text.blank then _ else _) = _
    rw [List.all_cons, solid, Bool.false_and]
    rfl
  exact run_of_lines rfl given read timing

end

end Command

/-- Lines on standard input are translated one by one and in order. Each has one line of the
output, which is what the command prints for it alone, and the exit code is the greatest of
theirs. So the answers to two texts make up the answer to the one below the other, and it does
not matter how the lines are ended. Without anything to translate the command is refused. -/
theorem run_batch (settings : List Setting) {environment environment' : Environment}
    (year : environment.today.year = environment'.today.year) (timing timing' : Nat → Timing) :
    (∀ t : Text, t.Filled →
      Answer.LineByLine (Command.runText timing environment settings t)
        (t.filledLines.map (Command.runLine timing' environment' settings))) ∧
      (∀ a b : Text, a.Filled → b.Filled →
        (Command.runText timing environment settings (a ++ '\n' :: b)).stdout =
            (Command.runText timing' environment' settings a).stdout ++
              (Command.runText timing' environment' settings b).stdout ∧
          (Command.runText timing environment settings (a ++ '\n' :: b)).code =
            max (Command.runText timing' environment' settings a).code
              (Command.runText timing' environment' settings b).code) ∧
      (∀ t : Text, Command.runText timing environment settings t.withReturns =
        Command.runText timing environment settings t) ∧
      ∀ t : Text, (∀ line ∈ t.lines, line.blank = true) →
        (Command.runText timing environment settings t).code = 2 ∧
          (Command.runText timing environment settings t).stdout = [] := by
  -- Of today both runs use the year only.
  have same : ∀ trace lines, Answer.ofLines ⟨Setting.departureAfter none settings,
      environment'.today⟩ trace lines =
        Answer.ofLines ⟨Setting.departureAfter none settings, environment.today⟩ trace lines :=
    Answer.ofLines_congr rfl year.symm
  refine ⟨fun t filled => ?_, fun a b filledA filledB => ?_, fun t => ?_, fun t blank => ?_⟩
  · have alone : t.filledLines.map (Command.runLine timing' environment' settings) =
        t.filledLines.map fun line => Answer.ofLines
          ⟨Setting.departureAfter none settings, environment.today⟩ environment'.trace [line] := by
      refine List.map_congr_left fun line member => ?_
      rw [Command.runLine_eq _ _ _ (Text.solid_of_mem_filledLines member), same]
    rw [Command.runText_of_filled _ _ _ filled, alone, ← Text.map_trim_filledLines,
      Answer.ofLines_map_trim]
    refine Answer.lineByLine_ofLines _ _ ?_ ?_
    · exact fun none => Text.filledLines_eq_nil_iff.mp none filled
    · exact fun line member => Text.not_mem_of_mem_lines (List.mem_of_mem_filter member)
  · rw [Command.runText_of_filled _ _ _ (filledA.append_newline b),
      Command.runText_of_filled _ _ _ filledA, Command.runText_of_filled _ _ _ filledB, same, same,
      Text.trimmedLines_append_newline]
    exact ⟨Answer.ofLines_append_stdout .., Answer.ofLines_append_code ..⟩
  · rw [Command.runText_eq, Command.runText_eq, Text.trimmedLines_withReturns]
  · have none : t.trimmedLines = [] := by
      rw [Text.trimmedLines_eq_nil_iff]
      intro ⟨line, member, solid⟩
      rw [blank line member] at solid
      cases solid
    rw [Command.runText_eq, if_pos none]
    exact ⟨rfl, rfl⟩

/-- A name, a blank line and a child without a birth date, and below them an entry for itself:
what a terminal shows for both texts on one day is put together from what the command prints for
each on the last day of the year, with a trace. -/
theorem run_batch_three :
    Text.Filled "NM1A/B MR\r\n \nNM1C/D MS(CHD/31FEB20)\r".toList ∧ Text.Filled " SP".toList ∧
      Environment.quiet.today.year = (⟨2026, 12, 31, by decide⟩ : Date).year ∧
      (Command.runText Timing.unmeasured { Environment.quiet with terminal := true }
          [.color false, .departure (.joined 0) "2024-06-01".toList
            (some ⟨2024, 6, 1, by decide⟩) rfl]
          ("NM1A/B MR\r\n \nNM1C/D MS(CHD/31FEB20)\r".toList ++ '\n' :: " SP".toList)).stdout =
        ("-A/B MR\nERROR: cannot compute age (NM1C/D MS(CHD/31FEB20), DOB: 31FEB20, " ++
          "Dep: 2024-06-01): 2020-02-31 is not a calendar date\nD\n").toList ∧
      (Command.runText Timing.unmeasured { Environment.quiet with terminal := true }
          [.color false, .departure (.joined 0) "2024-06-01".toList
            (some ⟨2024, 6, 1, by decide⟩) rfl]
          ("NM1A/B MR\r\n \nNM1C/D MS(CHD/31FEB20)\r".toList ++ '\n' :: " SP".toList)).code = 1 := by
  have above : Text.Filled "NM1A/B MR\r\n \nNM1C/D MS(CHD/31FEB20)\r".toList :=
    ⟨"NM1A/B MR".toList, by decide +kernel, by decide +kernel⟩
  have below : Text.Filled " SP".toList := ⟨" SP".toList, by decide +kernel, by decide +kernel⟩
  have year : ({ Environment.quiet with terminal := true } : Environment).today.year =
      ({ Environment.quiet with
        trace := true, today := ⟨2026, 12, 31, by decide⟩ } : Environment).today.year := rfl
  obtain ⟨_, together, _⟩ := run_batch [.color false, .departure (.joined 0) "2024-06-01".toList
    (some ⟨2024, 6, 1, by decide⟩) rfl] year Timing.unmeasured Timing.unmeasured
  obtain ⟨stdout, code⟩ := together _ _ above below
  refine ⟨above, below, rfl, ?_, ?_⟩
  · rw [stdout]
    decide +kernel
  · rw [code]
    decide +kernel

end Shorthand
