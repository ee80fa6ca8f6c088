import Shorthand.Proofs.Command.Endings
import Shorthand.Proofs.Report.Detailed

/-! Color on the command line. A choice of color can be made in every command line that is carried
out, and leaves the job as it is but for the color. Where no line holds the escape character, color
sequences are all that color adds to what is printed. -/
namespace Shorthand

namespace Job

variable (job : Job)

theorem decorates_print {timing : Timing} (durations : timing.Inert) {translation : Translation}
    (inert : translation.Inert) :
    Text.Decorates ({ job with color := true }.print timing translation)
      ({ job with color := false }.print timing translation) := by
  unfold print
  dsimp only
  split
  · exact Styled.decorates (Report.inert_detailed durations _ inert)
  · exact .of_inert (List.not_mem_append inert.output (by decide))

/-- With color a job prints what it prints without color, and color sequences. -/
theorem decorates_stdout {timing : Nat → Timing} (durations : ∀ place, (timing place).Inert)
    (inert : ∀ line ∈ job.lines, '\x1b' ∉ line) :
    Text.Decorates ({ job with color := true }.run timing).stdout
      ({ job with color := false }.run timing).stdout := by
  rw [run_eq, run_eq]
  refine .flatMap fun placed member => job.decorates_print (durations placed.2) ?_
  obtain ⟨line, among, translated⟩ := List.mem_map.mp (List.fst_mem_of_mem_zipIdx member)
  rw [← translated]
  exact inert_translate (inert line among) job.context

end Job

namespace Command

variable {environment : Environment} {arguments : List Text} {options : Options}
  {lines : List Text}

/-- In a command line that is carried out there is a place where each choice of color can be made,
and holds. -/
theorem exists_place_of_choice
    (asked : request environment.terminal arguments = .ok (.translate options)) :
    ∃ before after, arguments = before ++ after ∧ ∀ color,
      request environment.terminal (before ++ (Setting.color color).words ++ after) =
        .ok (.translate { options with color }) := by
  obtain ⟨directives, named, _, completes⟩ := exists_completes [] asked
  have held := asked.symm.trans (completes.request environment.terminal)
  split at held
  · next single =>
    cases held
    obtain ⟨rest, last, rfl, closes, rfl⟩ := completes
    refine ⟨_, rest, rfl, fun color => ?_⟩
    have chosen : Completes
        (directives.flatMap Directive.words ++ (Setting.color color).words ++ rest)
        (directives ++ [.set (.color color)]) (Directive.entries directives ++ last.toList) := by
      refine ⟨rest, last, ?_, closes, ?_⟩
      · rw [List.flatMap_append, List.flatMap_singleton]
        rfl
      · rw [Directive.entries_concat]
        exact congrArg (· ++ last.toList) (List.append_nil _).symm
    rw [chosen.request, if_pos single, Directive.options_concat_color]
  · cases held

/-- Whatever the choice of color is, the run is a run of one job, which takes the choice over. -/
theorem exists_job_of_choices (given : options.lines environment.stdin = .ok lines) :
    ∃ job : Job, job.lines = lines ∧ ∀ {arguments : List Text} {color : Bool},
      request environment.terminal arguments = .ok (.translate { options with color }) →
        ∀ timing, run timing environment arguments = { job with color }.run timing := by
  refine ⟨⟨lines, ⟨options.departure, environment.today⟩, options.verbose, options.color,
    environment.trace⟩, rfl, fun {arguments color} asked timing => ?_⟩
  have same : ({ options with color } : Options).lines environment.stdin = .ok lines := given
  rw [run, plan_of_lines asked same]

end Command

/-- Color is decoration. In every command line that is carried out, with a report or without one,
there is a place where both choices of color can be made. Take two command lines that ask for the
same, one with color and one without, and lines that hold no escape character: what the first
prints is what the second prints once its color sequences are deleted, and the second writes no
escape character. Both show the same durations here, which can be one fixed text in the place of
all; the exit codes are the same whatever the durations are. -/
theorem run_decolored {environment : Environment} {arguments : List Text} {options : Options}
    {lines : List Text}
    (asked : Command.request environment.terminal arguments = .ok (.translate options))
    (given : options.lines environment.stdin = .ok lines)
    (inert : ∀ line ∈ lines, '\x1b' ∉ line) :
    (∃ before after, arguments = before ++ after ∧ ∀ color,
      Command.request environment.terminal
          (before ++ [if color then "--color".toList else "--no-color".toList] ++ after) =
        .ok (.translate { options with color })) ∧
      ∀ colored plain,
        Command.request environment.terminal colored =
            .ok (.translate { options with color := true }) →
        Command.request environment.terminal plain =
            .ok (.translate { options with color := false }) →
          (∀ timing : Nat → Timing, (∀ place, (timing place).Inert) →
            (Command.run timing environment colored).stdout.decolored =
                (Command.run timing environment plain).stdout ∧
              '\x1b' ∉ (Command.run timing environment plain).stdout) ∧
          ∀ timing timing', (Command.run timing environment colored).code =
            (Command.run timing' environment plain).code := by
  obtain ⟨job, rfl, runs⟩ := Command.exists_job_of_choices given
  refine ⟨Command.exists_place_of_choice asked, fun colored plain withColor without => ?_⟩
  refine ⟨fun timing durations => ?_, fun timing timing' => ?_⟩
  · rw [runs withColor, runs without]
    have decorates := job.decorates_stdout durations inert
    exact ⟨decorates.decolored_eq, decorates.inert⟩
  · rw [runs withColor, runs without, Job.code_eq, Job.code_eq]

/-- A terminal, where both choices overrule the color. The text of the line looks like the rest of
color sequences, and one of its segments fails. -/
theorem run_decolored_of_lookalike :
    Command.request true (["-v", "[0m", "MR1NM1;mA", "MS(CHD/01JAN15)"].map String.toList) =
        .ok (.translate ⟨some "[0m MR1NM1;mA MS(CHD/01JAN15)".toList, none, true, true⟩) ∧
      Options.lines none ⟨some "[0m MR1NM1;mA MS(CHD/01JAN15)".toList, none, true, true⟩ =
        .ok ["[0m MR1NM1;mA MS(CHD/01JAN15)".toList] ∧
      (∀ line ∈ ["[0m MR1NM1;mA MS(CHD/01JAN15)".toList], '\x1b' ∉ line) ∧
      Timing.Inert ⟨Duration.write 1500000, Duration.write 890, fun _ => Duration.write 12000⟩ ∧
      (Command.run (fun _ => ⟨Duration.write 1500000, Duration.write 890,
            fun _ => Duration.write 12000⟩) { Environment.quiet with terminal := true }
          (["--color", "-v", "[0m", "MR1NM1;mA", "MS(CHD/01JAN15)"].map
            String.toList)).stdout.decolored =
        ((["", "⚙  Translating: \"[0m MR1NM1;mA MS(CHD/01JAN15)\"", "  departure: none", "",
            "━━━ Segments ━━━", "  passenger separator found, 2 segments", "  [0] [0m MR → [0m MR",
            "      rule: <pass-through>  │ 12µs"].map String.toList) ++
          ["  [1] NM1;mA MS(CHD/01JAN15) → ".toList ++
              (Failure.missingDeparture "child" "NM1;mA MS(CHD/01JAN15)".toList).message,
            "      rule: child  │ 12µs".toList, [], "━━━ Result ━━━".toList, "  [0m MR§".toList ++
              (Failure.missingDeparture "child" "NM1;mA MS(CHD/01JAN15)".toList).message, [],
            "━━━ Timing ━━━".toList, "  Total: 1.5ms  │  Split: 890ns".toList, []]).flatMap
          (· ++ ['\n']) ∧
      (Command.run Timing.unmeasured { Environment.quiet with terminal := true }
          (["--color", "-v", "[0m", "MR1NM1;mA", "MS(CHD/01JAN15)"].map String.toList)).code =
        1 := by
  have asked : Command.request true
      (["-v", "[0m", "MR1NM1;mA", "MS(CHD/01JAN15)"].map String.toList) =
        .ok (.translate ⟨some "[0m MR1NM1;mA MS(CHD/01JAN15)".toList, none, true, true⟩) := rfl
  have given : Options.lines none
      ⟨some "[0m MR1NM1;mA MS(CHD/01JAN15)".toList, none, true, true⟩ =
        .ok ["[0m MR1NM1;mA MS(CHD/01JAN15)".toList] := rfl
  have inert : ∀ line ∈ ["[0m MR1NM1;mA MS(CHD/01JAN15)".toList], '\x1b' ∉ line :=
    List.forall_mem_singleton.mpr (by decide)
  have durations := Timing.inert_of_durations 1500000 890 fun _ => 12000
  obtain ⟨_, choices⟩ := @run_decolored { Environment.quiet with terminal := true } _ _ _
    asked given inert
  obtain ⟨printed, code⟩ := choices
    (["--color", "-v", "[0m", "MR1NM1;mA", "MS(CHD/01JAN15)"].map String.toList)
    (["-v", "--color", "--no-color", "[0m", "MR1NM1;mA", "MS(CHD/01JAN15)"].map String.toList)
    rfl rfl
  refine ⟨asked, given, inert, durations, ?_, ?_⟩
  · calc
      _ = _ := (printed _ fun _ => durations).1
      _ = _ := by decide +kernel
  · calc
      _ = _ := code _ Timing.unmeasured
      _ = _ := by decide +kernel

end Shorthand
