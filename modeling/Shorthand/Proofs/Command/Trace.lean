import Shorthand.Proofs.Command.Directives
import Shorthand.Proofs.Line.Trace

/-! The trace of a run. A trace is written to its own output while lines are translated, and what
is printed and the exit code are the same without it. It consists of the notes about each line,
in the order of the lines. -/
namespace Shorthand

/-- The answer to a job in terms of its translations, and of what can be read off them. -/
theorem Job.run_eq (timing : Nat → Timing) (job : Job) : job.run timing =
    { code := if job.translations.any Translation.hasFailures then 1 else 0
      stdout := job.translations.zipIdx.flatMap fun placed =>
        job.print (timing placed.2) placed.1
      stderr := if job.trace then job.translations.flatMap Translation.trace else [] } := by
  have traced : job.lines.mapM (translateTraced job.trace job.context) =
      .of job.trace job.translations (job.translations.flatMap Translation.trace) := by
    rw [translations, List.flatMap_map]
    exact Traced.mapM_of fun line _ => translateTraced_eq job.trace job.context line
  rw [run, traced]
  rfl

/-- The same plan, with a trace or without one. -/
def Plan.traced (wanted : Bool) : Plan → Plan
  | .answer given => .answer given
  | .job planned => .job { planned with trace := wanted }

namespace Command

variable (environment : Environment) (arguments : List Text)

/-- Whether a trace is wanted makes no difference to a plan but in its job. -/
theorem plan_traced (wanted : Bool) : plan { environment with trace := wanted } arguments =
    (plan environment arguments).traced wanted := by
  simp only [plan]
  cases request environment.terminal arguments with
  | error error => rfl
  | ok asked =>
    cases asked with
    | help => rfl
    | version => rfl
    | translate options =>
      simp only [bind, Except.bind, Request.plan, Options.job]
      cases options.lines environment.stdin with
      | error error => rfl
      | ok lines => rfl

/-- What is printed and the exit code do not depend on whether a trace is wanted, and the exit
code does not depend on the durations either. -/
theorem run_untouched (timing timing' : Nat → Timing) (wanted : Bool) :
    (run timing { environment with trace := wanted } arguments).stdout =
        (run timing environment arguments).stdout ∧
      (run timing' { environment with trace := wanted } arguments).code =
        (run timing environment arguments).code := by
  simp only [run, plan_traced]
  cases plan environment arguments with
  | answer answer => exact ⟨rfl, rfl⟩
  | job job =>
    simp only [Plan.traced, Job.run_eq]
    exact ⟨rfl, rfl⟩

variable {environment arguments}

/-- Where lines are translated, their traces are written one after another if that is wanted, and
nothing else is. -/
theorem stderr_of_lines {options : Options} {lines : List Text}
    (asked : request environment.terminal arguments = .ok (.translate options))
    (given : options.lines environment.stdin = .ok lines) (timing : Nat → Timing)
    (wanted : Bool) :
    (run timing { environment with trace := wanted } arguments).stderr = if wanted then
      lines.flatMap fun line => (translate ⟨options.departure, environment.today⟩ line).trace
    else [] := by
  rw [run, plan_traced, plan_of_lines asked given]
  simp only [Plan.traced, Job.run_eq, Job.translations, List.flatMap_map]

end Command

/-- A trace is asked for or not without any effect on what is printed and on the exit code. A
command line that is carried out writes nothing but the trace, if one is wanted: for each of its
lines, in order, a note about each segment, in order, and a note about the separation. Each of
these notes is one line of the trace, whatever stands in the segments. -/
theorem run_traced (timing timing' : Nat → Timing) (environment : Environment)
    (arguments : List Text) :
    (Command.run timing { environment with trace := true } arguments).stdout =
        (Command.run timing { environment with trace := false } arguments).stdout ∧
      (Command.run timing' { environment with trace := true } arguments).code =
        (Command.run timing { environment with trace := false } arguments).code ∧
      (∀ asked, Command.request environment.terminal arguments = .ok asked →
        asked = .help ∨ asked = .version →
          (Command.run timing { environment with trace := true } arguments).stderr = []) ∧
      ∀ options lines,
        Command.request environment.terminal arguments = .ok (.translate options) →
        options.lines environment.stdin = .ok lines →
          (Command.run timing { environment with trace := false } arguments).stderr = [] ∧
          (Command.run timing { environment with trace := true } arguments).stderr =
            (lines.flatMap fun line =>
              (translate ⟨options.departure, environment.today⟩ line).trace) ∧
          ∀ line ∈ lines,
            (translate ⟨options.departure, environment.today⟩ line).trace.splitOn '\n' =
                (translate ⟨options.departure, environment.today⟩ line).notes ++ [[]] ∧
              (translate ⟨options.departure, environment.today⟩ line).trace.count '\n' =
                (translate ⟨options.departure, environment.today⟩ line).segments.length + 1 := by
  have printed := Command.run_untouched environment arguments timing timing'
  refine ⟨?_, ?_, ?_, ?_⟩
  · rw [(printed true).1, (printed false).1]
  · rw [(printed true).2]
    exact (Command.run_untouched environment arguments timing timing false).2.symm
  · rintro asked read (rfl | rfl)
    · simp only [Command.run, Command.plan, read]
      rfl
    · simp only [Command.run, Command.plan, read]
      rfl
  · intro options lines asked given
    refine ⟨?_, ?_, fun line _ => notes_of_trace _ line⟩
    · exact Command.stderr_of_lines asked given timing false
    · exact Command.stderr_of_lines asked given timing true

/-- A newline in a segment is written as two characters, and the rule that fails for want of a
departure date is named like one that succeeds. -/
theorem run_traced_of_child_on_two_lines :
    Command.request false ["--input".toList, "APE MR1 NM1C MS\n(CHD/01JAN15)".toList] =
        .ok (.translate ⟨some "APE MR1 NM1C MS\n(CHD/01JAN15)".toList, none, false, false⟩) ∧
      Options.lines none ⟨some "APE MR1 NM1C MS\n(CHD/01JAN15)".toList, none, false, false⟩ =
        .ok ["APE MR1 NM1C MS\n(CHD/01JAN15)".toList] ∧
      (Command.run Timing.unmeasured { Environment.quiet with trace := true }
          ["--input".toList, "APE MR1 NM1C MS\n(CHD/01JAN15)".toList]).stderr =
        ("[rule_match] <pass-through> <- \"APE MR\"\n" ++
          "[rule_match] child <- \"NM1C MS\\n(CHD/01JAN15)\"\n" ++
          "[split] separator=true segments=2\n").toList := by
  have asked : Command.request false
      ["--input".toList, "APE MR1 NM1C MS\n(CHD/01JAN15)".toList] =
        .ok (.translate ⟨some "APE MR1 NM1C MS\n(CHD/01JAN15)".toList, none, false, false⟩) := rfl
  have given : Options.lines none
      ⟨some "APE MR1 NM1C MS\n(CHD/01JAN15)".toList, none, false, false⟩ =
        .ok ["APE MR1 NM1C MS\n(CHD/01JAN15)".toList] := rfl
  obtain ⟨_, _, _, translates⟩ := run_traced Timing.unmeasured Timing.unmeasured Environment.quiet
    ["--input".toList, "APE MR1 NM1C MS\n(CHD/01JAN15)".toList]
  refine ⟨asked, given, ?_⟩
  obtain ⟨_, stderr, _⟩ := translates _ _ asked given
  have translated : translate ⟨none, Environment.quiet.today⟩
      "APE MR1 NM1C MS\n(CHD/01JAN15)".toList =
        ⟨"APE MR1 NM1C MS\n(CHD/01JAN15)".toList, true,
          [⟨"APE MR".toList, .unmatched "APE MR".toList, false⟩,
            ⟨"NM1C MS\n(CHD/01JAN15)".toList,
              .failed (.missingDeparture "child" "NM1C MS\n(CHD/01JAN15)".toList), false⟩]⟩ := by
    decide +kernel
  have first : Quoted.write "APE MR".toList = "\"APE MR\"".toList :=
    Quoted.write_of_visible (by decide)
  have second : Quoted.write "NM1C MS\n(CHD/01JAN15)".toList =
      "\"NM1C MS\\n(CHD/01JAN15)\"".toList :=
    @Quoted.write_of_two_lines "NM1C MS".toList "(CHD/01JAN15)".toList (by decide) (by decide)
  have traced {s t v w : Text} (wrote : Quoted.write s = v) (wrote' : Quoted.write t = w)
      (text : Text) :
      Translation.trace ⟨text, true, [⟨s, .unmatched s, false⟩,
          ⟨t, .failed (.missingDeparture "child" t), false⟩]⟩ =
        "[rule_match] ".toList ++ "<pass-through>".toList ++ " <- ".toList ++ v ++ ['\n'] ++
          ("[rule_match] ".toList ++ "child".toList ++ " <- ".toList ++ w ++ ['\n']) ++
          (Table.separationNote true 2 ++ ['\n']) := by
    subst wrote wrote'
    rw [Translation.trace, Translation.separationLine, List.flatMap_cons,
      List.flatMap_singleton]
    rfl
  calc
    _ = _ := stderr
    _ = _ := List.flatMap_singleton ..
    _ = _ := congrArg Translation.trace translated
    _ = _ := traced first second _
    _ = _ := by decide +kernel

end Shorthand
