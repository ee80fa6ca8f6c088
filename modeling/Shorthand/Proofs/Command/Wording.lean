import Shorthand.Proofs.Command.Directives

/-! One command in several wordings. The words of an entry can follow the options as they are,
follow them behind two hyphens, or be given by an option as one text. A valued option and its
value can be two words or one, which is then joined by an equals sign: of a value that begins with
the name of its own option and an equals sign the joined wording keeps the rest only. -/
namespace Shorthand

/-- Words behind which an option is due: options, each with the value that it takes. -/
inductive OptionDue : List Text → Prop where
  | start : OptionDue []
  | alone {argument : Text} {before : List Text} (dashed : ['-'] <+: argument)
      (other : argument ∉ ["--", "-d", "--departure", "-i", "--input"].map String.toList)
      (due : OptionDue before) : OptionDue (argument :: before)
  | valued {argument value : Text} {before : List Text}
      (takes : argument ∈ ["-d", "--departure", "-i", "--input"].map String.toList)
      (due : OptionDue before) : OptionDue (argument :: value :: before)

/-- An option without a value uses no word but its own. -/
private theorem unlike_of_alone {argument : Text} (dashed : ['-'] <+: argument)
    (other : argument ∉ ["--", "-d", "--departure", "-i", "--input"].map String.toList) :
    ∀ meaning ∈ [Argument.departure, Argument.input, Argument.endOfOptions, Argument.word],
      Argument.ofText argument ≠ meaning := by
  have excluded : ∀ meaning ∈ [Argument.departure, Argument.input, Argument.endOfOptions],
      meaning ∈ Argument.spellings.map Prod.snd ∧ ∀ word ∈ Argument.spellingsOf meaning,
        word ∈ ["--", "-d", "--departure", "-i", "--input"].map String.toList := by
    decide
  intro meaning member same
  have means := Argument.means_iff.mpr same
  have split : meaning ∈ [Argument.departure, .input, .endOfOptions] ++ [.word] := member
  rcases List.mem_append.mp split with fixed | word
  · exact other ((excluded meaning fixed).2 _ (means.mem_spellingsOf (excluded meaning fixed).1))
  · rw [List.mem_singleton.mp word] at means
    exact means.plain dashed

namespace OptionDue

/-- What is read alike where an option is due is read alike behind the words. -/
theorem read_congr {before rest rest' : List Text} (due : OptionDue before)
    (same : ∀ options, Options.read options rest = Options.read options rest')
    (options : Options) :
    Options.read options (before ++ rest) = Options.read options (before ++ rest') := by
  induction due generalizing options with
  | start => exact same options
  | @alone argument before dashed other due ih =>
    have unlike := unlike_of_alone dashed other
    rw [List.cons_append, List.cons_append, Options.read.eq_def, Options.read.eq_def options]
    cases meaning : Argument.ofText argument with
    | help | version | verbose | color | departureIs | inputIs | unknownOption =>
      simp only [meaning, ih]
    | departure | input | endOfOptions | word => exact absurd meaning (unlike _ (by decide))
  | @valued argument value before takes due ih =>
    have taken : ∀ word ∈ ["-d", "--departure", "-i", "--input"].map String.toList,
        Argument.ofText word = .departure ∨ Argument.ofText word = .input := by
      decide
    simp only [List.cons_append]
    rw [Options.read.eq_def, Options.read.eq_def options]
    rcases taken argument takes with meaning | meaning <;> simp only [meaning, ih]

end OptionDue

namespace Command

/-- However an entry is given behind the same options, the answer is the same, and standard
input has no part in it. -/
theorem run_entry_wordings (timing : Nat → Timing) (environment : Environment)
    {directives : List Directive} (unnamed : Directive.entries directives = [])
    {words : List Text} (solid : (Options.joinWords words).blank = false) (stdin : Option Text) :
    run timing environment (directives.flatMap Directive.words ++ "--".toList :: words) =
        run timing { environment with stdin }
          (directives.flatMap Directive.words ++ ["--input".toList, Options.joinWords words]) ∧
      ((∀ first ∈ words.head?, ¬ ['-'] <+: first) →
        run timing environment (directives.flatMap Directive.words ++ words) =
          run timing { environment with stdin } (directives.flatMap Directive.words ++
            ["--input".toList, Options.joinWords words])) := by
  have single : (Directive.entries directives).length ≤ 1 := by rw [unnamed]; decide
  have behind : ∀ rest, request environment.terminal (directives.flatMap Directive.words ++ rest) =
      Options.read (Directive.options environment.terminal directives) rest := by
    intro rest
    rw [request, Directive.read_directives, if_pos single]
  obtain ⟨given, taken, holds⟩ : ∃ given,
      (Directive.options environment.terminal directives).withInput (Options.joinWords words) =
        .ok given ∧ given.input = some (Options.joinWords words) := by
    rw [Options.withInput, Directive.options, unnamed]
    exact ⟨_, rfl, rfl⟩
  have option : request environment.terminal (directives.flatMap Directive.words ++
      ["--input".toList, Options.joinWords words]) = .ok (.translate given) := by
    rw [behind, Options.read_input (by decide), taken]
    rfl
  -- The option is compared for both standard inputs first; the other wordings need one only.
  have same : run timing { environment with stdin } (directives.flatMap Directive.words ++
      ["--input".toList, Options.joinWords words]) = run timing environment
        (directives.flatMap Directive.words ++ ["--input".toList, Options.joinWords words]) := by
    refine run_of_entry timing fun options asked => ?_
    rw [option] at asked
    cases asked
    rw [holds]
    rfl
  rw [same]
  refine ⟨run_congr timing ?_, fun plain => run_congr timing ?_⟩
  · rw [option, behind, Options.read_endOfOptions, if_neg (by simp [solid]), taken]
    rfl
  · cases words with
    | nil => cases solid
    | cons first others =>
      rw [option, behind, Options.read_word _ (plain first rfl), taken]
      rfl

/-- A child, behind whose name the words look like options: they belong to the entry in all three
wordings. -/
theorem run_entry_wordings_of_child :
    Directive.entries [.set (.color false), .set (.departure .short "2024-06-01".toList
        (some ⟨2024, 6, 1, by decide⟩) rfl)] = [] ∧
      (Options.joinWords (["NM1A/B", "MSTR(CHD/07AUG19)", "-h", "--"].map String.toList)).blank =
        false ∧
      (∀ first ∈ (["NM1A/B", "MSTR(CHD/07AUG19)", "-h", "--"].map String.toList).head?,
        ¬ ['-'] <+: first) ∧
      run Timing.unmeasured
          { Environment.quiet with stdin := some "FXB".toList, terminal := true }
          (["--no-color", "-d", "2024-06-01", "NM1A/B", "MSTR(CHD/07AUG19)", "-h", "--"].map
            String.toList) =
        ⟨0, "-A/B MSTR*C4\n".toList, []⟩ := by
  have plain : ∀ first ∈ (["NM1A/B", "MSTR(CHD/07AUG19)", "-h", "--"].map String.toList).head?,
      ¬ ['-'] <+: first := by
    rintro first ⟨⟩
    decide
  have unnamed : Directive.entries [.set (.color false), .set (.departure .short
      "2024-06-01".toList (some ⟨2024, 6, 1, by decide⟩) rfl)] = [] := rfl
  have solid : (Options.joinWords
      (["NM1A/B", "MSTR(CHD/07AUG19)", "-h", "--"].map String.toList)).blank = false := by decide
  have wordings := run_entry_wordings Timing.unmeasured
    { Environment.quiet with stdin := some "FXB".toList, terminal := true } unnamed solid none
  refine ⟨unnamed, solid, plain, (wordings.2 plain).trans ?_⟩
  decide +kernel

/-- Where an option is due, a value in one word with its option counts as the value without the
repetitions of the option's name before it, so the two wordings agree on all values that do not
begin with that name and an equals sign. -/
theorem run_joined_wordings (timing : Nat → Timing) (environment : Environment)
    {before : List Text} (due : OptionDue before) (value : Text) (after : List Text) :
    (run timing environment (before ++ ("--input=".toList ++ value) :: after) =
        run timing environment (before ++ "--input".toList ::
          Argument.dropRepeated "--input=".toList value :: after) ∧
      run timing environment (before ++ ("--departure=".toList ++ value) :: after) =
        run timing environment (before ++ "--departure".toList ::
          Argument.dropRepeated "--departure=".toList value :: after)) ∧
      (¬ "--input=".toList <+: value →
        run timing environment (before ++ "--input".toList :: value :: after) =
          run timing environment (before ++ ("--input=".toList ++ value) :: after)) ∧
      (¬ "--departure=".toList <+: value →
        run timing environment (before ++ "--departure".toList :: value :: after) =
          run timing environment (before ++ ("--departure=".toList ++ value) :: after)) := by
  have input : run timing environment (before ++ ("--input=".toList ++ value) :: after) =
      run timing environment (before ++ "--input".toList ::
        Argument.dropRepeated "--input=".toList value :: after) := by
    refine run_congr timing (due.read_congr (fun options => ?_) _)
    rw [Options.read_inputIs (Argument.ofText_input value),
      Options.read_input (by decide)]
  have departure : run timing environment (before ++ ("--departure=".toList ++ value) :: after) =
      run timing environment (before ++ "--departure".toList ::
        Argument.dropRepeated "--departure=".toList value :: after) := by
    refine run_congr timing (due.read_congr (fun options => ?_) _)
    rw [Options.read_departureIs (Argument.means_iff.mp (.departureIs rfl)),
      Options.read_departure (by decide)]
  refine ⟨⟨input, departure⟩, fun other => ?_, fun other => ?_⟩
  · rw [input, Argument.dropRepeated_of_not_prefix other]
  · rw [departure, Argument.dropRepeated_of_not_prefix other]

/-- An entry that looks like another option, behind a departure date that is blank. -/
theorem run_joined_wordings_of_lookalike :
    OptionDue (["-d", "", "--color"].map String.toList) ∧
      ¬ "--input=".toList <+: "--departure=x".toList ∧
      run Timing.unmeasured Environment.quiet
          (["-d", "", "--color", "--input", "--departure=x", "--what"].map String.toList) =
        run Timing.unmeasured Environment.quiet
          (["-d", "", "--color", "--input=--departure=x", "--what"].map String.toList) := by
  have due : OptionDue (["-d", "", "--color"].map String.toList) :=
    .valued (by decide) (.alone (by decide) (by decide) .start)
  have other : ¬ "--input=".toList <+: "--departure=x".toList := by decide
  have wordings := run_joined_wordings Timing.unmeasured Environment.quiet due
    "--departure=x".toList ["--what".toList]
  exact ⟨due, other, wordings.2.1 other⟩

/-- A value that begins with the name of its own option keeps that name only where it is a word of
its own: as an entry it is not the entry that the joined wording names, and as a departure
date it is refused. -/
theorem joined_wording_cuts_value :
    run Timing.unmeasured Environment.quiet
        (["--input", "--input=SP"].map String.toList) = ⟨0, "--input=SP\n".toList, []⟩ ∧
      run Timing.unmeasured Environment.quiet
        (["--input=--input=SP"].map String.toList) = ⟨0, "D\n".toList, []⟩ ∧
      (run Timing.unmeasured Environment.quiet
        (["--departure", "--departure=2024-06-01", "SP"].map String.toList)).code = 2 ∧
      (run Timing.unmeasured Environment.quiet
        (["--departure=--departure=2024-06-01", "SP"].map String.toList)).code = 0 := by
  decide +kernel

end Command
end Shorthand
