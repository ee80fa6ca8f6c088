import Mathlib.Data.List.Induction
import Shorthand.Command.Run
import Shorthand.Proofs.Command.Settings

/-! Directives: options with all they need, also those that name the entry. They are read one by
one, whatever follows them. After them hold the only entry, the last departure date, the last
choice of color, and a report if one of them asks for it; a second entry is refused. -/
namespace Shorthand

/-- Nothing is around the command: no input, no terminal and no trace, on one day of 2026. -/
def Environment.quiet : Environment where
  stdin := none
  terminal := false
  trace := false
  today := ⟨2026, 10, 19, by decide⟩

/-- How an entry is named by an option. -/
inductive Naming where
  /-- `-i` and the entry are two words. -/
  | short
  /-- `--input` and the entry are two words. -/
  | long
  /-- `--input=` and the entry are one word. -/
  | joined

namespace Naming

def words (value : Text) : Naming → List Text
  | .short => ["-i".toList, value]
  | .long => ["--input".toList, value]
  | .joined => ["--input=".toList ++ value]

/-- The entry that is named. Repetitions of `--input=` in one word do not belong to it. -/
def entry (value : Text) : Naming → Text
  | .joined => Argument.dropRepeated "--input=".toList value
  | _ => value

end Naming

/-- An option with all it needs. -/
inductive Directive where
  | verbose (long : Bool)
  | set (setting : Setting)
  | input (naming : Naming) (value : Text)

namespace Directive

def words : Directive → List Text
  | .verbose long => [if long then "--verbose".toList else "-v".toList]
  | .set setting => setting.words
  | .input naming value => naming.words value

theorem length_words_pos (directive : Directive) : 0 < directive.words.length := by
  cases directive with
  | verbose long => exact Nat.one_pos
  | set setting =>
    cases setting with
    | color enabled => exact Nat.one_pos
    | departure spelling value date readable => cases spelling <;> exact Nat.succ_pos _
  | input naming value => cases naming <;> exact Nat.succ_pos _

/-- Whether the directive asks for a report. -/
def isVerbose : Directive → Bool
  | .verbose _ => true
  | _ => false

/-- The choice of color, if the directive makes one. -/
def color? : Directive → Option Bool
  | .set (.color enabled) => some enabled
  | _ => none

/-- The departure date that the directive sets, which can also be none. -/
def departure? : Directive → Option (Option Date)
  | .set (.departure _ _ date _) => some date
  | _ => none

/-- The entry that the directive names. -/
def entry? : Directive → Option Text
  | .input naming value => some (naming.entry value)
  | _ => none

/-- The entries that directives name. -/
def entries (directives : List Directive) : List Text := directives.filterMap entry?

/-- What holds after directives of which at most one names an entry. -/
def options (terminal : Bool) (directives : List Directive) : Options where
  input := (entries directives).head?
  departure := (directives.filterMap departure?).getLast?.join
  verbose := directives.any isVerbose
  color := (directives.filterMap color?).getLast?.getD terminal

end Directive

namespace Options

variable {options : Options} {argument entry : Text} {rest : List Text}

theorem read_verbose (meaning : Argument.ofText argument = .verbose) :
    read options (argument :: rest) = read { options with verbose := true } rest := by
  conv_lhs => rw [read.eq_def]
  simp only [meaning]

theorem read_input (meaning : Argument.ofText argument = .input) :
    read options (argument :: entry :: rest) =
      (do read (← options.withInput entry) rest) := by
  conv_lhs => rw [read.eq_def]
  simp only [meaning]

theorem read_inputIs (meaning : Argument.ofText argument = .inputIs entry) :
    read options (argument :: rest) = (do read (← options.withInput entry) rest) := by
  conv_lhs => rw [read.eq_def]
  simp only [meaning]

theorem read_endOfOptions (options : Options) (words : List Text) :
    read options ("--".toList :: words) =
      if (joinWords words).blank then .ok (.translate options)
      else (options.withInput (joinWords words)).map .translate := by
  have meaning : Argument.ofText "--".toList = .endOfOptions := by decide
  rw [read.eq_def]
  simp only [meaning]

theorem read_word (options : Options) (plain : ¬ ['-'] <+: argument) :
    read options (argument :: rest) =
      (options.withInput (joinWords (argument :: rest))).map .translate := by
  rw [read.eq_def]
  simp only [Argument.ofText_of_plain plain]

end Options

namespace Directive

/-- An entry is taken in each of its namings. -/
theorem read_naming (options : Options) (naming : Naming) (value : Text) (rest : List Text) :
    Options.read options (naming.words value ++ rest) =
      (do Options.read (← options.withInput (naming.entry value)) rest) := by
  cases naming with
  | short => exact Options.read_input (by decide)
  | long => exact Options.read_input (by decide)
  | joined => exact Options.read_inputIs (Argument.ofText_input value)

theorem entries_concat (directives : List Directive) (directive : Directive) :
    entries (directives ++ [directive]) = entries directives ++ directive.entry?.toList := by
  cases named : directive.entry? <;> simp [entries, named]

/-- One more choice of color changes the color only. -/
theorem options_concat_color (terminal : Bool) (directives : List Directive) (color : Bool) :
    options terminal (directives ++ [.set (.color color)]) =
      { options terminal directives with color } := by
  simp [options, entries, entry?, departure?, color?, isVerbose]

/-- One more directive is read, unless it names a second entry. -/
theorem read_next (terminal : Bool) {directives : List Directive}
    (single : (entries directives).length ≤ 1) (directive : Directive) (rest : List Text) :
    Options.read (options terminal directives) (directive.words ++ rest) =
      if (entries (directives ++ [directive])).length ≤ 1 then
        Options.read (options terminal (directives ++ [directive])) rest
      else .error .repeatedInput := by
  cases directive with
  | verbose long =>
    have meaning : Argument.ofText (if long then "--verbose".toList else "-v".toList) =
        .verbose := by
      cases long <;> decide
    rw [if_pos (by simpa [entries_concat, entry?] using single)]
    refine (Options.read_verbose meaning).trans ?_
    simp [options, entries, entry?, departure?, color?, isVerbose]
  | set setting =>
    rw [if_pos (by simpa [entries_concat, entry?] using single)]
    cases setting with
    | color enabled =>
      rw [options_concat_color]
      exact Setting.read_choice _ enabled rest
    | departure spelling value date readable =>
      refine (Setting.read_spelling _ readable spelling rest).trans ?_
      simp [options, entries, entry?, departure?, color?, isVerbose]
  | input naming value =>
    refine (read_naming _ naming value rest).trans ?_
    cases given : entries directives with
    | nil =>
      have first : (options terminal directives).input = none := by rw [options, given]; rfl
      rw [if_pos (by simp [entries_concat, given, entry?]), Options.withInput, first]
      simp [options, entries_concat, given, entry?, departure?, color?, isVerbose, bind,
        Except.bind]
    | cons entry others =>
      have second : (options terminal directives).input = some entry := by rw [options, given]; rfl
      rw [if_neg (by simp [entries_concat, given, entry?]), Options.withInput, second]
      rfl

/-- Directives are read up to a second entry, whatever follows them. -/
theorem read_directives (terminal : Bool) (directives : List Directive) (rest : List Text) :
    Options.read { color := terminal } (directives.flatMap words ++ rest) =
      if (entries directives).length ≤ 1 then Options.read (options terminal directives) rest
      else .error .repeatedInput := by
  -- From the last directive backwards, since what holds is changed by the directives in order.
  induction directives using List.reverseRecOn generalizing rest with
  | nil => rfl
  | append_singleton directives directive ih =>
    rw [List.flatMap_append, List.flatMap_singleton, List.append_assoc, ih]
    by_cases single : (entries directives).length ≤ 1
    · rw [if_pos single, read_next terminal single]
    · have several : ¬ (entries (directives ++ [directive])).length ≤ 1 := by
        rw [entries_concat, List.length_append]
        omega
      rw [if_neg single, if_neg several]

end Directive

/-- Where the arguments hold the entry, standard input is left alone. -/
theorem Options.lines_of_entry {options : Options} {entry : Text}
    (named : options.input = some entry) (stdin stdin' : Option Text) :
    options.lines stdin = options.lines stdin' := by
  simp only [Options.lines, named]

namespace Request

variable {environment : Environment} {options : Options}

theorem plan_of_lines {lines : List Text} (given : options.lines environment.stdin = .ok lines) :
    plan environment (.translate options) =
      .ok (.job ⟨lines, ⟨options.departure, environment.today⟩, options.verbose, options.color,
        environment.trace⟩) := by
  rw [plan, Options.job, given]
  rfl

theorem plan_of_no_lines {error : UsageError}
    (missing : options.lines environment.stdin = .error error) :
    plan environment (.translate options) = .error error := by
  rw [plan, Options.job, missing]
  rfl

end Request

namespace Command

variable {environment : Environment} {arguments arguments' : List Text}

theorem plan_of_lines {options : Options} {lines : List Text}
    (asked : request environment.terminal arguments = .ok (.translate options))
    (given : options.lines environment.stdin = .ok lines) :
    plan environment arguments = .job ⟨lines, ⟨options.departure, environment.today⟩,
      options.verbose, options.color, environment.trace⟩ := by
  simp only [plan, asked, bind, Except.bind, Request.plan_of_lines given]

/-- Of the arguments a run uses nothing but what they ask for. -/
theorem run_congr (timing : Nat → Timing)
    (same : request environment.terminal arguments = request environment.terminal arguments') :
    run timing environment arguments = run timing environment arguments' := by
  simp only [run, plan, same]

/-- Standard input makes no difference to a run whose arguments hold the entry. -/
theorem run_of_entry (timing : Nat → Timing) {stdin : Option Text}
    (named : ∀ options, request environment.terminal arguments = .ok (.translate options) →
      options.input.isSome = true) :
    run timing { environment with stdin } arguments = run timing environment arguments := by
  have planned : plan { environment with stdin } arguments = plan environment arguments := by
    simp only [plan]
    cases asked : request environment.terminal arguments with
    | error error => rfl
    | ok asked' =>
      cases asked' with
      | help => rfl
      | version => rfl
      | translate options =>
        obtain ⟨entry, input⟩ := Option.isSome_iff_exists.mp (named options asked)
        simp only [bind, Except.bind, Request.plan, Options.job,
          Options.lines_of_entry input stdin environment.stdin]
  rw [run, run, planned]

end Command
end Shorthand
