import Shorthand.Proofs.Command.Trace
import Shorthand.Proofs.Text.Lines

/-! How a command line ends. Its arguments are directives, up to one that asks for the help text or
the version, to one that cannot be carried out, or to the end of the options. What the reading
meets first decides: a text is shown, the command is refused, or the lines that are left to
translate are all translated. One of these endings is reached by every command line, and by none
are two. -/
namespace Shorthand

/-- What a command line comes to. -/
inductive Ending where
  | shown (text : Text)
  | refused (error : UsageError)
  | translated (job : Job)

/-- The answer in the end. -/
def Ending.answer (timing : Nat → Timing) : Ending → Answer
  | .shown text => ⟨0, text, []⟩
  | .refused error => ⟨2, [], error.message ++ ['\n']⟩
  | .translated job => job.run timing

/-- An argument in the place of an option that asks for the help text or the version. -/
inductive Asks : List Text → Text → Prop where
  | help {argument : Text} {others : List Text}
      (spelled : argument = "-h".toList ∨ argument = "--help".toList) :
      Asks (argument :: others) (Help.text ++ ['\n'])
  | version {argument : Text} {others : List Text}
      (spelled : argument = "-V".toList ∨ argument = "--version".toList) :
      Asks (argument :: others) Help.version

/-- An argument in the place of an option that cannot be carried out: there is no such option, its
value is missing, or the value is no departure date. -/
inductive Offends : List Text → UsageError → Prop where
  | unknown {argument : Text} {others : List Text} (unknown : Argument.Unknown argument) :
      Offends (argument :: others) (.unknownOption argument)
  | undated {argument : Text}
      (spelled : argument = "-d".toList ∨ argument = "--departure".toList) :
      Offends [argument] (.missingValue "--departure")
  | unnamed {argument : Text} (spelled : argument = "-i".toList ∨ argument = "--input".toList) :
      Offends [argument] (.missingValue "--input")
  | departure {argument value : Text} {others : List Text} {fault : Iso.Fault}
      (spelled : argument = "-d".toList ∨ argument = "--departure".toList)
      (unreadable : Context.readDeparture value = .error fault) :
      Offends (argument :: value :: others) (.invalidDeparture value)
  | departureIs {value read : Text} {others : List Text} {fault : Iso.Fault}
      (cut : Argument.dropRepeated "--departure=".toList value = read)
      (unreadable : Context.readDeparture read = .error fault) :
      Offends (("--departure=".toList ++ value) :: others) (.invalidDeparture read)

/-- The end of the options, and the entry that the words behind it make up, if they do. -/
inductive Closes : List Text → Option Text → Prop where
  | nothing : Closes [] none
  | blank {words : List Text} (blank : (Options.joinWords words).blank = true) :
      Closes ("--".toList :: words) none
  | marked {words : List Text} (solid : (Options.joinWords words).blank = false) :
      Closes ("--".toList :: words) (some (Options.joinWords words))
  | plain {first : Text} {others : List Text} (plain : ¬ ['-'] <+: first) :
      Closes (first :: others) (some (Options.joinWords (first :: others)))

/-- The arguments are directives and the end of the options; the entries that they name. -/
def Completes (arguments : List Text) (directives : List Directive) (named : List Text) : Prop :=
  ∃ rest last, arguments = directives.flatMap Directive.words ++ rest ∧ Closes rest last ∧
    named = Directive.entries directives ++ last.toList

/-- The lines to translate: the entry that is named, or else those of standard input that are not
blank. -/
inductive Supplies (stdin : Option Text) : List Text → List Text → Prop where
  | entry (entry : Text) : Supplies stdin [entry] [entry]
  | lines {t : Text} (readable : stdin = some t) : Supplies stdin [] t.filledLines

/-- The translation of lines as directives want it. -/
def Directive.job (environment : Environment) (directives : List Directive) (lines : List Text) :
    Job :=
  let options := options environment.terminal directives
  ⟨lines, ⟨options.departure, environment.today⟩, options.verbose, options.color,
    environment.trace⟩

/-- What decides how a command line ends. Before it stand directives only, which name no more than
one entry. -/
inductive Ends (environment : Environment) (arguments : List Text) : Ending → Prop where
  | shown {directives : List Directive} {rest : List Text} {text : Text}
      (split : arguments = directives.flatMap Directive.words ++ rest)
      (single : (Directive.entries directives).length ≤ 1) (asks : Asks rest text) :
      Ends environment arguments (.shown text)
  | offence {directives : List Directive} {rest : List Text} {error : UsageError}
      (split : arguments = directives.flatMap Directive.words ++ rest)
      (single : (Directive.entries directives).length ≤ 1) (offends : Offends rest error) :
      Ends environment arguments (.refused error)
  -- A second entry is refused where it is met, before what follows it is looked at.
  | repeated {directives : List Directive} {rest : List Text}
      (split : arguments = directives.flatMap Directive.words ++ rest)
      (several : 1 < (Directive.entries directives).length) :
      Ends environment arguments (.refused .repeatedInput)
  | repeatedAtEnd {directives : List Directive} {named : List Text}
      (completes : Completes arguments directives named) (several : 1 < named.length) :
      Ends environment arguments (.refused .repeatedInput)
  | unreadable {directives : List Directive} (completes : Completes arguments directives [])
      (unreadable : environment.stdin = none) :
      Ends environment arguments (.refused .unreadableInput)
  | blank {directives : List Directive} {named lines : List Text}
      (completes : Completes arguments directives named)
      (supplies : Supplies environment.stdin named lines)
      (blank : ∀ line ∈ lines, line.blank = true) :
      Ends environment arguments (.refused .noInput)
  | translated {directives : List Directive} {named lines : List Text}
      (completes : Completes arguments directives named)
      (supplies : Supplies environment.stdin named lines)
      (filled : ∃ line ∈ lines, line.blank = false) :
      Ends environment arguments (.translated (Directive.job environment directives lines))

/-- What an ending was planned as. -/
def Ending.planned : Ending → Except UsageError Plan
  | .shown text => .ok (.answer ⟨0, text, []⟩)
  | .refused error => .error error
  | .translated job => .ok (.job job)

theorem Ending.planned_inj {ending ending' : Ending} (same : ending.planned = ending'.planned) :
    ending = ending' := by
  cases ending <;> cases ending' <;> cases same <;> rfl

/-- What is asked for is read, whatever holds by then. -/
theorem Asks.read {rest : List Text} {text : Text} (asks : Asks rest text) (options : Options) :
    (Options.read options rest = .ok .help ∧ text = Help.text ++ ['\n']) ∨
      (Options.read options rest = .ok .version ∧ text = Help.version) := by
  cases asks with
  | @help argument others spelled =>
    have meaning : Argument.ofText argument = .help := by
      rcases spelled with rfl | rfl <;> decide
    have read : Options.read options (argument :: others) = .ok .help := by
      rw [Options.read.eq_def]
      simp only [meaning]
    exact .inl ⟨read, rfl⟩
  | @version argument others spelled =>
    have meaning : Argument.ofText argument = .version := by
      rcases spelled with rfl | rfl <;> decide
    have read : Options.read options (argument :: others) = .ok .version := by
      rw [Options.read.eq_def]
      simp only [meaning]
    exact .inr ⟨read, rfl⟩

theorem Asks.planned {rest : List Text} {text : Text} (asks : Asks rest text)
    (environment : Environment) (options : Options) :
    (Options.read options rest >>= Request.plan environment) = (Ending.shown text).planned := by
  rcases asks.read options with ⟨read, rfl⟩ | ⟨read, rfl⟩
  · rw [read]
    rfl
  · rw [read]
    rfl

theorem Options.withDeparture_of_error {options : Options} {value : Text} {fault : Iso.Fault}
    (unreadable : Context.readDeparture value = .error fault) :
    options.withDeparture value = .error (.invalidDeparture value) := by
  rw [withDeparture, unreadable]

theorem Offends.read {rest : List Text} {error : UsageError} (offends : Offends rest error)
    (options : Options) : Options.read options rest = .error error := by
  cases offends with
  | unknown unknown =>
    rw [Options.read.eq_def]
    simp only [Argument.ofText_of_unknown unknown]
  | @undated argument spelled =>
    have meaning : Argument.ofText argument = .departure := by
      rcases spelled with rfl | rfl <;> decide
    rw [Options.read.eq_def]
    simp only [meaning]
  | @unnamed argument spelled =>
    have meaning : Argument.ofText argument = .input := by
      rcases spelled with rfl | rfl <;> decide
    rw [Options.read.eq_def]
    simp only [meaning]
  | @departure argument value others fault spelled unreadable =>
    have meaning : Argument.ofText argument = .departure := by
      rcases spelled with rfl | rfl <;> decide
    rw [Options.read_departure meaning, Options.withDeparture_of_error unreadable]
    rfl
  | @departureIs value read others fault cut unreadable =>
    have meaning := Argument.means_iff.mp (.departureIs cut)
    rw [Options.read_departureIs meaning, Options.withDeparture_of_error unreadable]
    rfl

theorem Closes.read_none {rest : List Text} (closes : Closes rest none) (options : Options) :
    Options.read options rest = .ok (.translate options) := by
  cases closes with
  | nothing => rfl
  | blank blank => rw [Options.read_endOfOptions, if_pos blank]

theorem Closes.read_some {rest : List Text} {entry : Text} (closes : Closes rest (some entry))
    (options : Options) :
    Options.read options rest = (options.withInput entry).map .translate := by
  cases closes with
  | marked solid => rw [Options.read_endOfOptions, if_neg (Bool.eq_false_iff.mp solid)]
  | plain plain => exact Options.read_word options plain

/-- Arguments that are read to their end bring the options that hold after the directives, and
the entry that is named. -/
theorem Completes.request {arguments : List Text} {directives : List Directive}
    {named : List Text} (completes : Completes arguments directives named) (terminal : Bool) :
    Command.request terminal arguments =
      if named.length ≤ 1 then
        .ok (.translate { Directive.options terminal directives with input := named.head? })
      else .error .repeatedInput := by
  obtain ⟨rest, last, rfl, closes, rfl⟩ := completes
  rw [Command.request, Directive.read_directives]
  cases last with
  | none =>
    rw [closes.read_none, Option.toList_none, List.append_nil]
    rfl
  | some entry =>
    rw [closes.read_some]
    cases given : Directive.entries directives with
    | nil =>
      rw [Options.withInput, Directive.options, given]
      rfl
    | cons first others =>
      have several : ¬ (first :: others ++ [entry]).length ≤ 1 := by simp
      rw [Option.toList_some, if_neg several, Options.withInput, Directive.options, given]
      split <;> rfl

/-- What ends the directives. -/
inductive Stops : List Text → Prop where
  | asks {rest : List Text} {text : Text} (asks : Asks rest text) : Stops rest
  | offends {rest : List Text} {error : UsageError} (offends : Offends rest error) : Stops rest
  | closes {rest : List Text} {last : Option Text} (closes : Closes rest last) : Stops rest

/-- Where an option is due there stands a directive or what ends the directives. -/
def Due (arguments : List Text) : Prop :=
  (∃ (directive : Directive) (rest : List Text), arguments = directive.words ++ rest) ∨
    Stops arguments

private theorem due_departure {argument : Text}
    (spelled : argument = "-d".toList ∨ argument = "--departure".toList) (rest : List Text) :
    Due (argument :: rest) := by
  cases rest with
  | nil => exact .inr (.offends (.undated spelled))
  | cons value rest =>
    cases readable : Context.readDeparture value with
    | error fault => exact .inr (.offends (.departure spelled readable))
    | ok date =>
      rcases spelled with rfl | rfl
      · exact .inl ⟨.set (.departure .short value date readable), rest, rfl⟩
      · exact .inl ⟨.set (.departure .long value date readable), rest, rfl⟩

private theorem due_departureIs (value : Text) (rest : List Text) :
    Due (("--departure=".toList ++ value) :: rest) := by
  cases readable : Context.readDeparture
      (Argument.dropRepeated "--departure=".toList value) with
  | error fault => exact .inr (.offends (.departureIs rfl readable))
  | ok date =>
    obtain ⟨again, whole⟩ :=
      Argument.exists_replicate_append_dropRepeated "--departure=".toList value
    refine .inl ⟨.set (.departure (.joined again) _ date readable), rest, ?_⟩
    conv_lhs => rw [whole]
    show [_] ++ rest = [_] ++ rest
    rw [List.replicate_succ, List.flatten_cons, List.append_assoc]

private theorem due_input {argument : Text}
    (spelled : argument = "-i".toList ∨ argument = "--input".toList) (rest : List Text) :
    Due (argument :: rest) := by
  cases rest with
  | nil => exact .inr (.offends (.unnamed spelled))
  | cons value rest =>
    rcases spelled with rfl | rfl
    · exact .inl ⟨.input .short value, rest, rfl⟩
    · exact .inl ⟨.input .long value, rest, rfl⟩

private theorem due_endOfOptions (words : List Text) : Due ("--".toList :: words) := by
  cases blank : (Options.joinWords words).blank with
  | true => exact .inr (.closes (.blank blank))
  | false => exact .inr (.closes (.marked blank))

/-- There is always one of the two. -/
theorem due (arguments : List Text) : Due arguments := by
  cases arguments with
  | nil => exact .inr (.closes .nothing)
  | cons argument rest =>
    -- By the meaning of the first argument, whose spelling the directive keeps.
    obtain ⟨meaning, means⟩ := Argument.exists_means argument
    cases meaning with
    | help =>
      have spelled : argument ∈ ["-h".toList, "--help".toList] := means.mem_spellingsOf (by decide)
      exact .inr (.asks (.help (List.mem_pair.mp spelled)))
    | version =>
      have spelled : argument ∈ ["-V".toList, "--version".toList] :=
        means.mem_spellingsOf (by decide)
      exact .inr (.asks (.version (List.mem_pair.mp spelled)))
    | verbose =>
      have spelled : argument ∈ ["-v".toList, "--verbose".toList] :=
        means.mem_spellingsOf (by decide)
      rcases List.mem_pair.mp spelled with rfl | rfl
      · exact .inl ⟨.verbose false, rest, rfl⟩
      · exact .inl ⟨.verbose true, rest, rfl⟩
    | color enabled =>
      have spelled : argument ∈ [if enabled then "--color".toList else "--no-color".toList] := by
        cases enabled <;> exact means.mem_spellingsOf (by decide)
      rw [List.mem_singleton.mp spelled]
      exact .inl ⟨.set (.color enabled), rest, rfl⟩
    | departure =>
      have spelled : argument ∈ ["-d".toList, "--departure".toList] :=
        means.mem_spellingsOf (by decide)
      exact due_departure (List.mem_pair.mp spelled) rest
    | departureIs =>
      obtain ⟨value, rfl, _⟩ := means.exists_joined rfl
      exact due_departureIs value rest
    | input =>
      have spelled : argument ∈ ["-i".toList, "--input".toList] := means.mem_spellingsOf (by decide)
      exact due_input (List.mem_pair.mp spelled) rest
    | inputIs =>
      obtain ⟨value, rfl, _⟩ := means.exists_joined rfl
      exact .inl ⟨.input .joined value, rest, rfl⟩
    | endOfOptions =>
      have spelled : argument ∈ ["--".toList] := means.mem_spellingsOf (by decide)
      rw [List.mem_singleton.mp spelled]
      exact due_endOfOptions rest
    | unknownOption =>
      exact .inr (.offends (.unknown means.isUnknown))
    | word => exact .inr (.closes (.plain means.plain))

/-- All arguments are directives and what ends them. -/
theorem exists_directives (arguments : List Text) :
    ∃ (directives : List Directive) (rest : List Text),
      arguments = directives.flatMap Directive.words ++ rest ∧ Stops rest := by
  rcases due arguments with ⟨directive, rest, split⟩ | stops
  · have shorter : rest.length < arguments.length := by
      have positive := directive.length_words_pos
      rw [split, List.length_append]
      omega
    obtain ⟨directives, rest', same, stops⟩ := exists_directives rest
    refine ⟨directive :: directives, rest', ?_, stops⟩
    rw [split, same, List.flatMap_cons, List.append_assoc]
  · exact ⟨[], arguments, rfl, stops⟩
termination_by arguments.length

/-- Arguments that ask for a translation are read to their end, with any directives that they
begin with. -/
theorem exists_completes {terminal : Bool} {options : Options} (directives : List Directive)
    {rest : List Text} (asked : Command.request terminal
      (directives.flatMap Directive.words ++ rest) = .ok (.translate options)) :
    ∃ all named, directives <+: all ∧
      Completes (directives.flatMap Directive.words ++ rest) all named := by
  obtain ⟨more, rest', rfl, stops⟩ := exists_directives rest
  have split : directives.flatMap Directive.words ++ (more.flatMap Directive.words ++ rest') =
      (directives ++ more).flatMap Directive.words ++ rest' := by
    rw [List.flatMap_append, List.append_assoc]
  -- What else can end the directives asks for something other than a translation.
  cases stops with
  | closes closes => exact ⟨_, _, List.prefix_append .., rest', _, split, closes, rfl⟩
  | asks asks =>
    rw [split, Command.request, Directive.read_directives] at asked
    rcases asks.read (Directive.options terminal (directives ++ more)) with ⟨read, _⟩ | ⟨read, _⟩
    all_goals
      rw [read] at asked
      split at asked <;> cases asked
  | offends offends =>
    rw [split, Command.request, Directive.read_directives, offends.read] at asked
    split at asked <;> cases asked

/-- An entry that is named is the one that is translated. -/
theorem Completes.input_isSome {arguments : List Text} {directives : List Directive}
    {named : List Text} (completes : Completes arguments directives named) {terminal : Bool}
    {options : Options} (asked : Command.request terminal arguments = .ok (.translate options))
    (some : named ≠ []) : options.input.isSome = true := by
  rw [completes.request] at asked
  split at asked
  · cases asked
    exact List.isSome_head?.mpr some
  · cases asked

private theorem exists_ends_of_lines {environment : Environment} {arguments : List Text}
    {directives : List Directive} {named lines : List Text}
    (completes : Completes arguments directives named)
    (supplies : Supplies environment.stdin named lines) :
    ∃ ending, Ends environment arguments ending := by
  by_cases filled : ∃ line ∈ lines, line.blank = false
  · exact ⟨_, .translated completes supplies filled⟩
  · refine ⟨_, .blank completes supplies fun line member => ?_⟩
    rw [← Bool.not_eq_false]
    exact fun solid => filled ⟨line, member, solid⟩

private theorem exists_ends_of_completes {environment : Environment} {arguments : List Text}
    {directives : List Directive} {named : List Text}
    (completes : Completes arguments directives named) :
    ∃ ending, Ends environment arguments ending := by
  cases named with
  | nil =>
    cases readable : environment.stdin with
    | none => exact ⟨_, .unreadable completes readable⟩
    | some t => exact exists_ends_of_lines completes (.lines readable)
  | cons first others =>
    cases others with
    | nil => exact exists_ends_of_lines completes (.entry first)
    | cons second others => exact ⟨_, .repeatedAtEnd completes (by simp)⟩

/-- Every command line comes to an end. -/
theorem exists_ends (environment : Environment) (arguments : List Text) :
    ∃ ending, Ends environment arguments ending := by
  obtain ⟨directives, rest, split, stops⟩ := exists_directives arguments
  by_cases single : (Directive.entries directives).length ≤ 1
  · cases stops with
    | asks asks => exact ⟨_, .shown split single asks⟩
    | offends offends => exact ⟨_, .offence split single offends⟩
    | closes closes => exact exists_ends_of_completes ⟨rest, _, split, closes, rfl⟩
  · exact ⟨_, .repeated split (Nat.lt_of_not_le single)⟩

theorem Supplies.single {stdin : Option Text} {named lines : List Text}
    (supplies : Supplies stdin named lines) : named.length ≤ 1 := by
  cases supplies <;> simp

/-- The lines are those that the options come to, unless all of them are blank. -/
theorem Supplies.lines_eq {stdin : Option Text} {named lines : List Text}
    (supplies : Supplies stdin named lines) (options : Options) :
    { options with input := named.head? }.lines stdin =
      if lines.all Text.blank then .error .noInput else .ok lines := by
  cases supplies with
  | entry entry =>
    show (if [entry].all Text.blank then _ else _) = _
    split <;> rfl
  | @lines t readable =>
    rw [readable]
    show (if t.filledLines.all Text.blank then _ else _) = _
    split <;> rfl

/-- An ending is what the command line is planned to come to. -/
theorem Ends.planned {environment : Environment} {arguments : List Text} {ending : Ending}
    (ends : Ends environment arguments ending) :
    (Command.request environment.terminal arguments >>= Request.plan environment) =
      ending.planned := by
  cases ends with
  | shown split single asks =>
    rw [split, Command.request, Directive.read_directives, if_pos single]
    exact asks.planned environment _
  | offence split single offends =>
    rw [split, Command.request, Directive.read_directives, if_pos single, offends.read]
    rfl
  | repeated split several =>
    rw [split, Command.request, Directive.read_directives, if_neg (Nat.not_le_of_lt several)]
    rfl
  | repeatedAtEnd completes several =>
    rw [completes.request, if_neg (Nat.not_le_of_lt several)]
    rfl
  | unreadable completes unreadable =>
    rw [completes.request]
    refine Request.plan_of_no_lines ?_
    rw [unreadable]
    rfl
  | blank completes supplies blank =>
    rw [completes.request, if_pos supplies.single]
    refine Request.plan_of_no_lines ?_
    rw [supplies.lines_eq, if_pos (List.all_eq_true.mpr blank)]
  | translated completes supplies filled =>
    rw [completes.request, if_pos supplies.single]
    refine Request.plan_of_lines ?_
    obtain ⟨line, member, solid⟩ := filled
    have some : ¬ _ := fun all => Bool.eq_false_iff.mp solid (List.all_eq_true.mp all line member)
    rw [supplies.lines_eq, if_neg some]

/-- An answer in the end is what the run answers. -/
theorem Ends.run_eq {environment : Environment} {arguments : List Text} {ending : Ending}
    (ends : Ends environment arguments ending) (timing : Nat → Timing) :
    Command.run timing environment arguments = ending.answer timing := by
  rw [Command.run, Command.plan, ends.planned]
  cases ending <;> rfl

theorem Ends.unique {environment : Environment} {arguments : List Text} {ending ending' : Ending}
    (ends : Ends environment arguments ending) (ends' : Ends environment arguments ending') :
    ending = ending' :=
  Ending.planned_inj (ends.planned.symm.trans ends'.planned)

/-- A trace begins with a bracket. -/
theorem Job.head?_stderr (timing : Nat → Timing) (job : Job) :
    ∀ c ∈ (job.run timing).stderr.head?, c = '[' := by
  have bracket : ∀ (translation : Translation) (t : Text),
      (translation.trace ++ t).head? = some '[' := by
    intro translation t
    rw [Translation.trace]
    cases translation.segments <;> rfl
  intro c head
  rw [run_eq] at head
  dsimp only at head
  split at head
  · cases shown : job.translations with
    | nil =>
      rw [shown] at head
      cases head
    | cons first others =>
      rw [shown, List.flatMap_cons, bracket] at head
      exact (Option.some.inj head).symm
  · cases head

/-- Only a refusal is reported as an error. -/
theorem Ending.error_prefix_stderr_iff (timing : Nat → Timing) (ending : Ending) :
    "error:".toList <+: (ending.answer timing).stderr ↔ ∃ error, ending = .refused error := by
  cases ending with
  | shown text =>
    constructor
    · intro starts
      cases List.prefix_nil.mp starts
    · rintro ⟨error, same⟩
      cases same
  | refused error => exact iff_of_true ⟨_, rfl⟩ ⟨error, rfl⟩
  | translated job =>
    constructor
    · rintro ⟨t, same⟩
      have letter : (job.run timing).stderr.head? = some 'e' := congrArg List.head? same.symm
      cases job.head?_stderr timing 'e' letter
    · rintro ⟨error, same⟩
      cases same

/-- Whether a translation succeeds depends on its lines and their context. -/
theorem Job.code_eq (timing : Nat → Timing) (job : Job) :
    (job.run timing).code =
      if ∃ line ∈ job.lines, ∃ segment ∈ (translate job.context line).segments,
        segment.failed = true then 1 else 0 := by
  rw [run_eq]
  simp [translations, Translation.hasFailures]

/-- The entry is given by an argument before which stand directives only. -/
def NamesEntry (arguments : List Text) : Prop :=
  ∃ (directives : List Directive) (rest : List Text),
    arguments = directives.flatMap Directive.words ++ rest ∧
      (Directive.entries directives ≠ [] ∨ ∃ entry, Closes rest (some entry))

theorem NamesEntry.input {arguments : List Text} (names : NamesEntry arguments) {terminal : Bool}
    {options : Options} (asked : Command.request terminal arguments = .ok (.translate options)) :
    options.input.isSome = true := by
  obtain ⟨directives, rest, rfl, given⟩ := names
  rcases given with given | ⟨entry, closes⟩
  · obtain ⟨_, _, ⟨more, rfl⟩, completes⟩ := exists_completes directives asked
    refine completes.input_isSome asked ?_
    obtain ⟨_, last, _, _, rfl⟩ := completes
    rw [Directive.entries, List.filterMap_append]
    exact List.append_ne_nil_of_left_ne_nil (List.append_ne_nil_of_left_ne_nil given _) _
  · have completes : Completes (directives.flatMap Directive.words ++ rest) directives
        (Directive.entries directives ++ [entry]) := ⟨rest, some entry, rfl, closes, rfl⟩
    exact completes.input_isSome asked (by simp)

/-- Every command line ends in one way and in no other: what it asks for is shown, whatever
follows; or it is refused and nothing is translated; or all its lines are translated, and the
exit code tells whether a segment of one of them failed, however they are shown. An error is
reported in a refusal only, and standard input has no part in a run whose arguments give the
entry. -/
theorem run_ends (timing : Nat → Timing) (environment : Environment) (arguments : List Text) :
    ∃ ending, Ends environment arguments ending ∧
      (∀ other, Ends environment arguments other → other = ending) ∧
      Command.run timing environment arguments = ending.answer timing ∧
      ("error:".toList <+: (Command.run timing environment arguments).stderr ↔
        ∃ error, ending = .refused error) ∧
      (∀ job, ending = .translated job →
        (Command.run timing environment arguments).code =
            (if ∃ line ∈ job.lines, ∃ segment ∈ (translate job.context line).segments,
              segment.failed = true then 1 else 0) ∧
          ∀ verbose color, ({ job with verbose, color }.run timing).code =
            (Command.run timing environment arguments).code) ∧
      (NamesEntry arguments → ∀ stdin, Command.run timing { environment with stdin } arguments =
        Command.run timing environment arguments) := by
  obtain ⟨ending, ends⟩ := exists_ends environment arguments
  refine ⟨ending, ends, fun other ends' => ends'.unique ends, ends.run_eq timing, ?_, ?_, ?_⟩
  · rw [ends.run_eq]
    exact ending.error_prefix_stderr_iff timing
  · rintro job rfl
    rw [ends.run_eq]
    exact ⟨job.code_eq timing, fun verbose color => rfl⟩
  · intro names stdin
    exact Command.run_of_entry timing fun options asked => names.input asked

end Shorthand
