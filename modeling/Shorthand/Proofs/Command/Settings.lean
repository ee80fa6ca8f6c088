import Shorthand.Proofs.Command.Arguments
import Shorthand.Proofs.Text.Trimming

/-! Settings on the command line: options with all they need, that say how lines are translated
and shown and not which lines. Reading takes them one by one, whatever follows them, and of
several departure dates the last one holds. -/
namespace Shorthand

/-- No date begins with two hyphens. -/
theorem Context.readDeparture_hyphens (t : Text) :
    readDeparture ('-' :: '-' :: t) = .error .invalid := by
  have trimmed : Text.trim ('-' :: '-' :: t) = '-' :: '-' :: Text.trimEnd t :=
    Text.trim_append (show Text.Trimmed ['-', '-'] by decide) (by simp) t
  rw [readDeparture, trimmed]
  rfl

namespace Options

variable {options : Options} {argument value : Text} {rest : List Text}

theorem read_color {enabled : Bool} (meaning : Argument.ofText argument = .color enabled) :
    read options (argument :: rest) = read { options with color := enabled } rest := by
  conv_lhs => rw [read.eq_def]
  simp only [meaning]

theorem read_departure (meaning : Argument.ofText argument = .departure) :
    read options (argument :: value :: rest) =
      (do read (← options.withDeparture value) rest) := by
  conv_lhs => rw [read.eq_def]
  simp only [meaning]

theorem read_departureIs (meaning : Argument.ofText argument = .departureIs value) :
    read options (argument :: rest) = (do read (← options.withDeparture value) rest) := by
  conv_lhs => rw [read.eq_def]
  simp only [meaning]

end Options

/-- How a departure date is written on the command line. -/
inductive Spelling where
  /-- `-d` and the date are two words. -/
  | short
  /-- `--departure` and the date are two words. -/
  | long
  /-- `--departure=`, which may be repeated, and the date are one word. -/
  | joined (again : Nat)

def Spelling.words (value : Text) : Spelling → List Text
  | .short => ["-d".toList, value]
  | .long => ["--departure".toList, value]
  | .joined again => [(List.replicate (again + 1) "--departure=".toList).flatten ++ value]

/-- An option with all it needs that names no line. -/
inductive Setting where
  | color (enabled : Bool)
  /-- A departure date that can be read; a blank value takes back the date before it. -/
  | departure (spelling : Spelling) (value : Text) (date : Option Date)
    (readable : Context.readDeparture value = .ok date)

namespace Setting

def words : Setting → List Text
  | .color enabled => [if enabled then "--color".toList else "--no-color".toList]
  | .departure spelling value _ _ => spelling.words value

/-- The departure date that holds after some settings, given the one before them. -/
def departureAfter (before : Option Date) : List Setting → Option Date
  | [] => before
  | .color _ :: settings => departureAfter before settings
  | .departure _ _ date _ :: settings => departureAfter date settings

/-- Both choices of color are taken. -/
theorem read_choice (options : Options) (enabled : Bool) (rest : List Text) :
    Options.read options ((Setting.color enabled).words ++ rest) =
      Options.read { options with color := enabled } rest := by
  have meaning : Argument.ofText (if enabled then "--color".toList else "--no-color".toList) =
      .color enabled := by
    cases enabled <;> decide
  exact Options.read_color meaning

/-- A departure date is taken in each of its spellings. -/
theorem read_spelling (options : Options) {value : Text} {date : Option Date}
    (readable : Context.readDeparture value = .ok date) (spelling : Spelling) (rest : List Text) :
    Options.read options (spelling.words value ++ rest) =
      Options.read { options with departure := date } rest := by
  have taken : (do Options.read (← options.withDeparture value) rest) =
      Options.read { options with departure := date } rest := by
    rw [Options.withDeparture, readable]
    rfl
  cases spelling with
  | short => exact (Options.read_departure (by decide)).trans taken
  | long => exact (Options.read_departure (by decide)).trans taken
  | joined again =>
    have other : ¬ "--departure=".toList <+: value := by
      rintro ⟨t, rfl⟩
      cases (Context.readDeparture_hyphens _).symm.trans readable
    have starts : "--departure=".toList <+:
        (List.replicate (again + 1) "--departure=".toList).flatten ++ value := by
      rw [List.replicate_succ, List.flatten_cons, List.append_assoc]
      exact List.prefix_append ..
    have meaning := Argument.ofText_of_prefix starts
    rw [Argument.dropRepeated_replicate (by decide) other] at meaning
    exact (Options.read_departureIs meaning).trans taken

/-- Settings are read one after another, and leave the entry and the report as they are. -/
theorem read_settings (settings : List Setting) (before : Option Date) (color : Bool)
    (rest : List Text) : ∃ color',
      Options.read { departure := before, color } (settings.flatMap words ++ rest) =
        Options.read { departure := departureAfter before settings, color := color' } rest := by
  induction settings generalizing before color with
  | nil => exact ⟨color, rfl⟩
  | cons setting settings ih =>
    rw [List.flatMap_cons, List.append_assoc]
    cases setting with
    | color enabled =>
      obtain ⟨color', same⟩ := ih before enabled
      exact ⟨color', (read_choice _ enabled _).trans same⟩
    | departure spelling value date readable =>
      obtain ⟨color', same⟩ := ih date color
      exact ⟨color', (read_spelling _ readable spelling _).trans same⟩

end Setting
end Shorthand
