import Shorthand.Entry.Rule

/-! The command line. Options come first; the first argument that is no option
starts the entry, which takes all the arguments after it. Reading stops at the
first argument that is wrong, and also at a request for help or the version. -/
namespace Shorthand

/-- Why no translation was started. -/
inductive UsageError where
  | missingValue (option : String)
  | repeatedInput
  | unknownOption (argument : Text)
  | invalidDeparture (value : Text)
  /-- Standard input is not text. -/
  | unreadableInput
  /-- All input is blank. -/
  | noInput
  deriving DecidableEq

/-- What an argument in the place of an option says. -/
inductive Argument where
  | help
  | version
  | verbose
  | color (enabled : Bool)
  /-- The next argument is a departure date. -/
  | departure
  | departureIs (value : Text)
  /-- The next argument is the entry. -/
  | input
  | inputIs (value : Text)
  /-- All arguments after this one belong to the entry. -/
  | endOfOptions
  | unknownOption
  /-- The first word of the entry. -/
  | word
  deriving DecidableEq

namespace Argument

/-- The arguments that are spelled in one way only. -/
def spellings : List (Text × Argument) :=
  [("-h".toList, .help), ("--help".toList, .help),
    ("-V".toList, .version), ("--version".toList, .version),
    ("-v".toList, .verbose), ("--verbose".toList, .verbose),
    ("--color".toList, .color true), ("--no-color".toList, .color false),
    ("-d".toList, .departure), ("--departure".toList, .departure),
    ("-i".toList, .input), ("--input".toList, .input),
    ("--".toList, .endOfOptions)]

/-- The text without any repetition of `word` at its start. -/
def dropRepeated (word t : Text) : Text :=
  if starts : word ≠ [] ∧ word.isPrefixOf t then
    have : t.length - word.length < t.length := by
      have within := (List.isPrefixOf_iff_prefix.mp starts.2).length_le
      have positive := List.length_pos_iff.mpr starts.1
      omega
    dropRepeated word (t.drop word.length)
  else t
termination_by t.length

/-- What an argument says. The name of a valued option may be repeated before
its value. -/
def ofText (argument : Text) : Argument :=
  match spellings.lookup argument with
  | some known => known
  | none =>
    if "--departure=".toList.isPrefixOf argument then
      .departureIs (dropRepeated "--departure=".toList argument)
    else if "--input=".toList.isPrefixOf argument then
      .inputIs (dropRepeated "--input=".toList argument)
    else if ['-'].isPrefixOf argument then .unknownOption
    else .word

end Argument

/-- What the options ask for. -/
structure Options where
  /-- The entry, if the arguments hold one. -/
  input : Option Text := none
  departure : Option Date := none
  verbose : Bool := false
  color : Bool
  deriving DecidableEq

/-- What a command line asks for. -/
inductive Request where
  | help
  | version
  | translate (options : Options)
  deriving DecidableEq

namespace Options

def withDeparture (options : Options) (value : Text) : Except UsageError Options :=
  match Context.readDeparture value with
  | .ok departure => .ok { options with departure }
  | .error _ => .error (.invalidDeparture value)

/-- An entry can be given once. -/
def withInput (options : Options) (entry : Text) : Except UsageError Options :=
  match options.input with
  | none => .ok { options with input := some entry }
  | some _ => .error .repeatedInput

/-- Words with a blank between them. -/
def joinWords (words : List Text) : Text := List.intercalate [' '] words

/-- Reads the arguments, given the options that hold so far. -/
def read (options : Options) : List Text → Except UsageError Request
  | [] => .ok (.translate options)
  | argument :: rest =>
    match Argument.ofText argument with
    | .help => .ok .help
    | .version => .ok .version
    | .verbose => read { options with verbose := true } rest
    | .color enabled => read { options with color := enabled } rest
    | .departure =>
      match rest with
      | [] => .error (.missingValue "--departure")
      | value :: rest => do read (← options.withDeparture value) rest
    | .departureIs value => do read (← options.withDeparture value) rest
    | .input =>
      match rest with
      | [] => .error (.missingValue "--input")
      | entry :: rest => do read (← options.withInput entry) rest
    | .inputIs entry => do read (← options.withInput entry) rest
    | .endOfOptions =>
      let entry := joinWords rest
      if Text.blank entry then .ok (.translate options)
      else (options.withInput entry).map .translate
    | .unknownOption => .error (.unknownOption argument)
    | .word => (options.withInput (joinWords (argument :: rest))).map .translate

end Options
end Shorthand
