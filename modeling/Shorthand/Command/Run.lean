import Shorthand.Command.Help
import Shorthand.Report.Detailed

/-! A run of the command as a function: from the arguments and what surrounds them to
an exit code and two texts. Every line is translated on its own, in order; the
exit code tells whether a segment of any line failed. -/
namespace Shorthand

/-- What a command finds around it when it starts. -/
structure Environment where
  /-- Standard input, if it can be read as text. -/
  stdin : Option Text
  /-- Whether standard output is a terminal, which turns color on. -/
  terminal : Bool
  /-- Whether a trace is wanted. -/
  trace : Bool
  today : Date

/-- What a command leaves behind. -/
structure Answer where
  code : Nat
  stdout : Text
  stderr : Text
  deriving DecidableEq

/-- Lines to translate and how to show them. -/
structure Job where
  lines : List Text
  context : Context
  verbose : Bool
  color : Bool
  trace : Bool
  deriving DecidableEq

namespace Job

/-- What is printed for one line. -/
def print (job : Job) (timing : Timing) (translation : Translation) : Text :=
  if job.verbose then
    (Report.detailed timing job.context.departure translation).render job.color
  else translation.output ++ ['\n']

def translations (job : Job) : List Translation := job.lines.map (translate job.context)

/-- The answer to a job, given the durations of its lines by their place. -/
def run (timing : Nat → Timing) (job : Job) : Answer :=
  let traced := job.lines.mapM (translateTraced job.trace job.context)
  { code := if traced.value.any Translation.hasFailures then 1 else 0
    stdout := traced.value.zipIdx.flatMap fun (translation, place) =>
      job.print (timing place) translation
    stderr := traced.written }

end Job

namespace Options

/-- The lines to translate: the entry of the arguments, or else the lines of
standard input that are not blank. -/
def lines (stdin : Option Text) (options : Options) : Except UsageError (List Text) := do
  let lines ← match options.input, stdin with
    | some entry, _ => .ok [entry]
    | none, some t => .ok (t.lines.filter fun line => !line.blank)
    | none, none => .error .unreadableInput
  if lines.all Text.blank then throw .noInput
  return lines

/-- The job that the options describe. -/
def job (environment : Environment) (options : Options) : Except UsageError Job := do
  let lines ← options.lines environment.stdin
  let context : Context := ⟨options.departure, environment.today⟩
  return ⟨lines, context, options.verbose, options.color, environment.trace⟩

end Options

/-- What a command line comes to before anything is translated. -/
inductive Plan where
  | answer (answer : Answer)
  | job (job : Job)
  deriving DecidableEq

namespace Request

/-- Whether standard input has to be read. It is left alone when the arguments
hold the entry. -/
def readsInput : Request → Bool
  | .translate options => options.input.isNone
  | _ => false

def plan (environment : Environment) : Request → Except UsageError Plan
  | .help => .ok (.answer ⟨0, Help.text ++ ['\n'], []⟩)
  | .version => .ok (.answer ⟨0, Help.version, []⟩)
  | .translate options => (options.job environment).map .job

end Request

namespace Command

/-- Reads the arguments. -/
def request (terminal : Bool) (arguments : List Text) : Except UsageError Request :=
  Options.read { color := terminal } arguments

/-- The answer to a command line that cannot be carried out. -/
def refusal (error : UsageError) : Answer := ⟨2, [], error.message ++ ['\n']⟩

def plan (environment : Environment) (arguments : List Text) : Plan :=
  match request environment.terminal arguments >>= Request.plan environment with
  | .ok plan => plan
  | .error error => .answer (refusal error)

/-- Runs a command, given the durations of the lines that it translates. -/
def run (timing : Nat → Timing) (environment : Environment) (arguments : List Text) : Answer :=
  match plan environment arguments with
  | .answer answer => answer
  | .job job => job.run timing

end Command
end Shorthand
