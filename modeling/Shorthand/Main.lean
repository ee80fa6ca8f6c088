import Std.Time.Format
import Shorthand.Command.Run

/-! The program: it gathers what surrounds a run, measures the translations, and
writes the answer of `Command.run` to its two outputs. -/
namespace Shorthand.Main

/-- Today's date, if the library can hold it. -/
def today : IO Date := do
  let now ← Std.Time.PlainDate.now
  match Date.ofYmd? now.year.toInt now.month.val.toNat now.day.val.toNat with
  | some date => return date
  | none => throw (IO.userError "the clock is out of range")

/-- How long an evaluation takes, as it is shown. -/
def measure (evaluate : Unit → α) : IO Text := do
  let start ← IO.monoNanosNow
  let _ ← IO.lazyPure evaluate
  let stop ← IO.monoNanosNow
  return Duration.write (stop - start)

/-- The durations of one line: of the whole translation, of the search for
separators, and of each segment. -/
def timing (job : Job) (line : Text) : IO Timing := do
  let total ← measure fun _ => translate job.context line
  let split ← measure fun _ => Stack.pieces line.trim
  let segments ← (translate job.context line).segments.mapM fun segment =>
    measure fun _ => translateEntry job.context segment.input
  return ⟨total, split, fun place => segments.getD place total⟩

/-- Standard input as text, which is only read when a request needs it. -/
def stdin (request : Except UsageError Request) : IO (Option Text) := do
  match request with
  | .ok request =>
    if request.readsInput then
      let content ← (← IO.getStdin).readBinToEnd
      return (String.fromUTF8? content).map String.toList
    else return none
  | .error _ => return none

def run (arguments : List Text) : IO Answer := do
  let terminal ← (← IO.getStdout).isTty
  let input ← stdin (Command.request terminal arguments)
  let trace := (← IO.getEnv "ABACUS_DEBUG_RULES").isSome
  let environment : Environment := ⟨input, terminal, trace, ← today⟩
  match Command.plan environment arguments with
  | .answer answer => return answer
  | .job job =>
    let timings ← if job.verbose then job.lines.mapM (timing job) else pure []
    return job.run (fun place => timings.getD place (Timing.unmeasured place))

end Shorthand.Main

def main (arguments : List String) : IO UInt32 := do
  let answer ← Shorthand.Main.run (arguments.map String.toList)
  IO.print (String.ofList answer.stdout)
  IO.eprint (String.ofList answer.stderr)
  return answer.code.toUInt32
