import Shorthand.Command.Options

/-! The fixed texts of the command: its version, its help, and what it says about a
command line that it cannot carry out. -/
namespace Shorthand.Help

def version : Text := "abacus 0.1.0\n".toList

/-- The lines of the help text. -/
def lines : List String :=
  ["abacus 0.1.0",
    "",
    "Translate SELCONNECT reservation shorthand into ABACUS shorthand.",
    "",
    "Usage:",
    "  abacus [OPTIONS] [--] <entry...>",
    "  abacus [OPTIONS] --input <entry>",
    "  <lines> | abacus [OPTIONS]",
    "",
    "Options:",
    "  -i, --input <entry>        Entry to translate. If omitted, reads remaining args",
    "                             or, when no args are provided, every stdin line.",
    "  -d, --departure <date>     Departure date in YYYY-MM-DD, needed for child",
    "                             (CHD) records.",
    "  -v, --verbose              Print a per-segment report instead of the bare",
    "                             translation.",
    "  --color                    Force ANSI color output.",
    "  --no-color                 Disable ANSI color output.",
    "  -h, --help                 Show this help message.",
    "  -V, --version              Print version information.",
    "",
    "Exit codes:",
    "  0  Success.",
    "  1  At least one segment failed to translate.",
    "  2  Invalid arguments or missing input.",
    "",
    "Set ABACUS_DEBUG_RULES=1 to trace rule matching on stderr."]

/-- The help text, which ends in an empty line when it is printed. -/
def text : Text := lines.flatMap fun line => line.toList ++ ['\n']

end Shorthand.Help

namespace Shorthand

/-- What a usage error says. Missing input is answered with the help text. -/
def UsageError.message (error : UsageError) : Text :=
  "error: ".toList ++
  match error with
  | .missingValue option => option.toList ++ " expects a value".toList
  | .repeatedInput => "input provided multiple times".toList
  | .unknownOption argument => "unknown option '".toList ++ argument ++ ['\'']
  | .invalidDeparture value =>
    "invalid --departure '".toList ++ value ++ "' (expected YYYY-MM-DD)".toList
  | .unreadableInput =>
    "failed to read stdin: stream did not contain valid UTF-8".toList
  | .noInput => "no input provided\n\n".toList ++ Help.text

end Shorthand
