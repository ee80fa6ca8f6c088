import Shorthand.Entry.Table
import Shorthand.Passenger.Stack

/-! Translation of a whole line, which may stack several passengers. Each piece of
the line is translated on its own; then the pieces after the first one of a
stacked name record get a dash in front, unless their text already starts with a
mark of the target system. A failing piece changes nothing for the others. -/
namespace Shorthand

/-- One piece of a line with its translation. -/
structure Segment where
  /-- The piece without the blanks around it. -/
  input : Text
  outcome : Outcome
  /-- Whether a dash is put in front of the outcome. -/
  dash : Bool
  deriving DecidableEq

namespace Segment

def rule? (segment : Segment) : Option String := segment.outcome.rule?

def failed (segment : Segment) : Bool := segment.outcome.isFailure

/-- What is shown for the segment. -/
def output (segment : Segment) : Text :=
  if segment.dash then '-' :: segment.outcome.text else segment.outcome.text

/-- The characters that mark a text as an entry of the target system already. -/
def leaders : List Char := ['-', '*', '0', '1', '9', 'W']

/-- Whether a text starts with one of the leaders. -/
def hasLeader (t : Text) : Bool := t.head?.any leaders.contains

/-- The segment as the continuation of a name record. -/
def continued (segment : Segment) : Segment :=
  { segment with dash := !hasLeader segment.outcome.text }

end Segment

/-- The translation of a line. -/
structure Translation where
  /-- The line as it was given. -/
  text : Text
  /-- Whether the line holds a passenger separator. -/
  stacked : Bool
  /-- The segments from left to right, none for a blank line. -/
  segments : List Segment
  deriving DecidableEq

namespace Translation

/-- The outputs of the segments with a section sign between them. -/
def output (translation : Translation) : Text :=
  List.intercalate ['§'] (translation.segments.map Segment.output)

def hasFailures (translation : Translation) : Bool := translation.segments.any Segment.failed

end Translation

/-- Whether a text starts with the code of a name record, in ASCII letters of any
case. -/
def isNameRecord (t : Text) : Bool := Letter.sameAscii (t.take 3) ['N', 'M', '1']

/-- Makes continuations of all segments but the first. -/
def continueRecord : List Segment → List Segment
  | [] => []
  | first :: others => first :: others.map Segment.continued

namespace Table

/-- Translates the pieces of a line one by one, leaving out the empty ones. -/
def segments (table : Table) (context : Context) (line : Text) : List Segment :=
  ((Stack.pieces line).map Text.trim |>.filter (· ≠ [])).map fun piece =>
    ⟨piece, table.translateEntry context piece, false⟩

/-- Translates a line. -/
def translate (table : Table) (context : Context) (text : Text) : Translation :=
  let line := text.trim
  let stacked := Stack.isStacked line
  let segments := table.segments context line
  { text, stacked,
    segments := if stacked && isNameRecord line then continueRecord segments else segments }

end Table

/-- Translates a line by the standard table. -/
def translate (context : Context) (text : Text) : Translation :=
  Table.standard.translate context text

/-- Translates one entry by the standard table, without looking for separators. -/
def translateEntry (context : Context) (entry : Text) : Text :=
  (Table.standard.translateEntry context entry).text

end Shorthand
