import Shorthand.Line.Trace
import Shorthand.Report.Styled

/-! The detailed report of a translated line: the line, its segments with the rule
that took each of them, the result, and how long it all took. A duration is shown in
the largest unit that gives at least one, with the decimal places that the nanoseconds
need. -/
namespace Shorthand

namespace Duration

/-- A part of a unit that is divided into a number with `places` zeros, as decimal
places without zeros at the end. -/
def fraction (places part : Nat) : Text :=
  let digits := ((Numeral.padded places part).reverse.dropWhile (· == '0')).reverse
  if digits = [] then [] else '.' :: digits

/-- A unit of `scale` nanoseconds, a number with `places` zeros. -/
def inUnit (scale places : Nat) (unit : String) (nanoseconds : Nat) : Text :=
  Numeral.decimal (nanoseconds / scale) ++ fraction places (nanoseconds % scale) ++ unit.toList

def write (nanoseconds : Nat) : Text :=
  if 1000000000 ≤ nanoseconds then inUnit 1000000000 9 "s" nanoseconds
  else if 1000000 ≤ nanoseconds then inUnit 1000000 6 "ms" nanoseconds
  else if 1000 ≤ nanoseconds then inUnit 1000 3 "µs" nanoseconds
  else inUnit 1 0 "ns" nanoseconds

end Duration

/-- Measured durations, as they are shown. -/
structure Timing where
  total : Text
  split : Text
  /-- The duration of each segment by its place in the line. -/
  segment : Nat → Text

/-- What stands for the durations of lines that are not measured. -/
def Timing.unmeasured : Nat → Timing := fun _ => ⟨[], [], fun _ => []⟩

namespace Report

def segmentLines (timing : Timing) (segment : Segment) (place : Nat) : List Styled :=
  [[.plain "  ", Tone.frame.span ('[' :: Numeral.decimal place ++ [']']), .plain " ",
      ⟨none, segment.input⟩, .plain " ", Tone.muted.span ['→'], .plain " ",
      (if segment.failed then Tone.failure else Tone.success).span segment.output],
    [.plain "      ", Tone.muted.span "rule:".toList, .plain " ", Tone.rule.span segment.ruleName,
      .plain "  ", Tone.muted.span ['│'], .plain " ", Tone.muted.span (timing.segment place)]]

def segments (timing : Timing) (translation : Translation) : List Styled :=
  if translation.segments = [] then [[Tone.muted.span "  Empty input".toList]]
  else
    let note := "passenger separator found, ".toList ++
      Numeral.decimal translation.segments.length ++ " segments".toList
    (if translation.stacked then [[.plain "  ", Tone.muted.span note]] else []) ++
      translation.segments.zipIdx.flatMap fun (segment, place) => segmentLines timing segment place

/-- A title between bars. -/
def title (text : String) : Styled :=
  [Tone.frame.span ("━━━ ".toList ++ text.toList ++ " ━━━".toList)]

def lines (timing : Timing) (departure : Option Date) (translation : Translation) : List Styled :=
  let result := if translation.hasFailures then Tone.failure else Tone.strong
  [[], [Tone.heading.span ("⚙  Translating: \"".toList ++ translation.text ++ ['"'])],
    [.plain "  ", Tone.muted.span "departure:".toList, .plain " ",
      Tone.note.span ((departure.map Iso.write).getD "none".toList)],
    [], title "Segments"] ++
  segments timing translation ++
  [[], title "Result", [.plain "  ", result.span translation.output],
    [], title "Timing",
    [.plain "  Total: ", Tone.success.span timing.total, .plain "  │  Split: ",
      Tone.muted.span timing.split],
    []]

/-- The report as one text in tones. -/
def detailed (timing : Timing) (departure : Option Date) (translation : Translation) : Styled :=
  Styled.ofLines (lines timing departure translation)

end Report
end Shorthand
