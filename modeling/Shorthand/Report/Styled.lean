import Shorthand.Text.Basic

/-! Text in tones. A tone is shown by a color sequence before the text and a reset
after it, or not at all where color is not wanted; the text is the same in both. -/
namespace Shorthand

/-- The roles that parts of a report play. -/
inductive Tone where
  | heading
  | rule
  | success
  | failure
  | note
  | muted
  | frame
  | strong
  deriving DecidableEq

/-- The parameters of the tone's color sequence. -/
def Tone.parameters : Tone → Text
  | .heading => ['1', ';', '3', '6']
  | .rule => ['3', '4']
  | .success => ['1', ';', '3', '2']
  | .failure => ['3', '1']
  | .note => ['3', '3']
  | .muted => ['2']
  | .frame => ['9', '0']
  | .strong => ['1']

/-- The sequence that starts a way of showing text. -/
def colorSequence (parameters : Text) : Text := '\x1b' :: '[' :: parameters ++ ['m']

/-- A text in a tone, or a plain one. -/
structure Span where
  tone : Option Tone
  text : Text
  deriving DecidableEq

namespace Span

def plain (text : String) : Span := ⟨none, text.toList⟩

def render (color : Bool) (span : Span) : Text :=
  match span.tone with
  | some tone =>
    if color then colorSequence tone.parameters ++ span.text ++ colorSequence ['0'] else span.text
  | none => span.text

end Span

/-- A text in the given tone. -/
def Tone.span (tone : Tone) (text : Text) : Span := ⟨some tone, text⟩

/-- A text made of spans. -/
abbrev Styled := List Span

namespace Styled

def render (color : Bool) (styled : Styled) : Text := styled.flatMap (Span.render color)

/-- Lines, each with a newline after it. -/
def ofLines (lines : List Styled) : Styled := lines.flatMap (· ++ [Span.plain "\n"])

end Styled
end Shorthand
