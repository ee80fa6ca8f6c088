import Shorthand.Text.Pattern

/-! Several passengers can stand on one line, stacked behind one another. A digit 1
that follows an honorific separates two of them; it goes away with the blanks
around it, while the honorific stays with the passenger before. The pieces of a
line are what is left between the separators, from left to right. -/
namespace Shorthand.Stack

/-- The four titles that can end a passenger's name. No other title does. -/
def honorifics : List Text :=
  [['M', 'R'], ['M', 'S'], ['M', 'I', 'S', 'S'], ['M', 'S', 'T', 'R']]

/-- An honorific and the separator after it. -/
def separator : Pattern := [.oneOf honorifics, .blanks, .word "1", .blanks]

/-- A separator at the very start of a text: the honorific, which is kept, and
the text after the separator. -/
def cutHere (t : Text) : Option (Text × Text) := do
  let found ← separator.match? t
  let honorific ← found.parts.head?
  return (honorific, found.rest)

/-- The leftmost separator of a text: what stands before and after it. -/
def firstCut : Text → Option (Text × Text)
  | [] => none
  | c :: t =>
    cutHere (c :: t) <|> (firstCut t).map fun (before, after) => (c :: before, after)

private theorem cutHere_shorter {t honorific after : Text}
    (cut : cutHere t = some (honorific, after)) : after.length < t.length := by
  simp only [cutHere, Option.bind_eq_bind, Option.bind_eq_some_iff, Option.pure_def,
    Option.some.injEq, Prod.mk.injEq] at cut
  obtain ⟨found, matched, _, _, _, rfl⟩ := cut
  have whole := congrArg List.length (Pattern.text_append_rest matched)
  obtain ⟨taken, inner, took, rfl⟩ := Pattern.match?_cons_eq_some_iff.mp matched
  obtain ⟨w, member, _, front, _⟩ := Piece.read_oneOf_eq_some took
  have letters : w.length = taken.length := by
    simpa using (Piece.take_eq_some_iff.mp front).2.1
  have titled : ∀ w ∈ honorifics, 0 < w.length := by decide
  have positive := titled w member
  simp only [Match.text, List.flatten_cons, List.length_append] at whole
  show inner.rest.length < t.length
  omega

theorem firstCut_shorter {t before after : Text} (cut : firstCut t = some (before, after)) :
    after.length < t.length := by
  induction t generalizing before with
  | nil => simp [firstCut] at cut
  | cons c t ih =>
    rw [firstCut, Option.orElse_eq_orElse, Option.orElse_eq_or, Option.or_eq_some_iff] at cut
    rcases cut with here | ⟨_, later⟩
    · exact cutHere_shorter here
    · obtain ⟨⟨_, _⟩, further, same⟩ := Option.map_eq_some_iff.mp later
      cases same
      exact Nat.lt_succ_of_lt (ih further)

/-- Whether a text holds a separator anywhere. -/
def isStacked (t : Text) : Bool := (firstCut t).isSome

/-- The texts between the separators of a line, which is one piece if it has none. -/
def pieces (t : Text) : List Text :=
  match cut : firstCut t with
  | none => [t]
  | some (before, after) =>
    have := firstCut_shorter cut
    before :: pieces after
termination_by t.length

theorem pieces_of_firstCut_none {t : Text} (single : firstCut t = none) : pieces t = [t] := by
  unfold pieces
  split <;> simp_all

theorem pieces_of_firstCut_some {t before after : Text}
    (cut : firstCut t = some (before, after)) : pieces t = before :: pieces after := by
  rw [pieces]
  split <;> simp_all

end Shorthand.Stack
