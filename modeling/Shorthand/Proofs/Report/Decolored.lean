import Shorthand.Report.Styled

/-! Text without its color sequences. A color sequence is the escape character, a bracket, digits
and semicolons, and the letter m. Every sequence that is met from left to right is deleted, and
nothing else is. Of text in tones that holds no escape character of its own the text without tones
is left, whatever stands next to a sequence. -/
namespace Shorthand

namespace Text

/-- The characters between the bracket of a color sequence and its last letter. -/
def isParameter (c : Char) : Bool := c.isDigit || c == ';'

/-- What follows the color sequence at the start of a text, if there is one. -/
def afterSequence? : Text → Option Text
  | '\x1b' :: '[' :: t =>
    -- The last letter is no parameter, so all parameters stand before it.
    match t.dropWhile isParameter with
    | 'm' :: rest => some rest
    | _ => none
  | _ => none

theorem colorSequence_append (parameters t : Text) :
    colorSequence parameters ++ t = '\x1b' :: '[' :: (parameters ++ 'm' :: t) := by
  simp [colorSequence]

theorem afterSequence?_eq_some_iff {t rest : Text} : afterSequence? t = some rest ↔
    ∃ parameters, parameters.all isParameter = true ∧ t = colorSequence parameters ++ rest := by
  constructor
  · intro found
    unfold afterSequence? at found
    split at found
    · next t =>
      split at found
      · next rest' ends =>
        cases found
        refine ⟨t.takeWhile isParameter, List.all_takeWhile, ?_⟩
        rw [colorSequence_append, ← ends, List.takeWhile_append_dropWhile]
      · cases found
    · cases found
  · rintro ⟨parameters, all, rfl⟩
    have ends : (parameters ++ 'm' :: rest).dropWhile isParameter = 'm' :: rest := by
      rw [List.dropWhile_append_of_pos (List.all_eq_true.mp all)]
      rfl
    rw [colorSequence_append]
    simp only [afterSequence?, ends]

theorem afterSequence?_shorter {t rest : Text} (found : afterSequence? t = some rest) :
    rest.length < t.length := by
  obtain ⟨parameters, _, rfl⟩ := afterSequence?_eq_some_iff.mp found
  simp only [colorSequence, List.length_append, List.length_cons]
  omega

/-- The text without its color sequences. -/
def decolored : Text → Text
  | [] => []
  | c :: t =>
    match found : afterSequence? (c :: t) with
    | some rest =>
      have := afterSequence?_shorter found
      decolored rest
    | none => c :: decolored t
termination_by t => t.length
decreasing_by
  · assumption
  · exact Nat.lt_succ_self t.length

/-- A sequence is deleted whatever follows it, which is then looked at on its own. -/
theorem decolored_sequence_append {parameters : Text}
    (all : parameters.all isParameter = true) (t : Text) :
    decolored (colorSequence parameters ++ t) = decolored t := by
  have found : afterSequence? (colorSequence parameters ++ t) = some t :=
    afterSequence?_eq_some_iff.mpr ⟨parameters, all, rfl⟩
  rw [colorSequence_append] at found ⊢
  rw [decolored]
  split
  · next rest found' =>
    exact congrArg decolored (Option.some.inj (found'.symm.trans found))
  · next missing => cases missing.symm.trans found

/-- Where no sequence stands, the next character is kept. -/
theorem decolored_cons {c : Char} {t : Text} (missing : afterSequence? (c :: t) = none) :
    decolored (c :: t) = c :: decolored t := by
  rw [decolored]
  split
  · next rest found => cases missing.symm.trans found
  · rfl

theorem afterSequence?_of_ne {c : Char} (other : c ≠ '\x1b') (t : Text) :
    afterSequence? (c :: t) = none := by
  rw [Option.eq_none_iff_forall_ne_some]
  intro rest found
  obtain ⟨parameters, _, whole⟩ := afterSequence?_eq_some_iff.mp found
  cases whole
  exact other rfl

/-- The colored text is the plain one with color sequences in it: whatever follows the colored text,
the plain one is left of it, and has no escape character. -/
structure Decorates (colored plain : Text) : Prop where
  leaves : ∀ rest, decolored (colored ++ rest) = plain ++ decolored rest
  inert : '\x1b' ∉ plain

namespace Decorates

variable {colored colored' plain plain' : Text}

theorem decolored_eq (decorates : Decorates colored plain) : colored.decolored = plain := by
  have alone := decorates.leaves []
  rwa [decolored, List.append_nil, List.append_nil] at alone

theorem sequence {parameters : Text} (all : parameters.all isParameter = true) :
    Decorates (colorSequence parameters) [] :=
  ⟨decolored_sequence_append all, List.not_mem_nil⟩

/-- No sequence begins in a text without the escape character, whatever follows it. -/
theorem of_inert (inert : '\x1b' ∉ plain) : Decorates plain plain := by
  refine ⟨fun rest => ?_, inert⟩
  induction plain with
  | nil => rfl
  | cons c t ih =>
    rw [List.mem_cons, not_or] at inert
    have missing := afterSequence?_of_ne (Ne.symm inert.1) (t ++ rest)
    rw [List.cons_append, decolored_cons missing, ih inert.2, List.cons_append]

theorem append (first : Decorates colored plain) (second : Decorates colored' plain') :
    Decorates (colored ++ colored') (plain ++ plain') := by
  refine ⟨fun rest => ?_, List.not_mem_append first.inert second.inert⟩
  rw [List.append_assoc, first.leaves, second.leaves, List.append_assoc]

theorem flatMap {α : Type} {f g : α → Text} {xs : List α}
    (each : ∀ x ∈ xs, Decorates (f x) (g x)) : Decorates (xs.flatMap f) (xs.flatMap g) := by
  induction xs with
  | nil => exact of_inert List.not_mem_nil
  | cons x xs ih =>
    rw [List.forall_mem_cons] at each
    rw [List.flatMap_cons, List.flatMap_cons]
    exact each.1.append (ih each.2)

end Decorates

/-- A sequence beside letters that look like the rest of one, and one that is never ended. -/
example : decolored "1m\x1b[1;36m[31m\x1b[0m;0m\x1b[3\x1b[m".toList = "1m[31m;0m\x1b[3".toList := by
  decide +kernel

end Text

open Text (Decorates)

theorem Tone.all_parameters (tone : Tone) : tone.parameters.all Text.isParameter = true := by
  cases tone <;> rfl

/-- A span shows its text between two sequences, or as it is. -/
theorem Span.decorates {span : Span} (inert : '\x1b' ∉ span.text) :
    Decorates (span.render true) (span.render false) := by
  obtain ⟨tone, text⟩ := span
  have itself : Decorates text text := .of_inert inert
  cases tone with
  | none => exact itself
  | some tone =>
    have reset : Decorates (colorSequence ['0']) [] := .sequence rfl
    have framed := ((Decorates.sequence tone.all_parameters).append itself).append reset
    rwa [List.nil_append, List.append_nil] at framed

namespace Styled

/-- Text in tones that has no escape character of its own. -/
def Inert (styled : Styled) : Prop := ∀ span ∈ styled, '\x1b' ∉ span.text

variable {span : Span} {styled : Styled}

theorem Inert.nil : Inert [] := List.forall_mem_nil _

theorem Inert.cons (first : '\x1b' ∉ span.text) (others : Inert styled) : Inert (span :: styled) :=
  List.forall_mem_cons.mpr ⟨first, others⟩

theorem decorates (inert : Inert styled) : Decorates (styled.render true) (styled.render false) :=
  .flatMap fun span member => Span.decorates (inert span member)

theorem inert_ofLines {lines : List Styled} (each : ∀ line ∈ lines, Inert line) :
    Inert (ofLines lines) := by
  intro span member
  obtain ⟨line, among, inside⟩ := List.mem_flatMap.mp member
  rcases List.mem_append.mp inside with inLine | last
  · exact each line among span inLine
  · rw [List.mem_singleton.mp last]
    decide

end Styled
end Shorthand
