import Shorthand.Text.Basic

/-! Patterns describe how a text starts. A pattern is a list of pieces, read one
after another from the left; a match is the part that each piece took and the
text that remains. Pieces that could take more or less are settled by the first
choice, in the order each piece prefers, with which the rest of the pattern fits.
The parts of a match followed by its remainder are always the text itself. -/
namespace Shorthand

/-- A set of characters that one place of a pattern admits. -/
inductive CharClass where
  | letter (c : Char)
  | anyLetter
  | anyDigit
  deriving DecidableEq

/-- A letter is admitted in any case; digits are the ten ASCII digits. -/
def CharClass.admits : CharClass → Char → Bool
  | .letter c, d => Letter.agrees c d
  | .anyLetter, d => Letter.isLetter d
  | .anyDigit, d => d.isDigit

/-- One step of a pattern. -/
inductive Piece where
  /-- One character for each class. -/
  | exactly (classes : List CharClass)
  /-- One of several words, an earlier one before a later one. -/
  | oneOf (words : List Text)
  /-- All blank characters that stand here, newlines included, and never fewer. -/
  | blanks
  /-- As few characters of this line as possible. -/
  | shortest
  /-- As many characters of this line as possible. -/
  | longest
  /-- The end of the text. -/
  | finish
  deriving DecidableEq

namespace Piece

/-- The letters of a word, each in any case. -/
def word (w : String) : Piece := .exactly (w.toList.map .letter)

/-- Two digits, three letters, two digits. -/
def birthCode : Piece :=
  .exactly [.anyDigit, .anyDigit, .anyLetter, .anyLetter, .anyLetter, .anyDigit, .anyDigit]

/-- Takes one character for each class from the front of a text. -/
def take : List CharClass → Text → Option (Text × Text)
  | [], t => some ([], t)
  | _ :: _, [] => none
  | k :: ks, c :: t =>
    if k.admits c then (take ks t).map fun (taken, left) => (c :: taken, left) else none

/-- Takes characters until what follows is accepted, but no newline. -/
def fewest (accept : Text → Option α) : Text → Option (Text × α)
  | [] => (accept []).map ([], ·)
  | c :: t =>
    match accept (c :: t) with
    | some found => some ([], found)
    | none =>
      if c = '\n' then none
      else (fewest accept t).map fun (taken, found) => (c :: taken, found)

/-- Takes characters up to the last place of this line where what follows is
accepted. -/
def most (accept : Text → Option α) : Text → Option (Text × α)
  | [] => (accept []).map ([], ·)
  | c :: t =>
    match if c = '\n' then none else most accept t with
    | some (taken, found) => some (c :: taken, found)
    | none => (accept (c :: t)).map ([], ·)

/-- Reads one piece and gives the text after it to `accept`, which stands for
the rest of the pattern and may refuse the choice. -/
def read (accept : Text → Option α) : Piece → Text → Option (Text × α)
  | .exactly classes, t => do
    let (taken, left) ← take classes t
    let found ← accept left
    return (taken, found)
  | .oneOf words, t => words.findSome? fun w => do
    let (taken, left) ← take (w.map .letter) t
    let found ← accept left
    return (taken, found)
  | .blanks, t => (accept (t.dropWhile Text.isBlank)).map (t.takeWhile Text.isBlank, ·)
  | .shortest, t => fewest accept t
  | .longest, t => most accept t
  | .finish, t => if t = [] then (accept []).map ([], ·) else none

end Piece

/-- What a pattern found at the start of a text. -/
structure Match where
  /-- One text for each piece of the pattern. -/
  parts : List Text
  /-- The text after the last part. -/
  rest : Text
  deriving DecidableEq

/-- The matched text itself. -/
def Match.text (found : Match) : Text := found.parts.flatten

abbrev Pattern := List Piece

/-- The match of a pattern at the start of a text. -/
def Pattern.match? : Pattern → Text → Option Match
  | [], t => some ⟨[], t⟩
  | piece :: pieces, t =>
    (piece.read (Pattern.match? pieces) t).map fun (taken, found) =>
      ⟨taken :: found.parts, found.rest⟩

namespace Piece

/-- One admitted character is taken for each class, and the rest of the text is left. -/
theorem take_eq_some_iff {classes : List CharClass} {t taken left : Text} :
    take classes t = some (taken, left) ↔
      t = taken ++ left ∧ classes.length = taken.length ∧
        ∀ {k c}, (k, c) ∈ classes.zip taken → k.admits c = true := by
  induction classes generalizing t taken with
  | nil => cases taken <;> simp [take]
  | cons k ks ih =>
    constructor
    · intro took
      cases t with
      | nil => simp [take] at took
      | cons c t =>
        simp only [take] at took
        split at took
        · next admitted =>
          simp only [Option.map_eq_some_iff, Prod.exists, Prod.mk.injEq] at took
          obtain ⟨tail, _, further, rfl, rfl⟩ := took
          obtain ⟨rfl, same, each⟩ := ih.mp further
          refine ⟨rfl, congrArg Nat.succ same, fun member => ?_⟩
          rw [List.zip_cons_cons, List.mem_cons, Prod.mk.injEq] at member
          rcases member with ⟨rfl, rfl⟩ | later
          · exact admitted
          · exact each later
        · cases took
    · rintro ⟨rfl, same, each⟩
      cases taken with
      | nil => cases same
      | cons c taken =>
        have admitted : k.admits c = true := each List.mem_cons_self
        have further : take ks (taken ++ left) = some (taken, left) :=
          ih.mpr ⟨rfl, Nat.succ.inj same, fun later => each (List.mem_cons_of_mem _ later)⟩
        simp [take, admitted, further]

theorem read_exactly_eq_some_iff {accept : Text → Option α} {classes : List CharClass}
    {t taken : Text} {found : α} :
    (Piece.exactly classes).read accept t = some (taken, found) ↔
      ∃ left, take classes t = some (taken, left) ∧ accept left = some found := by
  simp only [read, Option.bind_eq_bind, Option.bind_eq_some_iff, Prod.exists, Option.pure_def,
    Option.some.injEq, Prod.mk.injEq]
  constructor
  · rintro ⟨_, left, front, _, accepted, rfl, rfl⟩
    exact ⟨left, front, accepted⟩
  · rintro ⟨left, front, accepted⟩
    exact ⟨taken, left, front, found, accepted, rfl, rfl⟩

/-- One of the words is taken, letter for letter. -/
theorem read_oneOf_eq_some {accept : Text → Option α} {words : List Text} {t taken : Text}
    {found : α} (took : (Piece.oneOf words).read accept t = some (taken, found)) :
    ∃ w ∈ words, ∃ left, take (w.map .letter) t = some (taken, left) ∧ accept left = some found := by
  obtain ⟨w, member, took⟩ := List.exists_of_findSome?_eq_some took
  simp only [Option.bind_eq_bind, Option.bind_eq_some_iff, Prod.exists, Option.pure_def,
    Option.some.injEq, Prod.mk.injEq] at took
  obtain ⟨_, left, front, _, accepted, rfl, rfl⟩ := took
  exact ⟨w, member, left, front, accepted⟩

/-- The shortest choice: what follows it is accepted, no shorter choice is, and
no newline is crossed. -/
theorem fewest_eq_some_iff {accept : Text → Option α} {t taken : Text} {found : α} :
    fewest accept t = some (taken, found) ↔
      ∃ left, t = taken ++ left ∧ '\n' ∉ taken ∧ accept left = some found ∧
        ∀ shorter longer, t = shorter ++ longer → shorter.length < taken.length →
          accept longer = none := by
  induction t generalizing taken with
  | nil =>
    simp only [fewest, Option.map_eq_some_iff, Prod.mk.injEq]
    constructor
    · rintro ⟨a, accepted, rfl, rfl⟩
      exact ⟨[], rfl, by simp, accepted, fun _ _ _ fewer => absurd fewer (Nat.not_lt_zero _)⟩
    · rintro ⟨left, whole, _, accepted, _⟩
      obtain ⟨rfl, rfl⟩ := List.append_eq_nil_iff.mp whole.symm
      exact ⟨found, accepted, rfl, rfl⟩
  | cons c t ih =>
    simp only [fewest]
    split
    · next a accepted =>
      simp only [Option.some.injEq, Prod.mk.injEq]
      constructor
      · rintro ⟨rfl, rfl⟩
        exact ⟨c :: t, rfl, by simp, accepted, fun _ _ _ fewer => absurd fewer (Nat.not_lt_zero _)⟩
      · rintro ⟨left, whole, _, here, first⟩
        cases taken with
        | nil =>
          simp only [List.nil_append] at whole
          subst whole
          exact ⟨rfl, Option.some.inj (accepted.symm.trans here)⟩
        | cons d taken =>
          have refused := first [] (c :: t) rfl (by simp)
          simp [accepted] at refused
    · next refused =>
      split
      · next newline =>
        constructor
        · intro impossible
          cases impossible
        · rintro ⟨left, whole, plain, here, _⟩
          cases taken with
          | nil =>
            simp only [List.nil_append] at whole
            subst whole
            simp [refused] at here
          | cons d taken =>
            simp only [List.cons_append, List.cons.injEq] at whole
            simp [← whole.1, newline] at plain
      · next inline =>
        simp only [Option.map_eq_some_iff, Prod.exists, Prod.mk.injEq]
        constructor
        · rintro ⟨tail, a, further, rfl, rfl⟩
          obtain ⟨left, rfl, plain, here, first⟩ := ih.mp further
          refine ⟨left, rfl, ?_, here, ?_⟩
          · simp only [List.mem_cons, not_or]
            exact ⟨fun same => inline same.symm, plain⟩
          · intro shorter longer whole fewer
            cases shorter with
            | nil =>
              simp only [List.nil_append] at whole
              exact whole ▸ refused
            | cons d shorter =>
              simp only [List.cons_append, List.cons.injEq] at whole
              exact first shorter longer whole.2 (by simpa using fewer)
        · rintro ⟨left, whole, plain, here, first⟩
          cases taken with
          | nil =>
            simp only [List.nil_append] at whole
            subst whole
            simp [refused] at here
          | cons d taken =>
            simp only [List.cons_append, List.cons.injEq] at whole
            obtain ⟨rfl, rfl⟩ := whole
            refine ⟨taken, found, ih.mpr ⟨left, rfl, ?_, here, ?_⟩, rfl, rfl⟩
            · exact fun inside => plain (List.mem_cons_of_mem _ inside)
            · intro shorter longer whole fewer
              exact first (c :: shorter) longer (by rw [whole]; rfl) (by simpa using fewer)

/-- There is no longest choice exactly when no choice on this line is accepted. -/
theorem most_eq_none_iff {accept : Text → Option α} {t : Text} :
    most accept t = none ↔
      ∀ front back, t = front ++ back → '\n' ∉ front → accept back = none := by
  induction t with
  | nil =>
    simp only [most, Option.map_eq_none_iff]
    constructor
    · intro refused front back whole _
      obtain ⟨rfl, rfl⟩ := List.append_eq_nil_iff.mp whole.symm
      exact refused
    · exact fun refused => refused [] [] rfl (by simp)
  | cons c t ih =>
    constructor
    · intro nowhere front back whole plain
      simp only [most] at nowhere
      split at nowhere
      · cases nowhere
      · next further =>
        cases front with
        | nil =>
          simp only [List.nil_append] at whole
          simpa [whole] using nowhere
        | cons d front =>
          simp only [List.cons_append, List.cons.injEq] at whole
          obtain ⟨rfl, split⟩ := whole
          simp only [List.mem_cons, not_or] at plain
          rw [if_neg (Ne.symm plain.1)] at further
          exact ih.mp further front back split plain.2
    · intro refused
      have further : (if c = '\n' then none else most accept t) = none := by
        split
        · rfl
        · next inline =>
          refine ih.mpr fun front back whole plain => refused (c :: front) back (by rw [whole]; rfl) ?_
          simp only [List.mem_cons, not_or]
          exact ⟨fun same => inline same.symm, plain⟩
      simp [most, further, refused [] (c :: t) rfl]

private theorem most_choice {accept : Text → Option α} {t taken : Text} {found : α}
    (took : most accept t = some (taken, found)) :
    ∃ left, t = taken ++ left ∧ '\n' ∉ taken ∧ accept left = some found ∧
      ∀ longer shorter, t = longer ++ shorter → '\n' ∉ longer →
        taken.length < longer.length → accept shorter = none := by
  induction t generalizing taken with
  | nil =>
    simp only [most, Option.map_eq_some_iff, Prod.mk.injEq] at took
    obtain ⟨a, accepted, rfl, rfl⟩ := took
    refine ⟨[], rfl, by simp, accepted, fun longer shorter whole _ more => ?_⟩
    obtain ⟨rfl, rfl⟩ := List.append_eq_nil_iff.mp whole.symm
    exact absurd more (Nat.not_lt_zero _)
  | cons c t ih =>
    simp only [most] at took
    split at took
    · next tail a further =>
      simp only [Option.some.injEq, Prod.mk.injEq] at took
      obtain ⟨rfl, rfl⟩ := took
      split at further
      · cases further
      · next inline =>
        obtain ⟨left, rfl, plain, accepted, last⟩ := ih further
        refine ⟨left, rfl, ?_, accepted, fun longer shorter whole plain' more => ?_⟩
        · simp only [List.mem_cons, not_or]
          exact ⟨fun same => inline same.symm, plain⟩
        · cases longer with
          | nil => exact absurd more (Nat.not_lt_zero _)
          | cons d longer =>
            simp only [List.cons_append, List.cons.injEq] at whole
            exact last longer shorter whole.2 (fun inside => plain' (List.mem_cons_of_mem _ inside))
              (by simpa using more)
    · next further =>
      simp only [Option.map_eq_some_iff, Prod.mk.injEq] at took
      obtain ⟨a, accepted, rfl, rfl⟩ := took
      refine ⟨c :: t, rfl, by simp, accepted, fun longer shorter whole plain more => ?_⟩
      cases longer with
      | nil => exact absurd more (Nat.not_lt_zero _)
      | cons d longer =>
        simp only [List.cons_append, List.cons.injEq] at whole
        obtain ⟨rfl, split⟩ := whole
        simp only [List.mem_cons, not_or] at plain
        rw [if_neg (Ne.symm plain.1)] at further
        exact most_eq_none_iff.mp further longer shorter split plain.2

/-- The longest choice: what follows it is accepted, no newline is crossed, and no
longer choice on the same line is accepted. -/
theorem most_eq_some_iff {accept : Text → Option α} {t taken : Text} {found : α} :
    most accept t = some (taken, found) ↔
      ∃ left, t = taken ++ left ∧ '\n' ∉ taken ∧ accept left = some found ∧
        ∀ longer shorter, t = longer ++ shorter → '\n' ∉ longer →
          taken.length < longer.length → accept shorter = none := by
  refine ⟨most_choice, fun ⟨left, whole, plain, accepted, last⟩ => ?_⟩
  cases choice : most accept t with
  | none => simp [most_eq_none_iff.mp choice taken left whole plain] at accepted
  | some other =>
    obtain ⟨taken', found'⟩ := other
    obtain ⟨left', whole', plain', accepted', last'⟩ := most_choice choice
    have same : taken'.length = taken.length := by
      rcases Nat.lt_trichotomy taken'.length taken.length with fewer | same | more
      · simp [last' taken left whole plain fewer] at accepted
      · exact same
      · simp [last taken' left' whole' plain' more] at accepted'
    obtain ⟨rfl, rfl⟩ := List.append_inj (whole'.symm.trans whole) same
    rw [accepted] at accepted'
    cases accepted'
    rfl

/-- Whatever a piece takes stands at the front of the text, and the rest of the
pattern accepted what follows it. -/
theorem read_eq_some {accept : Text → Option α} {piece : Piece} {t taken : Text} {found : α}
    (took : piece.read accept t = some (taken, found)) :
    ∃ left, t = taken ++ left ∧ accept left = some found := by
  cases piece with
  | exactly classes =>
    obtain ⟨left, front, accepted⟩ := read_exactly_eq_some_iff.mp took
    exact ⟨left, (take_eq_some_iff.mp front).1, accepted⟩
  | oneOf words =>
    obtain ⟨_, _, left, front, accepted⟩ := read_oneOf_eq_some took
    exact ⟨left, (take_eq_some_iff.mp front).1, accepted⟩
  | blanks =>
    simp only [read, Option.map_eq_some_iff, Prod.mk.injEq] at took
    obtain ⟨_, accepted, rfl, rfl⟩ := took
    exact ⟨_, (List.takeWhile_append_dropWhile ..).symm, accepted⟩
  | shortest =>
    obtain ⟨left, whole, _, accepted, _⟩ := fewest_eq_some_iff.mp took
    exact ⟨left, whole, accepted⟩
  | longest =>
    obtain ⟨left, whole, _, accepted, _⟩ := most_eq_some_iff.mp took
    exact ⟨left, whole, accepted⟩
  | finish =>
    simp only [read] at took
    split at took
    · next none =>
      simp only [Option.map_eq_some_iff, Prod.mk.injEq] at took
      obtain ⟨_, accepted, rfl, rfl⟩ := took
      exact ⟨[], by simpa using none, accepted⟩
    · cases took

end Piece

theorem Pattern.match?_cons_eq_some_iff {piece : Piece} {pieces : Pattern} {t : Text}
    {found : Match} : Pattern.match? (piece :: pieces) t = some found ↔
      ∃ taken inner, piece.read (Pattern.match? pieces) t = some (taken, inner) ∧
        found = ⟨taken :: inner.parts, inner.rest⟩ := by
  simp only [Pattern.match?, Option.map_eq_some_iff, Prod.exists]
  exact ⟨fun ⟨taken, inner, took, same⟩ => ⟨taken, inner, took, same.symm⟩,
    fun ⟨taken, inner, took, same⟩ => ⟨taken, inner, took, same.symm⟩⟩

/-- A match is a way to cut the text: its parts, one for each piece, and its remainder make it
up. -/
theorem Pattern.match?_eq_some {pattern : Pattern} {t : Text} {found : Match}
    (matched : pattern.match? t = some found) :
    found.text ++ found.rest = t ∧ found.parts.length = pattern.length := by
  induction pattern generalizing t found with
  | nil =>
    simp only [Pattern.match?, Option.some.injEq] at matched
    subst matched
    exact ⟨rfl, rfl⟩
  | cons piece pieces ih =>
    obtain ⟨taken, inner, took, rfl⟩ := Pattern.match?_cons_eq_some_iff.mp matched
    obtain ⟨left, rfl, accepted⟩ := Piece.read_eq_some took
    obtain ⟨whole, count⟩ := ih accepted
    exact ⟨by simp [Match.text, ← whole], by simp [count]⟩

theorem Pattern.text_append_rest {pattern : Pattern} {t : Text} {found : Match}
    (matched : pattern.match? t = some found) : found.text ++ found.rest = t :=
  (match?_eq_some matched).1

theorem Pattern.length_parts {pattern : Pattern} {t : Text} {found : Match}
    (matched : pattern.match? t = some found) : found.parts.length = pattern.length :=
  (match?_eq_some matched).2

end Shorthand
