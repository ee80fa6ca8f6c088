import Shorthand.Passenger.BirthCode
import Shorthand.Proofs.Passenger.Splitting

/-! Birth codes that can be read. They fit the shape that the patterns ask for, and no
passenger separator stands in them: a digit 1 of the year could follow a title only
if a month ended with one, and in no month the second letter is an M. -/
namespace Shorthand.BirthCode

theorem read_eq_ok_iff {token : Text} {code : BirthCode} : read token = .ok code ↔
    ∃ d₁ d₂ m₁ m₂ m₃ y₁ y₂, token = [d₁, d₂, m₁, m₂, m₃, y₁, y₂] ∧
      token.all Letter.isAscii = true ∧ twoDigits? d₁ d₂ = some code.day ∧
        monthNumber? [m₁, m₂, m₃] = some code.month ∧
          twoDigits? y₁ y₂ = some code.yearOfCentury := by
  constructor
  · intro success
    unfold read at success
    split at success
    · next d₁ d₂ m₁ m₂ m₃ y₁ y₂ =>
      split at success
      · next ascii =>
        cases day : twoDigits? d₁ d₂ with
        | none => simp [day] at success
        | some _ =>
          cases month : monthNumber? [m₁, m₂, m₃] with
          | none => simp [day, month] at success
          | some _ =>
            cases year : twoDigits? y₁ y₂ with
            | none => simp [day, month, year] at success
            | some _ =>
              simp only [day, month, year, Except.ok.injEq] at success
              subst success
              exact ⟨d₁, d₂, m₁, m₂, m₃, y₁, y₂, rfl, ascii, day, month, year⟩
      · cases success
    · cases success
  · rintro ⟨d₁, d₂, m₁, m₂, m₃, y₁, y₂, rfl, ascii, day, month, year⟩
    simp [read, ascii, day, month, year]

theorem isDigit_of_twoDigits? {c d : Char} {n : Nat} (two : twoDigits? c d = some n) :
    c.isDigit = true ∧ d.isDigit = true := by
  unfold twoDigits? at two
  split at two
  · next digits => exact digits
  · cases two

theorem mem_months_of_monthNumber? {letters : Text} {n : Nat}
    (number : monthNumber? letters = some n) : letters.map Char.toUpper ∈ months := by
  obtain ⟨i, found, _⟩ := Option.map_eq_some_iff.mp number
  exact List.isSome_idxOf?.mp (Option.isSome_of_eq_some found)

/-- Two digits, three letters, two digits. -/
def Shaped (token : Text) : Prop :=
  Fits [.anyDigit, .anyDigit, .anyLetter, .anyLetter, .anyLetter, .anyDigit, .anyDigit] token

instance (token : Text) : Decidable (Shaped token) :=
  inferInstanceAs (Decidable (List.Forall₂ _ _ _))

/-- Two ASCII digits, three letters and two ASCII digits. The long s and the Kelvin sign
are letters here. -/
def IsToken (t : Text) : Prop :=
  ∃ d₁ d₂ m₁ m₂ m₃ y₁ y₂, t = [d₁, d₂, m₁, m₂, m₃, y₁, y₂] ∧
    (∀ c ∈ [d₁, d₂, y₁, y₂], c.isDigit = true) ∧
      ∀ c ∈ [m₁, m₂, m₃], c.isAlpha = true ∨ c = 'ſ' ∨ c = '\u212A'

/-- The tokens are the texts of the shape that the patterns ask for. -/
theorem shaped_iff_isToken {t : Text} : Shaped t ↔ IsToken t := by
  simp only [Shaped, Fits, IsToken, List.forall₂_cons_left_iff, List.forall₂_nil_left_iff,
    CharClass.admits, Letter.isLetter_iff, List.forall_mem_cons]
  constructor
  · rintro ⟨d₁, _, digit₁, ⟨d₂, _, digit₂, ⟨m₁, _, letter₁, ⟨m₂, _, letter₂, ⟨m₃, _, letter₃,
      ⟨y₁, _, digit₃, ⟨y₂, _, digit₄, rfl, rfl⟩, rfl⟩, rfl⟩, rfl⟩, rfl⟩, rfl⟩, rfl⟩
    exact ⟨d₁, d₂, m₁, m₂, m₃, y₁, y₂, rfl, ⟨digit₁, digit₂, digit₃, digit₄, by simp⟩,
      letter₁, letter₂, letter₃, by simp⟩
  · rintro ⟨d₁, d₂, m₁, m₂, m₃, y₁, y₂, rfl, ⟨digit₁, digit₂, digit₃, digit₄, _⟩,
      letter₁, letter₂, letter₃, _⟩
    exact ⟨d₁, _, digit₁, ⟨d₂, _, digit₂, ⟨m₁, _, letter₁, ⟨m₂, _, letter₂, ⟨m₃, _, letter₃,
      ⟨y₁, _, digit₃, ⟨y₂, _, digit₄, rfl, rfl⟩, rfl⟩, rfl⟩, rfl⟩, rfl⟩, rfl⟩, rfl⟩

instance (t : Text) : Decidable (IsToken t) := decidable_of_iff _ shaped_iff_isToken

/-- A token with a closing bracket behind it is found as these two parts. -/
theorem match?_closed_iff {t : Text} {found : Match} :
    Pattern.match? [.birthCode, .word ")"] t = some found ↔
      ∃ token rest, t = token ++ ')' :: rest ∧ IsToken token ∧
        found = ⟨[token, [')']], rest⟩ := by
  have close : ∀ {t : Text}, Text.Spells ")".toList t ↔ t = [')'] :=
    Text.spells_singleton_iff rfl
  rw [Piece.birthCode, Pattern.match?_exactly_iff]
  constructor
  · rintro ⟨token, _, _, rfl, shaped, closed, rfl⟩
    obtain ⟨back, rest, _, rfl, closes, last, rfl⟩ := (Pattern.match?_word_iff rfl).mp closed
    cases last
    obtain rfl := close.mp closes
    exact ⟨token, rest, rfl, shaped_iff_isToken.mp shaped, rfl⟩
  · rintro ⟨token, rest, rfl, isToken, rfl⟩
    have closed : Pattern.match? [.word ")"] (')' :: rest) = some ⟨[[')']], rest⟩ :=
      (Pattern.match?_word_iff rfl).mpr ⟨[')'], rest, _, rfl, close.mpr rfl, rfl, rfl⟩
    exact ⟨token, _, _, rfl, shaped_iff_isToken.mpr isToken, closed, rfl⟩

/-- The characters of a token are digits, or they are letters of its month. -/
theorem IsToken.digit_or_letter {t : Text} {c : Char} (isToken : IsToken t) (member : c ∈ t) :
    c.isDigit = true ∨
      (c ∈ (t.drop 2).take 3 ∧ (c.isAlpha = true ∨ c = 'ſ' ∨ c = '\u212A')) := by
  obtain ⟨d₁, d₂, m₁, m₂, m₃, y₁, y₂, rfl, digits, letters⟩ := isToken
  have places : c ∈ [d₁, d₂, y₁, y₂] ∨ c ∈ [m₁, m₂, m₃] := by
    simp only [List.mem_cons, List.not_mem_nil, or_false] at member ⊢
    tauto
  rcases places with digit | letter
  · exact Or.inl (digits c digit)
  · exact Or.inr ⟨letter, letters c letter⟩

/-- A token ends with a digit. -/
theorem IsToken.isDigit_getLast {t : Text} (isToken : IsToken t) :
    ∃ c, t.getLast? = some c ∧ c.isDigit = true := by
  obtain ⟨d₁, d₂, m₁, m₂, m₃, y₁, y₂, rfl, digits, _⟩ := isToken
  exact ⟨y₂, rfl, digits y₂ (by simp)⟩

/-- The two characters that a token ends with are the digits of its year. -/
theorem IsToken.isDigit_year {front : Text} {y₁ y₂ : Char} (isToken : IsToken (front ++ [y₁, y₂])) :
    y₁.isDigit = true ∧ y₂.isDigit = true := by
  obtain ⟨d₁, d₂, m₁, m₂, m₃, z₁, z₂, same, digits, _⟩ := isToken
  have parted : front ++ [y₁, y₂] = [d₁, d₂, m₁, m₂, m₃] ++ [z₁, z₂] := same
  obtain ⟨_, years⟩ := List.append_inj' parted rfl
  cases years
  exact ⟨digits _ (by simp), digits _ (by simp)⟩

/-- A birth code that can be read has the shape of one. -/
theorem shaped_of_read {token : Text} {code : BirthCode} (success : read token = .ok code) :
    Shaped token := by
  obtain ⟨d₁, d₂, m₁, m₂, m₃, y₁, y₂, rfl, _, day, month, year⟩ := read_eq_ok_iff.mp success
  have capitals : ∀ word ∈ months, word.all Char.isUpper = true := by decide
  have letters := List.all_eq_true.mp (capitals _ (mem_months_of_monthNumber? month))
  simp only [List.map_cons, List.map_nil, List.forall_mem_cons] at letters
  obtain ⟨digit₁, digit₂⟩ := isDigit_of_twoDigits? day
  obtain ⟨digit₃, digit₄⟩ := isDigit_of_twoDigits? year
  exact .cons digit₁ (.cons digit₂ (.cons (Letter.isLetter_of_isUpper_toUpper letters.1)
    (.cons (Letter.isLetter_of_isUpper_toUpper letters.2.1)
      (.cons (Letter.isLetter_of_isUpper_toUpper letters.2.2.1)
        (.cons digit₃ (.cons digit₄ .nil))))))

/-- A token holds a separator only if its year begins with a 1 right behind a title. -/
theorem holdsSeparator_token_iff {d₁ d₂ m₁ m₂ m₃ y₁ y₂ : Char}
    (digits : ∀ c ∈ [d₁, d₂, y₁, y₂], c.isDigit = true)
    (letters : ∀ c ∈ [m₁, m₂, m₃], Letter.isLetter c = true) :
    Stack.HoldsSeparator [d₁, d₂, m₁, m₂, m₃, y₁, y₂] ↔
      Stack.IsHonorific [m₂, m₃] ∧ y₁ = '1' := by
  simp only [List.forall_mem_cons] at digits letters
  obtain ⟨digit₁, digit₂, digit₃, digit₄, _⟩ := digits
  obtain ⟨letter₁, letter₂, letter₃, _⟩ := letters
  -- The letters from some place on would be a title of two or four letters.
  have three := @Stack.cue_prefix_iff [m₁, m₂, m₃] [y₂] y₁ (by simp [*]) digit₃
  have two := @Stack.cue_prefix_iff [m₂, m₃] [y₂] y₁ (by simp [*]) digit₃
  have one := @Stack.cue_prefix_iff [m₃] [y₂] y₁ (by simp [*]) digit₃
  have noThree : ¬ Stack.IsHonorific [m₁, m₂, m₃] :=
    fun honorific => by simpa using honorific.length
  have noOne : ¬ Stack.IsHonorific [m₃] := fun honorific => by simpa using honorific.length
  simp only [List.cons_append, List.nil_append] at three two one
  rw [Stack.holdsSeparator_digit_cons_iff digit₁, Stack.holdsSeparator_digit_cons_iff digit₂,
    Stack.holdsSeparator_cons_iff, Stack.holdsSeparator_cons_iff, Stack.holdsSeparator_cons_iff,
    Stack.holdsSeparator_digit_cons_iff digit₃, Stack.holdsSeparator_digit_cons_iff digit₄,
    three, two, one]
  simp [noThree, noOne, Stack.holdsSeparator_nil]

/-- No month ends with a title. -/
private theorem month_untitled {m₁ m₂ m₃ : Char} (member : [m₁, m₂, m₃].map Char.toUpper ∈ months) :
    ¬ Stack.IsHonorific [m₂, m₃] := by
  have breaks : ∀ month ∈ months, month[1]? ≠ some 'M' := by decide
  intro honorific
  obtain ⟨_, _, _, same, isHead, _⟩ := honorific.shape
  cases same
  refine breaks _ member ?_
  simp only [Stack.isTitleHead, Bool.or_eq_true, decide_eq_true_eq] at isHead
  rcases isHead with rfl | rfl <;> rfl

/-- No passenger separator stands in a birth code that can be read. -/
theorem single_of_read {token : Text} {code : BirthCode} (success : read token = .ok code) :
    ¬ Stack.HoldsSeparator token := by
  obtain ⟨d₁, d₂, m₁, m₂, m₃, y₁, y₂, same, digits, letters⟩ :=
    shaped_iff_isToken.mp (shaped_of_read success)
  obtain ⟨_, _, n₁, n₂, n₃, _, _, same', _, _, month, _⟩ := read_eq_ok_iff.mp success
  cases same.symm.trans same'
  subst same
  rw [holdsSeparator_token_iff digits fun c member => Letter.isLetter_iff.mpr (letters c member)]
  exact fun holds => month_untitled (mem_months_of_monthNumber? month) holds.1

end Shorthand.BirthCode
