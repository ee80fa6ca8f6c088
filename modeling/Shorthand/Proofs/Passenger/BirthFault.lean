import Mathlib.Data.List.Nodup
import Shorthand.Proofs.Passenger.BirthToken

/-! Why a birth code of the right shape gives no age. Its digits are always read, so three
reasons remain: a letter outside ASCII, letters that name no month, and a day that the
month does not have in the inferred year. They exclude one another, and each is the reason
that is reported when it holds. -/
namespace Shorthand.BirthCode

/-- The characters of a token that stand for the day, the month and the year. -/
def dayPart (token : Text) : Text := token.take 2

def monthPart (token : Text) : Text := (token.drop 2).take 3

def yearPart (token : Text) : Text := token.drop 5

/-- The letters are the abbreviation of the month with this number, in either case. -/
def NamesMonth (letters : Text) (n : Nat) : Prop :=
  1 ≤ n ∧ months[n - 1]? = some (letters.map Char.toUpper)

/-- The latest year that ends with these two digits and has begun. -/
def IsInferred (currentYear : Int) (twoDigits : Nat) (year : Int) : Prop :=
  year ≤ currentYear ∧ currentYear < year + 100 ∧ year % 100 = twoDigits

/-- The token stands for a birth date. -/
def Resolves (currentYear : Int) (token : Text) : Prop :=
  ∃ code birth, read token = .ok code ∧ code.birthDate currentYear = .ok birth

/-- The reason for which a token of the right shape stands for no birth date. -/
inductive FaultOf (currentYear : Int) (token : Text) : Fault → Prop where
  | shape (foreign : ∃ c ∈ token, c = 'ſ' ∨ c = '\u212A') : FaultOf currentYear token (.shape token)
  | month (ascii : ∀ c ∈ token, Letter.isAscii c = true)
      (unknown : (monthPart token).map Char.toUpper ∉ months) :
      FaultOf currentYear token (.month (monthPart token))
  | date {year : Int} {month : Nat} (named : NamesMonth (monthPart token) month)
      (inferred : IsInferred currentYear (Numeral.value (yearPart token)) year)
      (absent : ¬ IsDate year month (Numeral.value (dayPart token))) :
      FaultOf currentYear token (.date year month (Numeral.value (dayPart token)))

theorem monthNumber?_eq_some_iff {letters : Text} {n : Nat} :
    monthNumber? letters = some n ↔ NamesMonth letters n := by
  have once : months.Nodup := by decide
  rw [monthNumber?, Option.map_eq_some_iff, NamesMonth]
  constructor
  · rintro ⟨i, found, rfl⟩
    obtain ⟨inside, same, _⟩ := List.idxOf?_eq_some_iff.mp found
    exact ⟨by omega, List.getElem?_eq_some_iff.mpr ⟨inside, same⟩⟩
  · rintro ⟨positive, found⟩
    obtain ⟨inside, same⟩ := List.getElem?_eq_some_iff.mp found
    refine ⟨n - 1, List.idxOf?_eq_some_iff.mpr ⟨inside, same, ?_⟩, by omega⟩
    intro j before again
    have index := (List.Nodup.getElem_inj_iff once).mp (again.trans same.symm)
    omega

theorem monthNumber?_eq_none_iff {letters : Text} :
    monthNumber? letters = none ↔ letters.map Char.toUpper ∉ months := by
  rw [monthNumber?, Option.map_eq_none_iff, List.idxOf?_eq_none_iff]

theorem value_pair_le {c d : Char} (first : c.isDigit = true) (second : d.isDigit = true) :
    Numeral.value [c, d] ≤ 99 := by
  have tens : c.toNat ≤ 57 := (Char.isDigit_iff_toNat.mp first).2
  have ones : d.toNat ≤ 57 := (Char.isDigit_iff_toNat.mp second).2
  have zero : '0'.toNat = 48 := rfl
  simp only [Numeral.value, Nat.ofDigitChars, List.foldl_cons, List.foldl_nil, zero]
  omega

/-- A foreign letter in a token is none of ASCII and no part of a month's name. -/
theorem foreign_of_mem {c : Char} (foreign : c = 'ſ' ∨ c = '\u212A') :
    Letter.isAscii c = false ∧ c.isDigit = false ∧ c.toUpper.isUpper = false := by
  rcases foreign with rfl | rfl <;> decide

theorem NamesMonth.mem {letters : Text} {n : Nat} (named : NamesMonth letters n) :
    letters.map Char.toUpper ∈ months :=
  List.mem_of_getElem? named.2

theorem NamesMonth.unique {letters : Text} {m n : Nat} (first : NamesMonth letters m)
    (second : NamesMonth letters n) : m = n := by
  rw [← monthNumber?_eq_some_iff] at first second
  exact Option.some.inj (first.symm.trans second)

/-- The birth year is the inferred one. -/
theorem birthYear_eq_iff {code : BirthCode} {currentYear year : Int}
    (twoDigits : code.yearOfCentury ≤ 99) :
    code.birthYear currentYear = year ↔ IsInferred currentYear code.yearOfCentury year := by
  obtain ⟨begun, latest, digits⟩ := @birthYear_bounds code currentYear twoDigits
  constructor
  · rintro rfl
    exact ⟨begun, latest, digits⟩
  · rintro ⟨begun', latest', digits'⟩
    omega

theorem birthDate_eq_error_iff {code : BirthCode} {currentYear : Int} {cause : Fault} :
    code.birthDate currentYear = .error cause ↔
      ¬ IsDate (code.birthYear currentYear) code.month code.day ∧
        cause = .date (code.birthYear currentYear) code.month code.day := by
  unfold birthDate
  cases made : Date.ofYmd? (code.birthYear currentYear) code.month code.day with
  | none =>
    have absent := Date.ofYmd?_eq_none_iff.mp made
    simp [made, absent, eq_comm]
  | some date =>
    have valid : IsDate (code.birthYear currentYear) code.month code.day := by
      obtain ⟨year, month, day⟩ := Date.ofYmd?_eq_some_iff.mp made
      exact year ▸ month ▸ day ▸ date.valid
    simp [made, valid]

/-- An age is missing for the reason that reading the token or finding the date gives. -/
theorem ageOn_eq_error_iff {token : Text} {reference : Date} {currentYear : Int} {cause : Fault} :
    ageOn token reference currentYear = .error cause ↔ read token = .error cause ∨
      ∃ code, read token = .ok code ∧ code.birthDate currentYear = .error cause := by
  unfold ageOn
  cases success : read token with
  | error cause' => simp [bind, Except.bind]
  | ok code =>
    cases born : code.birthDate currentYear <;> simp [bind, Except.bind, born, pure, Except.pure]

/-- A token of the right shape has a foreign letter, or letters that name no month, or it
is read with all its parts. -/
theorem read_of_isToken {t : Text} (isToken : IsToken t) :
    ((∃ c ∈ t, c = 'ſ' ∨ c = '\u212A') ∧ read t = .error (.shape t)) ∨
      ((∀ c ∈ t, Letter.isAscii c = true) ∧ (monthPart t).map Char.toUpper ∉ months ∧
        read t = .error (.month (monthPart t))) ∨
      ∃ n, NamesMonth (monthPart t) n ∧ Numeral.value (yearPart t) ≤ 99 ∧
        read t = .ok ⟨Numeral.value (dayPart t), n, Numeral.value (yearPart t)⟩ := by
  obtain ⟨d₁, d₂, m₁, m₂, m₃, y₁, y₂, rfl, digits, _⟩ := id isToken
  have day : twoDigits? d₁ d₂ = some (Numeral.value [d₁, d₂]) :=
    if_pos ⟨digits d₁ (by simp), digits d₂ (by simp)⟩
  have year : twoDigits? y₁ y₂ = some (Numeral.value [y₁, y₂]) :=
    if_pos ⟨digits y₁ (by simp), digits y₂ (by simp)⟩
  by_cases ascii : [d₁, d₂, m₁, m₂, m₃, y₁, y₂].all Letter.isAscii = true
  · refine Or.inr ?_
    cases month : monthNumber? [m₁, m₂, m₃] with
    | none =>
      refine Or.inl ⟨List.all_eq_true.mp ascii, monthNumber?_eq_none_iff.mp month, ?_⟩
      simp [read, ascii, day, month, monthPart]
    | some n =>
      refine Or.inr ⟨n, monthNumber?_eq_some_iff.mp month,
        value_pair_le (digits y₁ (by simp)) (digits y₂ (by simp)), ?_⟩
      exact read_eq_ok_iff.mpr ⟨d₁, d₂, m₁, m₂, m₃, y₁, y₂, rfl, ascii, day, month, year⟩
  · refine Or.inl ⟨?_, by simp only [read, if_neg ascii]⟩
    -- Digits and the letters of the alphabet are ASCII.
    by_contra native
    refine ascii (List.all_eq_true.mpr fun c member => ?_)
    rcases isToken.digit_or_letter member with digit | ⟨_, alpha | foreign⟩
    · exact Letter.isAscii_of_isDigit digit
    · exact Letter.isAscii_of_isAlpha alpha
    · exact absurd ⟨c, member, foreign⟩ native

/-- A token whose letters name a month has no foreign letter. -/
theorem NamesMonth.native {t : Text} {n : Nat} (isToken : IsToken t)
    (named : NamesMonth (monthPart t) n) : ¬ ∃ c ∈ t, c = 'ſ' ∨ c = '\u212A' := by
  rintro ⟨c, member, foreign⟩
  obtain ⟨_, noDigit, noUpper⟩ := foreign_of_mem foreign
  have capitals : ∀ word ∈ months, word.all Char.isUpper = true := by decide
  have upper := List.all_eq_true.mp (capitals _ named.mem)
  rcases isToken.digit_or_letter member with digit | ⟨inMonth, _⟩
  · rw [digit] at noDigit
    cases noDigit
  · rw [upper c.toUpper (List.mem_map_of_mem inMonth)] at noUpper
    cases noUpper

/-- The fault of a token of the right shape is what reading it or finding its date gives. -/
theorem faultOf_iff {t : Text} (isToken : IsToken t) {currentYear : Int} {cause : Fault} :
    FaultOf currentYear t cause ↔ read t = .error cause ∨
      ∃ code, read t = .ok code ∧ code.birthDate currentYear = .error cause := by
  rw [iff_comm]
  have native : (∀ c ∈ t, Letter.isAscii c = true) → ¬ ∃ c ∈ t, c = 'ſ' ∨ c = '\u212A' := by
    rintro ascii ⟨c, member, foreign⟩
    have outside := (foreign_of_mem foreign).1
    rw [ascii c member] at outside
    cases outside
  rcases read_of_isToken isToken with ⟨foreign, failed⟩ | ⟨ascii, unknown, failed⟩ |
    ⟨n, named, century, success⟩
  · constructor
    · rintro (same | ⟨code, success, _⟩)
      · cases failed.symm.trans same
        exact .shape foreign
      · cases failed.symm.trans success
    · intro fault
      cases fault with
      | shape _ => exact Or.inl failed
      | month ascii _ => exact absurd foreign (native ascii)
      | date named _ _ => exact absurd foreign (named.native isToken)
  · constructor
    · rintro (same | ⟨code, success, _⟩)
      · cases failed.symm.trans same
        exact .month ascii unknown
      · cases failed.symm.trans success
    · intro fault
      cases fault with
      | shape foreign => exact absurd foreign (native ascii)
      | month _ _ => exact Or.inl failed
      | date named _ _ => exact absurd named.mem unknown
  · constructor
    · rintro (failed | ⟨code, same, failed⟩)
      · cases success.symm.trans failed
      · cases success.symm.trans same
        obtain ⟨absent, rfl⟩ := birthDate_eq_error_iff.mp failed
        exact .date named ((birthYear_eq_iff century).mp rfl) absent
    · intro fault
      cases fault with
      | shape foreign => exact absurd foreign (named.native isToken)
      | month _ unknown => exact absurd named.mem unknown
      | date named' inferred absent =>
        obtain rfl := named.unique named'
        obtain rfl := (@birthYear_eq_iff ⟨Numeral.value (dayPart t), n,
          Numeral.value (yearPart t)⟩ currentYear _ century).mpr inferred
        exact Or.inr ⟨_, success, birthDate_eq_error_iff.mpr ⟨absent, rfl⟩⟩

/-- A token of the right shape gives no age for exactly the reason that holds of it. -/
theorem ageOn_eq_error_iff_faultOf {t : Text} (isToken : IsToken t) {reference : Date}
    {currentYear : Int} {cause : Fault} :
    ageOn t reference currentYear = .error cause ↔ FaultOf currentYear t cause := by
  rw [ageOn_eq_error_iff, faultOf_iff isToken]

/-- A token of the right shape stands for a birth date or has a fault. -/
theorem not_resolves_iff {t : Text} (isToken : IsToken t) {currentYear : Int} :
    ¬ Resolves currentYear t ↔ ∃ cause, FaultOf currentYear t cause := by
  simp only [Resolves, faultOf_iff isToken]
  cases success : read t with
  | error cause => simp
  | ok code => cases born : code.birthDate currentYear <;> simp [born]

instance (currentYear : Int) (token : Text) : Decidable (Resolves currentYear token) :=
  decidable_of_iff ((read token >>= (birthDate · currentYear)).toOption.isSome = true) (by
    unfold Resolves
    cases success : read token with
    | error cause => simp [bind, Except.bind, Except.toOption]
    | ok code =>
      cases born : code.birthDate currentYear <;> simp [bind, Except.bind, Except.toOption, born])

/-- No two reasons hold of one token. -/
theorem FaultOf.unique {t : Text} (isToken : IsToken t) {currentYear : Int} {cause cause' : Fault}
    (fault : FaultOf currentYear t cause) (fault' : FaultOf currentYear t cause') :
    cause = cause' := by
  rcases (faultOf_iff isToken).mp fault with failed | ⟨code, success, failed⟩ <;>
    rcases (faultOf_iff isToken).mp fault' with failed' | ⟨code', success', failed'⟩
  · exact Except.error.inj (failed.symm.trans failed')
  · cases failed.symm.trans success'
  · cases success.symm.trans failed'
  · cases success.symm.trans success'
    exact Except.error.inj (failed.symm.trans failed')

end Shorthand.BirthCode
