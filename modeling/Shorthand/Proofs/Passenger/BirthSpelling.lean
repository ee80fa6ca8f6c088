import Shorthand.Proofs.Passenger.BirthFault
import Shorthand.Proofs.Text.Parts
import Shorthand.Proofs.Text.Capitals

/-! Birth codes as they are spelled. A code has one spelling for each way to write the letters
of its month, and the tokens that are read are these spellings. Every other token has a fault,
which is the first thing that is wrong with it: its size, its day, its month, its year. A token
of the right size is made of ASCII characters, so it can be cut behind its day and its month. -/
namespace Shorthand.BirthCode

/-- The names of the months, January first. -/
def monthNames : List String :=
  ["January", "February", "March", "April", "May", "June", "July", "August", "September",
    "October", "November", "December"]

/-- The letters begin the name of the month with this number and are three, in any case. -/
def Abbreviates (letters : Text) (month : Nat) : Prop :=
  1 ≤ month ∧ ∃ name, monthNames[month - 1]? = some name ∧
    letters.capitals = Text.capitals (name.toList.take 3)

/-- A day and a year of two digits, and between them the abbreviation of a month. -/
structure IsSpelling (code : BirthCode) (token : Text) : Prop where
  day : code.day ≤ 99
  yearOfCentury : code.yearOfCentury ≤ 99
  whole : ∃ letters, Abbreviates letters code.month ∧
    token = Numeral.padded 2 code.day ++ (letters ++ Numeral.padded 2 code.yearOfCentury)

/-- Seven bytes, all of them ASCII characters. -/
def IsCompact (token : Text) : Prop :=
  token.byteCount = 7 ∧ ∀ c ∈ token, Letter.isAscii c = true

def IsTwoDigits (t : Text) : Prop :=
  ∃ tens ones, t = [tens, ones] ∧ tens.isDigit = true ∧ ones.isDigit = true

/-- The first thing that is wrong with a token. -/
inductive FirstFault (token : Text) : Fault → Prop where
  | shape (unfit : token.byteCount ≠ 7 ∨ ∃ c ∈ token, Letter.isAscii c = false) :
      FirstFault token (.shape token)
  | day (compact : IsCompact token) (noDay : ¬ IsTwoDigits (dayPart token)) :
      FirstFault token (.day (dayPart token))
  | month (compact : IsCompact token) (day : IsTwoDigits (dayPart token))
      (noMonth : ∀ n, ¬ Abbreviates (monthPart token) n) :
      FirstFault token (.month (monthPart token))
  | year (compact : IsCompact token) (day : IsTwoDigits (dayPart token)) {n : Nat}
      (month : Abbreviates (monthPart token) n) (noYear : ¬ IsTwoDigits (yearPart token)) :
      FirstFault token (.year (yearPart token))

theorem months_eq : months = monthNames.map fun name => Text.capitals (name.toList.take 3) := rfl

theorem monthNumber?_eq_some_iff_abbreviates {letters : Text} {n : Nat} :
    monthNumber? letters = some n ↔ Abbreviates letters n := by
  rw [monthNumber?_eq_some_iff, NamesMonth, months_eq, List.getElem?_map, Option.map_eq_some_iff]
  refine and_congr_right fun _ => exists_congr fun name => and_congr_right fun _ => ?_
  exact eq_comm

/-- A number of at most two digits is written with its tens and its ones. -/
theorem padded_two {n : Nat} (small : n ≤ 99) :
    Numeral.padded 2 n = [(n / 10).digitChar, (n % 10).digitChar] := by
  rw [Numeral.padded, Numeral.decimal]
  by_cases ones : n < 10
  · rw [Nat.toDigits_of_lt_base ones, Nat.div_eq_of_lt ones, Nat.mod_eq_of_lt ones]
    rfl
  · rw [Nat.toDigits_of_base_le (by decide) (by omega), Nat.toDigits_of_lt_base (by omega)]
    rfl

theorem isDigit_digitChar {n : Nat} (small : n < 10) : n.digitChar.isDigit = true := by
  rw [Char.isDigit_iff_toNat, Nat.toNat_digitChar_of_lt_ten small]
  show 48 ≤ 48 + n ∧ 48 + n ≤ 57
  omega

theorem digitChar_eq_iff {c : Char} {n : Nat} (small : n < 10) :
    n.digitChar = c ↔ c.toNat = 48 + n := by
  rw [← Char.toNat_inj, Nat.toNat_digitChar_of_lt_ten small, eq_comm]

/-- Two digits are read as the number that is written with them. -/
theorem twoDigits?_eq_some_iff {c d : Char} {n : Nat} :
    twoDigits? c d = some n ↔ n ≤ 99 ∧ Numeral.padded 2 n = [c, d] := by
  constructor
  · intro two
    obtain ⟨first, second⟩ := isDigit_of_twoDigits? two
    have worth : Numeral.value [c, d] = n := by simpa [twoDigits?, first, second] using two
    have small : n ≤ 99 := worth ▸ value_pair_le first second
    have tens : 48 ≤ c.toNat ∧ c.toNat ≤ 57 := Char.isDigit_iff_toNat.mp first
    have ones : 48 ≤ d.toNat ∧ d.toNat ≤ 57 := Char.isDigit_iff_toNat.mp second
    have sum : 10 * (c.toNat - 48) + (d.toNat - 48) = n := by
      simpa [Numeral.value, Nat.ofDigitChars] using worth
    refine ⟨small, ?_⟩
    rw [padded_two small, (digitChar_eq_iff (c := c) (by omega)).mpr (by omega),
      (digitChar_eq_iff (c := d) (by omega)).mpr (by omega)]
  · rintro ⟨small, written⟩
    have worth := Numeral.value_padded 2 n
    rw [written] at worth
    rw [padded_two small] at written
    cases written
    rw [twoDigits?, if_pos ⟨isDigit_digitChar (by omega), isDigit_digitChar (by omega)⟩, worth]

theorem exists_twoDigits?_iff {c d : Char} :
    (∃ n, twoDigits? c d = some n) ↔ IsTwoDigits [c, d] := by
  constructor
  · rintro ⟨n, two⟩
    obtain ⟨first, second⟩ := isDigit_of_twoDigits? two
    exact ⟨c, d, rfl, first, second⟩
  · rintro ⟨_, _, same, first, second⟩
    cases same
    exact ⟨_, if_pos ⟨first, second⟩⟩

theorem twoDigits?_eq_none_iff {c d : Char} :
    twoDigits? c d = none ↔ ¬ IsTwoDigits [c, d] := by
  rw [← exists_twoDigits?_iff, not_exists, Option.eq_none_iff_forall_ne_some]

theorem monthNumber?_eq_none_iff_abbreviates {letters : Text} :
    monthNumber? letters = none ↔ ∀ n, ¬ Abbreviates letters n := by
  rw [Option.eq_none_iff_forall_ne_some]
  exact forall_congr' fun n => not_congr monthNumber?_eq_some_iff_abbreviates

/-- A token has the right size exactly when its seven characters are taken apart. -/
theorem isCompact_iff {token : Text} : IsCompact token ↔
    ∃ d₁ d₂ m₁ m₂ m₃ y₁ y₂, token = [d₁, d₂, m₁, m₂, m₃, y₁, y₂] ∧
      token.all Letter.isAscii = true := by
  rw [IsCompact, List.all_eq_true]
  constructor
  · rintro ⟨bytes, ascii⟩
    rw [Text.byteCount_of_ascii ascii] at bytes
    match token, bytes with
    | [d₁, d₂, m₁, m₂, m₃, y₁, y₂], _ => exact ⟨d₁, d₂, m₁, m₂, m₃, y₁, y₂, rfl, ascii⟩
  · rintro ⟨d₁, d₂, m₁, m₂, m₃, y₁, y₂, rfl, ascii⟩
    exact ⟨Text.byteCount_of_ascii ascii, ascii⟩

theorem read_of_isSpelling {code : BirthCode} {token : Text} (spelling : IsSpelling code token) :
    read token = .ok code := by
  obtain ⟨day, century, letters, named, rfl⟩ := spelling
  have month := monthNumber?_eq_some_iff_abbreviates.mpr named
  have known := mem_months_of_monthNumber? month
  have three : letters.length = 3 := by
    have lengths : ∀ word ∈ months, word.length = 3 := by decide
    simpa using lengths _ known
  have native : letters.all Letter.isAscii = true := by
    have letterwise : ∀ word ∈ months, word.all Letter.isAscii = true := by decide
    rw [← Text.all_isAscii_capitals]
    exact letterwise _ known
  have digits : ∀ {n}, n < 10 → Letter.isAscii n.digitChar = true :=
    fun small => Letter.isAscii_of_isDigit (isDigit_digitChar small)
  obtain ⟨m₁, m₂, m₃, rfl⟩ := List.length_eq_three.mp three
  refine read_eq_ok_iff.mpr ⟨_, _, m₁, m₂, m₃, _, _, ?_, ?_,
    twoDigits?_eq_some_iff.mpr ⟨day, padded_two day⟩, month,
    twoDigits?_eq_some_iff.mpr ⟨century, padded_two century⟩⟩
  · rw [padded_two day, padded_two century]
    rfl
  · rw [List.all_append, List.all_append, native, padded_two day, padded_two century]
    simp only [List.all_cons, List.all_nil, Bool.and_true, Bool.true_and, Bool.and_eq_true]
    exact ⟨⟨digits (by omega), digits (by omega)⟩, digits (by omega), digits (by omega)⟩

/-- The first thing that is wrong with a token is what reading it reports. -/
theorem read_of_firstFault {token : Text} {fault : Fault} (wrong : FirstFault token fault) :
    read token = .error fault := by
  cases wrong with
  | shape unfit =>
    have loose : ¬ IsCompact token := by
      rintro ⟨bytes, ascii⟩
      rcases unfit with size | ⟨c, member, foreign⟩
      · exact size bytes
      · rw [ascii c member] at foreign
        cases foreign
    unfold read
    split
    · exact if_neg fun ascii => loose (isCompact_iff.mpr ⟨_, _, _, _, _, _, _, rfl, ascii⟩)
    · rfl
  | day compact noDay =>
    obtain ⟨d₁, d₂, m₁, m₂, m₃, y₁, y₂, rfl, ascii⟩ := isCompact_iff.mp compact
    have day : twoDigits? d₁ d₂ = none := twoDigits?_eq_none_iff.mpr noDay
    simp [read, ascii, day, dayPart]
  | month compact isDay noMonth =>
    obtain ⟨d₁, d₂, m₁, m₂, m₃, y₁, y₂, rfl, ascii⟩ := isCompact_iff.mp compact
    obtain ⟨_, day⟩ := exists_twoDigits?_iff.mpr isDay
    have month : monthNumber? [m₁, m₂, m₃] = none :=
      monthNumber?_eq_none_iff_abbreviates.mpr noMonth
    simp [read, ascii, day, month, monthPart]
  | year compact isDay named noYear =>
    obtain ⟨d₁, d₂, m₁, m₂, m₃, y₁, y₂, rfl, ascii⟩ := isCompact_iff.mp compact
    obtain ⟨_, day⟩ := exists_twoDigits?_iff.mpr isDay
    have month : monthNumber? [m₁, m₂, m₃] = some _ :=
      monthNumber?_eq_some_iff_abbreviates.mpr named
    have year : twoDigits? y₁ y₂ = none := twoDigits?_eq_none_iff.mpr noYear
    simp [read, ascii, day, month, year, yearPart]

/-- Every token is the spelling of a code or has a fault. -/
theorem isSpelling_or_firstFault (token : Text) :
    (∃ code, IsSpelling code token) ∨ ∃ fault, FirstFault token fault := by
  by_cases compact : IsCompact token
  · obtain ⟨d₁, d₂, m₁, m₂, m₃, y₁, y₂, rfl, _⟩ := isCompact_iff.mp compact
    by_cases isDay : IsTwoDigits [d₁, d₂]
    · by_cases named : ∃ n, Abbreviates [m₁, m₂, m₃] n
      · obtain ⟨month, named⟩ := named
        by_cases isYear : IsTwoDigits [y₁, y₂]
        · obtain ⟨day, first⟩ := exists_twoDigits?_iff.mpr isDay
          obtain ⟨century, last⟩ := exists_twoDigits?_iff.mpr isYear
          obtain ⟨daySmall, dayWritten⟩ := twoDigits?_eq_some_iff.mp first
          obtain ⟨yearSmall, yearWritten⟩ := twoDigits?_eq_some_iff.mp last
          refine Or.inl ⟨⟨day, month, century⟩, daySmall, yearSmall, [m₁, m₂, m₃], named, ?_⟩
          rw [dayWritten, yearWritten]
          rfl
        · exact Or.inr ⟨_, .year compact isDay named isYear⟩
      · exact Or.inr ⟨_, .month compact isDay (not_exists.mp named)⟩
    · exact Or.inr ⟨_, .day compact isDay⟩
  · refine Or.inr ⟨_, .shape ?_⟩
    rw [IsCompact, not_and_or, not_forall] at compact
    refine compact.imp_right fun ⟨c, foreign⟩ => ?_
    rw [Classical.not_imp, Bool.not_eq_true] at foreign
    exact ⟨c, foreign⟩

theorem read_eq_ok_iff_isSpelling {token : Text} {code : BirthCode} :
    read token = .ok code ↔ IsSpelling code token := by
  refine ⟨fun success => ?_, read_of_isSpelling⟩
  rcases isSpelling_or_firstFault token with ⟨code', spelling⟩ | ⟨fault, wrong⟩
  · cases success.symm.trans (read_of_isSpelling spelling)
    exact spelling
  · cases success.symm.trans (read_of_firstFault wrong)

theorem read_eq_error_iff_firstFault {token : Text} {fault : Fault} :
    read token = .error fault ↔ FirstFault token fault := by
  refine ⟨fun failed => ?_, read_of_firstFault⟩
  rcases isSpelling_or_firstFault token with ⟨code, spelling⟩ | ⟨fault', wrong⟩
  · cases failed.symm.trans (read_of_isSpelling spelling)
  · cases failed.symm.trans (read_of_firstFault wrong)
    exact wrong

/-- In capitals a spelling is what the code is written as. -/
theorem IsSpelling.write_eq {code : BirthCode} {token : Text} (spelling : IsSpelling code token) :
    code.write = token.capitals := by
  obtain ⟨day, century, letters, ⟨_, name, known, same⟩, rfl⟩ := spelling
  have digits : ∀ {n}, n ≤ 99 → (Numeral.padded 2 n).capitals = Numeral.padded 2 n := by
    intro n small
    have tens : n / 10 < 10 := by omega
    have ones : n % 10 < 10 := by omega
    refine Text.capitals_of_digits ?_
    rw [padded_two small]
    simp [isDigit_digitChar tens, isDigit_digitChar ones]
  have month : months.getD (code.month - 1) [] = letters.capitals := by
    rw [List.getD_eq_getElem?_getD, months_eq, List.getElem?_map, known, same]
    rfl
  rw [write, month, Text.capitals_append, Text.capitals_append, digits day, digits century,
    List.append_assoc]

/-- Behind its first two and its next three bytes a compact token has places to cut. -/
theorem IsCompact.cutsAt {token : Text} (compact : IsCompact token) :
    token.CutsAt 2 (dayPart token) (monthPart token ++ yearPart token) ∧
      Text.CutsAt (monthPart token ++ yearPart token) 3 (monthPart token) (yearPart token) := by
  obtain ⟨d₁, d₂, m₁, m₂, m₃, y₁, y₂, rfl, _⟩ := isCompact_iff.mp compact
  have ascii := compact.2
  simp only [List.forall_mem_cons] at ascii
  obtain ⟨a₁, a₂, a₃, a₄, a₅, _⟩ := ascii
  refine ⟨⟨rfl, Text.byteCount_of_ascii ?_⟩, rfl, Text.byteCount_of_ascii ?_⟩
  · simp [dayPart, a₁, a₂]
  · simp [monthPart, a₃, a₄, a₅]

/-- The tokens that are read are the spellings of codes, each as the code that it spells, and in
capitals such a token is what the code is written as. Every other token is refused for the first
thing that is wrong with it. Where a token is cut, there is a place to cut it. -/
theorem read_exact (token : Text) :
    (∀ code, read token = .ok code ↔ IsSpelling code token) ∧
      (∀ code, read token = .ok code → code.write = token.capitals) ∧
      (∀ fault, read token = .error fault ↔ FirstFault token fault) ∧
      (IsCompact token → token.CutsAt 2 (dayPart token) (monthPart token ++ yearPart token) ∧
        Text.CutsAt (monthPart token ++ yearPart token) 3 (monthPart token) (yearPart token)) := by
  refine ⟨fun code => read_eq_ok_iff_isSpelling, fun code success => ?_,
    fun fault => read_eq_error_iff_firstFault, IsCompact.cutsAt⟩
  exact (read_eq_ok_iff_isSpelling.mp success).write_eq

/-- A sign is no digit, and the day is looked at before the month. -/
example : read "+1XXX99".toList = .error (.day ['+', '1']) := by decide +kernel

end Shorthand.BirthCode
