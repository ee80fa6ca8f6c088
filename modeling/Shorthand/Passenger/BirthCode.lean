import Shorthand.Calendar.Date

/-! Birth codes spell a birth date in seven characters: a two-digit day, the first
three letters of the English name of the month, and the last two digits of the
year. Reading reports the leftmost component that is wrong; whether the date
exists in the calendar is not its concern. The century that a code leaves out is
settled by the current year: the birth year is the latest year with the given last
two digits that has begun. An age is the number of years completed on a reference
date. -/
namespace Shorthand

/-- The three numbers that a birth code spells. -/
structure BirthCode where
  day : Nat
  month : Nat
  yearOfCentury : Nat
  deriving DecidableEq

namespace BirthCode

/-- What is wrong with a birth code. -/
inductive Fault where
  /-- The token is not seven ASCII characters. -/
  | shape (token : Text)
  /-- The day is not two digits. -/
  | day (characters : Text)
  /-- The letters abbreviate no month. -/
  | month (characters : Text)
  /-- The year is not two digits. -/
  | year (characters : Text)
  /-- The components are numbers, but no such date exists in the birth year. -/
  | date (year : Int) (month day : Nat)
  deriving DecidableEq

def Fault.message : Fault → Text
  | .shape token => '\'' :: token ++ "' is not a DDMMMYY token".toList
  | .day characters => "invalid day '".toList ++ characters ++ ['\'']
  | .month characters => "unknown month '".toList ++ characters ++ ['\'']
  | .year characters => "invalid year '".toList ++ characters ++ ['\'']
  | .date y m d =>
    Numeral.signedPadded 4 y ++ '-' :: Numeral.padded 2 m ++ '-' :: Numeral.padded 2 d ++
      " is not a calendar date".toList

/-- The abbreviations of the months, January first. -/
def months : List Text :=
  [['J', 'A', 'N'], ['F', 'E', 'B'], ['M', 'A', 'R'], ['A', 'P', 'R'], ['M', 'A', 'Y'],
    ['J', 'U', 'N'], ['J', 'U', 'L'], ['A', 'U', 'G'], ['S', 'E', 'P'], ['O', 'C', 'T'],
    ['N', 'O', 'V'], ['D', 'E', 'C']]

/-- The number of the month with this abbreviation, in any case. -/
def monthNumber? (letters : Text) : Option Nat :=
  (months.idxOf? (letters.map Char.toUpper)).map (· + 1)

/-- What two digits are worth. -/
def twoDigits? (c d : Char) : Option Nat :=
  if c.isDigit ∧ d.isDigit then some (Numeral.value [c, d]) else none

/-- Reads the components from left to right; the first one that fails is the error. -/
def read (token : Text) : Except Fault BirthCode :=
  match token with
  | [d₁, d₂, m₁, m₂, m₃, y₁, y₂] =>
    if token.all Letter.isAscii then
      match twoDigits? d₁ d₂ with
      | none => .error (.day [d₁, d₂])
      | some day =>
        match monthNumber? [m₁, m₂, m₃] with
        | none => .error (.month [m₁, m₂, m₃])
        | some month =>
          match twoDigits? y₁ y₂ with
          | none => .error (.year [y₁, y₂])
          | some yearOfCentury => .ok ⟨day, month, yearOfCentury⟩
    else .error (.shape token)
  | _ => .error (.shape token)

/-- The code that spells these numbers, in capital letters. -/
def write (code : BirthCode) : Text :=
  Numeral.padded 2 code.day ++ months.getD (code.month - 1) [] ++
    Numeral.padded 2 code.yearOfCentury

/-- The birth year that the code stands for, seen from the current year. The year
of the century is a word of 32 bits, whose upper half stands for negative
numbers. -/
def birthYear (code : BirthCode) (currentYear : Int) : Int :=
  let year := Int.fdiv currentYear 100 * 100 + Int.bmod code.yearOfCentury 4294967296
  if year > currentYear then year - 100 else year

/-- The birth date, if the day exists in the birth year. -/
def birthDate (code : BirthCode) (currentYear : Int) : Except Fault Date :=
  let year := code.birthYear currentYear
  match Date.ofYmd? year code.month code.day with
  | some date => .ok date
  | none => .error (.date year code.month code.day)

/-- With two digits, the birth year lies in the hundred years up to the current
one, and its last two digits are those of the code. -/
theorem birthYear_bounds {code : BirthCode} {currentYear : Int}
    (twoDigits : code.yearOfCentury ≤ 99) :
    code.birthYear currentYear ≤ currentYear ∧ currentYear < code.birthYear currentYear + 100 ∧
      code.birthYear currentYear % 100 = code.yearOfCentury := by
  have word : Int.bmod code.yearOfCentury 4294967296 = code.yearOfCentury := by
    rw [Int.bmod_def]
    omega
  have floor : Int.fdiv currentYear 100 = currentYear / 100 :=
    Int.fdiv_eq_ediv_of_nonneg _ (by decide)
  simp only [birthYear, word, floor]
  split <;> omega

end BirthCode

/-- The age on a reference date of a passenger with this birth code, negative if
the passenger is not born by then. -/
def ageOn (token : Text) (reference : Date) (currentYear : Int) :
    Except BirthCode.Fault Int := do
  let code ← BirthCode.read token
  let birth ← code.birthDate currentYear
  return birth.completedYears reference

theorem BirthCode.ageOn_of_birthDate {token : Text} {code : BirthCode} {birth : Date}
    {currentYear : Int} (success : read token = .ok code)
    (born : code.birthDate currentYear = .ok birth) (reference : Date) :
    ageOn token reference currentYear = .ok (birth.completedYears reference) := by
  rw [ageOn, success]
  show (code.birthDate currentYear >>= fun birth => pure (birth.completedYears reference)) = _
  rw [born]
  rfl

end Shorthand
