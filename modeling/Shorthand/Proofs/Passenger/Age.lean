import Mathlib.Data.Int.ModEq
import Shorthand.Proofs.Calendar.Gregorian
import Shorthand.Proofs.Passenger.BirthFault

/-! Birth dates and ages. The two digits of a birth code leave one year open among the hundred
that end with the current one, and the code stands for a date exactly when that year has the
day. The age on a reference date is the one number of years that are completed by then; where
there is no birth date, no reference date gives an age. -/
namespace Shorthand

namespace BirthCode

theorem isInferred_iff_modEq {currentYear year : Int} {twoDigits : Nat} (small : twoDigits ≤ 99) :
    IsInferred currentYear twoDigits year ↔
      year ≤ currentYear ∧ currentYear < year + 100 ∧ year ≡ twoDigits [ZMOD 100] := by
  have own : (twoDigits : Int) % 100 = twoDigits := Int.emod_eq_of_lt (by omega) (by omega)
  rw [IsInferred, Int.ModEq, own]

theorem birthDate_eq_ok_iff {code : BirthCode} {currentYear : Int} {d : Date} :
    code.birthDate currentYear = .ok d ↔
      d.year = code.birthYear currentYear ∧ d.month = code.month ∧ d.day = code.day := by
  rw [← Date.ofYmd?_eq_some_iff, birthDate]
  cases Date.ofYmd? (code.birthYear currentYear) code.month code.day <;> simp

/-- The birth year is the one year with the last two digits of the code among the hundred years
that end with the current one. The birth date is that day of that year if the calendar has it,
and otherwise the day and the year are reported. -/
theorem birthDate_inferred {code : BirthCode} (currentYear : Int)
    (twoDigits : code.yearOfCentury ≤ 99) :
    ∃ year, code.birthYear currentYear = year ∧
      (∀ y, (y ≤ currentYear ∧ currentYear < y + 100 ∧ y ≡ code.yearOfCentury [ZMOD 100]) ↔
        y = year) ∧
      (∀ d, code.birthDate currentYear = .ok d ↔
        d.year = year ∧ d.month = code.month ∧ d.day = code.day) ∧
      ((∃ d, code.birthDate currentYear = .ok d) ↔ IsGregorian year code.month code.day) ∧
      ∀ cause, code.birthDate currentYear = .error cause ↔
        ¬ IsGregorian year code.month code.day ∧ cause = .date year code.month code.day := by
  refine ⟨code.birthYear currentYear, rfl, fun y => ?_, fun d => birthDate_eq_ok_iff, ?_,
    fun cause => ?_⟩
  · rw [← isInferred_iff_modEq twoDigits, ← birthYear_eq_iff twoDigits, eq_comm]
  · rw [← isDate_iff_isGregorian]
    constructor
    · rintro ⟨d, born⟩
      obtain ⟨year, month, day⟩ := birthDate_eq_ok_iff.mp born
      exact year ▸ month ▸ day ▸ d.valid
    · intro valid
      exact ⟨⟨_, _, _, valid⟩, birthDate_eq_ok_iff.mpr ⟨rfl, rfl, rfl⟩⟩
  · rw [birthDate_eq_error_iff, isDate_iff_isGregorian]

/-- Before the year zero the hundred years are counted downwards as well: seen from the year
-150 the digits 60 stand for -240, which is a leap year, and 00 stands for -200, which is none. -/
theorem birthDate_inferred_before_zero :
    (60 ≤ 99 ∧ birthDate ⟨29, 2, 60⟩ (-150) = .ok ⟨-240, 2, 29, by decide⟩) ∧
      0 ≤ 99 ∧ birthDate ⟨29, 2, 0⟩ (-150) = .error (.date (-200) 2 29) := by
  obtain ⟨year, _, latest, born, _⟩ := @birthDate_inferred ⟨29, 2, 60⟩ (-150) (by decide)
  obtain ⟨year', _, latest', _, _, absent⟩ := @birthDate_inferred ⟨29, 2, 0⟩ (-150) (by decide)
  obtain rfl : (-240) = year := (latest (-240)).mp (by decide)
  obtain rfl : (-200) = year' := (latest' (-200)).mp (by decide)
  have common : ¬ IsGregorian (-200) 2 29 := by
    rw [← isDate_iff_isGregorian]
    decide
  exact ⟨⟨by decide, (born _).mpr ⟨rfl, rfl, rfl⟩⟩, by decide, (absent _).mpr ⟨common, rfl⟩⟩

end BirthCode

/-- With a birth date the age is the one number of years whose anniversary the reference date
has reached while the next lies ahead. It never falls with a later reference date, and for a
birth on a leap day it rises on the first of March of a common year. Without a birth date the
reason is the same for every reference date. -/
theorem ageOn_counts (token : Text) (currentYear : Int) :
    (∀ code birth, BirthCode.read token = .ok code → code.birthDate currentYear = .ok birth →
      ∃ age : Date → Int, (∀ reference, ageOn token reference currentYear = .ok (age reference)) ∧
        (∀ reference n, birth.YearsCompleted reference n ↔ n = age reference) ∧
        (∀ reference later, reference.triple ≤ later.triple → age reference ≤ age later) ∧
        (birth.month = 2 ∧ birth.day = 29 → ∀ reference, ¬ IsLeap reference.year →
          (3 ≤ reference.month → age reference = reference.year - birth.year) ∧
          (reference.month < 3 → age reference = reference.year - birth.year - 1))) ∧
      ∀ cause, (BirthCode.read token = .error cause ∨ ∃ code, BirthCode.read token = .ok code ∧
        code.birthDate currentYear = .error cause) →
          ∀ reference, ageOn token reference currentYear = .error cause := by
  constructor
  · intro code birth success born
    refine ⟨birth.completedYears, BirthCode.ageOn_of_birthDate success born, ?_, ?_, ?_⟩
    · intro reference n
      rw [← Date.completedYears_eq_iff, eq_comm]
    · intro reference later order
      exact Date.completedYears_mono order
    · intro leapDay reference common
      exact Date.completedYears_of_leapDay leapDay common
  · intro cause reason reference
    exact BirthCode.ageOn_eq_error_iff.mpr reason

/-- A birth on a leap day, seen from both ends of the night into March of a common year and from
the day before the birth, and a day that no February has. -/
theorem ageOn_counts_leapDay :
    BirthCode.read "29fEb16".toList = .ok ⟨29, 2, 16⟩ ∧
      BirthCode.birthDate ⟨29, 2, 16⟩ 2026 = .ok ⟨2016, 2, 29, by decide⟩ ∧
      ageOn "29fEb16".toList ⟨2023, 2, 28, by decide⟩ 2026 = .ok 6 ∧
      ageOn "29fEb16".toList ⟨2023, 3, 1, by decide⟩ 2026 = .ok 7 ∧
      ageOn "29fEb16".toList ⟨2016, 2, 28, by decide⟩ 2026 = .ok (-1) ∧
      ∀ reference, ageOn "30FEB16".toList reference 2026 = .error (.date 2016 2 30) := by
  have success : BirthCode.read "29fEb16".toList = .ok ⟨29, 2, 16⟩ := by decide +kernel
  have born : BirthCode.birthDate ⟨29, 2, 16⟩ 2026 = .ok ⟨2016, 2, 29, by decide⟩ := by
    decide +kernel
  have success' : BirthCode.read "30FEB16".toList = .ok ⟨30, 2, 16⟩ := by decide +kernel
  have absent : BirthCode.birthDate ⟨30, 2, 16⟩ 2026 = .error (.date 2016 2 30) := by
    decide +kernel
  obtain ⟨age, ages, years, _, common⟩ :=
    (ageOn_counts "29fEb16".toList 2026).1 _ _ success born
  have unborn := (years ⟨2016, 2, 28, by decide⟩ (-1)).mp
    (Date.completedYears_eq_iff.mp (by decide))
  have year : ¬ IsLeap 2023 := by
    rw [← isLeapYear_eq_true_iff]
    decide
  have eve := (common ⟨rfl, rfl⟩ ⟨2023, 2, 28, by decide⟩ year).2 (by decide)
  have first := (common ⟨rfl, rfl⟩ ⟨2023, 3, 1, by decide⟩ year).1 (by decide)
  refine ⟨success, born, (ages _).trans (congrArg _ eve), (ages _).trans (congrArg _ first),
    (ages _).trans (congrArg _ unborn.symm), ?_⟩
  exact (ageOn_counts "30FEB16".toList 2026).2 _ (Or.inr ⟨_, success', absent⟩)

end Shorthand
