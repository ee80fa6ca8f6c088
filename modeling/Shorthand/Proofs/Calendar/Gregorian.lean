import Mathlib.Data.Prod.Lex
import Mathlib.Tactic.IntervalCases
import Mathlib.Tactic.SplitIfs
import Shorthand.Calendar.Date

/-! The Gregorian calendar by its rules, each of which leaves out days: four months have no
thirty-first, and February ends with the twenty-eighth, or with the twenty-ninth in a leap
year. The days of the months that the library counts are those that no rule leaves out. Completed
years are counted by anniversaries: year, month and day in lexicographic order. The anniversary of
a date need not be a date itself, so an anniversary is a triple of numbers, and a year that began
on a leap day is completed on the first of March of a common year. -/
namespace Shorthand

/-- Every fourth year is a leap year, except the years that begin a century, of which every
fourth is one. -/
def IsLeap (year : Int) : Prop := 4 ∣ year ∧ (100 ∣ year → 400 ∣ year)

/-- A date of the Gregorian calendar, extended to all years, within the years that a date can
have. -/
structure IsGregorian (year : Int) (month day : Nat) : Prop where
  year_bounds : -262143 ≤ year ∧ year ≤ 262142
  month_bounds : 1 ≤ month ∧ month ≤ 12
  day_bounds : 1 ≤ day ∧ day ≤ 31
  short : month ∈ [4, 6, 9, 11] → day ≤ 30
  february : month = 2 → day ≤ 28 ∨ (day = 29 ∧ IsLeap year)

theorem isLeapYear_eq_true_iff {year : Int} : isLeapYear year = true ↔ IsLeap year := by
  simp only [isLeapYear, IsLeap, Bool.and_eq_true, Bool.or_eq_true, beq_iff_eq, bne_iff_ne,
    Int.dvd_iff_emod_eq_zero]
  omega

/-- A day is one of those that a month counts exactly when no rule leaves it out. -/
theorem le_daysInMonth_iff {year : Int} {month day : Nat} (bounds : 1 ≤ month ∧ month ≤ 12) :
    day ≤ daysInMonth year month ↔ day ≤ 31 ∧ (month ∈ [4, 6, 9, 11] → day ≤ 30) ∧
      (month = 2 → day ≤ 28 ∨ (day = 29 ∧ IsLeap year)) := by
  by_cases february : month = 2
  · subst february
    rw [← isLeapYear_eq_true_iff]
    by_cases leap : isLeapYear year = true
    · simp [daysInMonth, leap]
      omega
    · simp [daysInMonth, leap]
      omega
  · obtain ⟨low, high⟩ := bounds
    interval_cases month <;> simp [daysInMonth] at february ⊢ <;> omega

theorem isDate_iff_isGregorian {year : Int} {month day : Nat} :
    IsDate year month day ↔ IsGregorian year month day := by
  constructor
  · intro isDate
    have month := (⟨year, month, day, isDate⟩ : Date).month_bounds
    obtain ⟨low, high, first, last⟩ := isDate
    obtain ⟨most, short, february⟩ := (le_daysInMonth_iff month).mp last
    exact ⟨⟨low, high⟩, month, ⟨first, most⟩, short, february⟩
  · rintro ⟨⟨low, high⟩, month, ⟨first, most⟩, short, february⟩
    exact ⟨low, high, first, (le_daysInMonth_iff month).mpr ⟨most, short, february⟩⟩

namespace Date

/-- The year, month and day of a date, ordered lexicographically. -/
def triple (d : Date) : Int ×ₗ Nat ×ₗ Nat := toLex (d.year, toLex (d.month, d.day))

/-- The month and day of a date in the year that lies `n` years after it. -/
def anniversary (d : Date) (n : Int) : Int ×ₗ Nat ×ₗ Nat :=
  toLex (d.year + n, toLex (d.month, d.day))

/-- The reference date lies in the year after the anniversary numbered `n`. -/
def YearsCompleted (start reference : Date) (n : Int) : Prop :=
  start.anniversary n ≤ reference.triple ∧ reference.triple < start.anniversary (n + 1)

/-- The completed years are the one number of years that the reference date has
reached while the next anniversary still lies ahead. -/
theorem completedYears_eq_iff {start reference : Date} {n : Int} :
    start.completedYears reference = n ↔ YearsCompleted start reference n := by
  simp only [YearsCompleted, anniversary, triple, Prod.Lex.toLex_le_toLex, Prod.Lex.toLex_lt_toLex]
  unfold completedYears EarlierInYear
  split_ifs <;> omega

/-- Anniversaries follow each other in the order of their numbers. -/
theorem anniversary_lt_iff {start : Date} {m n : Int} :
    start.anniversary m < start.anniversary n ↔ m < n := by
  simp only [anniversary, Prod.Lex.toLex_lt_toLex]
  omega

/-- A later reference date has completed no fewer years. -/
theorem completedYears_mono {start reference later : Date}
    (order : reference.triple ≤ later.triple) :
    start.completedYears reference ≤ start.completedYears later := by
  obtain ⟨reached, _⟩ := completedYears_eq_iff.mp (Eq.refl (start.completedYears reference))
  obtain ⟨_, ahead⟩ := completedYears_eq_iff.mp (Eq.refl (start.completedYears later))
  have next := anniversary_lt_iff.mp ((reached.trans order).trans_lt ahead)
  omega

/-- A year that began on a leap day is completed in a common year when February is over. -/
theorem completedYears_of_leapDay {start reference : Date}
    (leapDay : start.month = 2 ∧ start.day = 29) (common : ¬ IsLeap reference.year) :
    (3 ≤ reference.month → start.completedYears reference = reference.year - start.year) ∧
      (reference.month < 3 →
        start.completedYears reference = reference.year - start.year - 1) := by
  constructor
  · intro march
    have reached : ¬ EarlierInYear reference start := by
      rintro (month | ⟨month, _⟩) <;> omega
    rw [completedYears, if_neg reached]
  · intro february
    have ahead : EarlierInYear reference start := by
      by_cases same : reference.month = 2
      · rcases (isDate_iff_isGregorian.mp reference.valid).february same with day | ⟨_, leap⟩
        · exact Or.inr ⟨by omega, by omega⟩
        · exact absurd leap common
      · exact Or.inl (by omega)
    rw [completedYears, if_pos ahead]

end Date
end Shorthand
