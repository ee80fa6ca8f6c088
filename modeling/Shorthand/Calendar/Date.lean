import Shorthand.Text.Basic

/-! Calendar dates. A date carries the proof that it exists in the Gregorian
calendar, extended to all years in both directions, within the years the library
can hold. Year zero is the year before year one. -/
namespace Shorthand

def isLeapYear (year : Int) : Bool := year % 4 == 0 && (year % 100 != 0 || year % 400 == 0)

/-- The number of days of a month; a number outside 1 to 12 names no month and
has none. -/
def daysInMonth (year : Int) : Nat → Nat
  | 2 => if isLeapYear year then 29 else 28
  | 4 | 6 | 9 | 11 => 30
  | 1 | 3 | 5 | 7 | 8 | 10 | 12 => 31
  | _ => 0

/-- A year, month and day that name a date. -/
def IsDate (year : Int) (month day : Nat) : Prop :=
  -262143 ≤ year ∧ year ≤ 262142 ∧ 1 ≤ day ∧ day ≤ daysInMonth year month

instance (year : Int) (month day : Nat) : Decidable (IsDate year month day) :=
  inferInstanceAs (Decidable (_ ∧ _ ∧ _ ∧ _))

structure Date where
  year : Int
  month : Nat
  day : Nat
  valid : IsDate year month day
  deriving DecidableEq

namespace Date

/-- The date with this year, month and day, if there is one. -/
def ofYmd? (year : Int) (month day : Nat) : Option Date :=
  if valid : IsDate year month day then some ⟨year, month, day, valid⟩ else none

/-- Whether the day of the year that `d` names comes before that of `e`, months
first. -/
def EarlierInYear (d e : Date) : Prop :=
  d.month < e.month ∨ (d.month = e.month ∧ d.day < e.day)

instance (d e : Date) : Decidable (EarlierInYear d e) :=
  inferInstanceAs (Decidable (_ ∨ (_ ∧ _)))

/-- Years are counted from one date to another and are completed on the day of
the year on which they began; they are negative from a later date to an earlier. -/
def completedYears (start stop : Date) : Int :=
  if EarlierInYear stop start then stop.year - start.year - 1 else stop.year - start.year

theorem ofYmd?_eq_some_iff {year : Int} {month day : Nat} {d : Date} :
    ofYmd? year month day = some d ↔ d.year = year ∧ d.month = month ∧ d.day = day := by
  unfold ofYmd?
  constructor
  · intro made
    split at made
    · cases made
      exact ⟨rfl, rfl, rfl⟩
    · cases made
  · rintro ⟨rfl, rfl, rfl⟩
    simp [d.valid]

theorem ofYmd?_eq_none_iff {year : Int} {month day : Nat} :
    ofYmd? year month day = none ↔ ¬ IsDate year month day := by
  simp [ofYmd?]

theorem month_bounds (d : Date) : 1 ≤ d.month ∧ d.month ≤ 12 := by
  obtain ⟨year, month, day, _, _, first, last⟩ := d
  show 1 ≤ month ∧ month ≤ 12
  unfold daysInMonth at last
  split at last <;> omega

theorem daysInMonth_le (year : Int) (month : Nat) : daysInMonth year month ≤ 31 := by
  unfold daysInMonth
  split
  · split <;> omega
  all_goals omega

theorem day_bounds (d : Date) : 1 ≤ d.day ∧ d.day ≤ 31 :=
  ⟨d.valid.2.2.1, Nat.le_trans d.valid.2.2.2 (daysInMonth_le d.year d.month)⟩

end Date
end Shorthand
