import Shorthand.Proofs.Calendar.DateText

/-! Dates as they are shown. The month and the day have two digits; the year has four, or a
sign and at least four when it lies outside 0 to 9999. Such a text is one of those that name
the date: in each of the three forms of the year the digits are within what may be read, and
the sign of a year cannot be taken for the hyphen behind it. -/
namespace Shorthand.Iso

/-- Four digits for the years 0 to 9999, and a sign and at least four digits for all others. -/
def ShowsYear (t : Text) (year : Int) : Prop :=
  if 0 ≤ year ∧ year ≤ 9999 then IsRun t year.toNat ∧ t.length = 4
  else ∃ digits, t = (if year < 0 then '-' else '+') :: digits ∧ IsRun digits year.natAbs ∧
    4 ≤ digits.length

/-- The year, the month and the day of a date with hyphens between them, the month and the day
in two digits. -/
def Shows (t : Text) (d : Date) : Prop :=
  ∃ year month day, t = year ++ '-' :: (month ++ '-' :: day) ∧ ShowsYear year d.year ∧
    (IsRun month d.month ∧ month.length = 2) ∧ IsRun day d.day ∧ day.length = 2

theorem isRun_padded (width n : Nat) : IsRun (Numeral.padded width n) n := by
  refine ⟨?_, ?_, Numeral.value_padded width n⟩
  · exact List.append_ne_nil_of_right_ne_nil _ Nat.toDigits_ne_nil
  · intro c member
    rcases List.mem_append.mp member with zero | digit
    · rw [List.eq_of_mem_replicate zero]
      rfl
    · exact Nat.isDigit_of_mem_toDigits (by decide) (by decide) digit

theorem length_padded (width n : Nat) :
    (Numeral.padded width n).length = max width (Numeral.decimal n).length :=
  List.length_leftpad

/-- A number of at most two digits is filled up to two. -/
theorem length_padded_two {n : Nat} (small : n ≤ 99) : (Numeral.padded 2 n).length = 2 := by
  have short : (Numeral.decimal n).length ≤ 2 :=
    (Nat.length_toDigits_le_iff (by decide) (by decide)).mpr (by omega)
  rw [length_padded, Nat.max_eq_left short]

theorem showsYear_writeYear (year : Int) : ShowsYear (writeYear year) year := by
  unfold ShowsYear writeYear
  split
  · next plain =>
    have short : (Numeral.decimal year.toNat).length ≤ 4 :=
      (Nat.length_toDigits_le_iff (by decide) (by decide)).mpr (by omega)
    refine ⟨isRun_padded 4 _, ?_⟩
    rw [length_padded, Nat.max_eq_left short]
  · refine ⟨_, rfl, isRun_padded 4 _, ?_⟩
    rw [length_padded]
    exact Nat.le_max_left ..

theorem shows_write (d : Date) : Shows (write d) d := by
  have month := d.month_bounds
  have day := d.day_bounds
  exact ⟨_, _, _, List.append_assoc .., showsYear_writeYear d.year,
    ⟨isRun_padded 2 _, length_padded_two (by omega)⟩,
    isRun_padded 2 _, length_padded_two (by omega)⟩

theorem ShowsYear.isYear {t : Text} {year : Int} (shows : ShowsYear t year) : IsYear t year := by
  unfold ShowsYear at shows
  split at shows
  · next plain => exact Or.inl ⟨_, shows.1, by omega, by omega⟩
  · next signed =>
    obtain ⟨digits, rfl, run, _⟩ := shows
    refine Or.inr ⟨digits, _, run, ?_⟩
    split
    · exact Or.inr ⟨rfl, by omega⟩
    · exact Or.inl ⟨rfl, by omega⟩

/-- What is shown of a date names it. -/
theorem Shows.names {t : Text} {d : Date} (shows : Shows t d) : Names t d := by
  obtain ⟨year, month, day, rfl, showsYear, ⟨runMonth, twoMonth⟩, runDay, twoDay⟩ := shows
  exact ⟨year, [], month, [], day, rfl, showsYear.isYear, rfl, ⟨runMonth, by omega⟩, rfl,
    runDay, by omega⟩

theorem IsRun.solid {t : Text} {n : Nat} (run : IsRun t n) : ∀ c ∈ t, Text.isBlank c = false :=
  fun c member => Letter.isBlank_of_isDigit (run.2.1 c member)

theorem IsYear.solidStart {t : Text} {year : Int} (isYear : IsYear t year) (rest : Text) :
    Text.SolidStart (t ++ rest) := by
  rcases isYear with ⟨n, run, _, _⟩ | ⟨digits, n, _, ⟨rfl, _⟩ | ⟨rfl, _⟩⟩
  · exact (Text.solidStart_append run.1).mpr fun c head => run.solid c (List.mem_of_mem_head? head)
  · exact Text.solidStart_cons.mpr rfl
  · exact Text.solidStart_cons.mpr rfl

theorem Names.ne_nil {t : Text} {d : Date} (names : Names t d) : t ≠ [] := by
  obtain ⟨year, _, _, _, _, rfl, _⟩ := names
  exact List.append_ne_nil_of_right_ne_nil _ (List.cons_ne_nil _ _)

/-- No blank stands around a text that names a date. -/
theorem Names.trimmed {t : Text} {d : Date} (names : Names t d) : Text.Trimmed t := by
  obtain ⟨year, gap, month, gap', day, rfl, isYear, _, _, _, run, _⟩ := names
  refine ⟨isYear.solidStart _, ?_⟩
  have whole : year ++ '-' :: (gap ++ (month ++ '-' :: (gap' ++ day))) =
      (year ++ '-' :: (gap ++ (month ++ '-' :: gap'))) ++ day := by simp
  rw [whole, Text.solidEnd_append run.1]
  exact fun c last => run.solid c (List.mem_of_getLast? last)

end Shorthand.Iso
