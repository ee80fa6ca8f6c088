import Shorthand.Entry.Rule
import Shorthand.Proofs.Calendar.DateReading
import Shorthand.Proofs.Calendar.ShownDate

/-! Departure dates as they are given and as failures show them. The texts that are read are
blank or name a date between blanks, and any other text is refused for the first thing that is
wrong with it. What a failure shows of a departure can be given again. -/
namespace Shorthand.Context

theorem readDeparture_of_trimmed {value : Text} (nonempty : value.trim ≠ []) :
    readDeparture value = (Iso.read value.trim).map some := if_neg nonempty

/-- A blank text gives no departure, and a text that names a date between blanks gives that
date. Any other text is refused for the first thing that is wrong with it. -/
theorem readDeparture_exact (value : Text) :
    (readDeparture value = .ok none ↔ value.trim = []) ∧
      (∀ d, readDeparture value = .ok (some d) ↔ Iso.Names value.trim d) ∧
      ∀ fault, readDeparture value = .error fault ↔
        value.trim ≠ [] ∧ Iso.FirstFault value.trim fault := by
  by_cases empty : value.trim = []
  · have read : readDeparture value = .ok none := if_pos empty
    exact ⟨iff_of_true read empty,
      fun d => iff_of_false (by simp [read]) fun names => names.ne_nil empty,
      fun fault => iff_of_false (by simp [read]) fun refused => refused.1 empty⟩
  · have solid := (Text.trimmed_trim value).1
    rw [readDeparture_of_trimmed empty]
    refine ⟨iff_of_false ?_ empty, fun d => ?_, fun fault => ?_⟩
    · cases Iso.read value.trim <;> simp [Except.map]
    · rw [Iso.names_iff_reads solid, ← Iso.read_eq_ok_iff]
      cases Iso.read value.trim <;> simp [Except.map]
    · rw [← Iso.read_eq_error_iff, and_iff_right empty]
      cases Iso.read value.trim <;> simp [Except.map]

/-- The number of the month is out of range as soon as it is read, though no day follows. -/
example : readDeparture "\t2024-13".toList = .error .outOfRange := by decide +kernel

/-- A text that names a date is read as that date, whatever blanks stand around it. -/
theorem readDeparture_of_names {t before after : Text} {d : Date} (names : Iso.Names t d)
    (blankBefore : before.blank = true) (blankAfter : after.blank = true) :
    readDeparture (before ++ t ++ after) = .ok (some d) := by
  have trimmed := Text.trim_surrounded blankBefore blankAfter names.trimmed
  have nonempty : (before ++ t ++ after).trim ≠ [] := by
    rw [trimmed]
    exact names.ne_nil
  have read := Iso.read_eq_ok_iff.mpr ((Iso.names_iff_reads names.trimmed.1).mp names)
  rw [readDeparture_of_trimmed nonempty, trimmed, read]
  rfl

/-- The departure that a failure shows is a date in its usual form, and it is read again as the
same date with any blanks around it. -/
theorem readDeparture_shown (d : Date) {before after : Text} (blankBefore : before.blank = true)
    (blankAfter : after.blank = true) :
    readDeparture (before ++ Iso.write d ++ after) = .ok (some d) ∧ Iso.Shows (Iso.write d) d ∧
      ∀ rule matched token cause, ∃ front,
        (Failure.unresolvableAge rule matched token d cause).message =
          front ++ ", Dep: ".toList ++ Iso.write d ++ "): ".toList ++ cause.message := by
  have shows := Iso.shows_write d
  refine ⟨readDeparture_of_names shows.names blankBefore blankAfter, shows, ?_⟩
  intro rule matched token cause
  obtain ⟨front, message⟩ := Failure.exists_message_unresolvableAge rule matched token cause
  exact ⟨front, message d⟩

/-- The last day before the year zero, between blanks of several kinds. -/
theorem readDeparture_shown_before_zero :
    Text.blank "\u3000\n".toList = true ∧ Text.blank "\u0085".toList = true ∧
      Iso.write ⟨-1, 12, 31, by decide⟩ = "-0001-12-31".toList ∧
        readDeparture "\u3000\n-0001-12-31\u0085".toList = .ok (some ⟨-1, 12, 31, by decide⟩) := by
  have written : Iso.write ⟨-1, 12, 31, by decide⟩ = "-0001-12-31".toList := by decide +kernel
  have text : "\u3000\n".toList ++ "-0001-12-31".toList ++ "\u0085".toList =
      "\u3000\n-0001-12-31\u0085".toList := by decide +kernel
  have read := (@readDeparture_shown ⟨-1, 12, 31, by decide⟩ "\u3000\n".toList "\u0085".toList
    (by decide) (by decide)).1
  rw [written, text] at read
  exact ⟨by decide, by decide, written, read⟩

end Shorthand.Context
