import Shorthand.Proofs.Entry.FirstMatch
import Shorthand.Proofs.Passenger.BirthToken
import Shorthand.Proofs.Text.Parts

/-! Infant records. The name ends before the first mark on its line, which is a slash with a
birth code and a bracket behind it. No slash stands in a mark behind its first character, so a
mark that begins inside the name is over inside the name, and a name without a whole mark is
found whole, whatever slashes and dates stand in it. What follows the mark is not looked at. -/
namespace Shorthand.Rule

/-- The pieces of the infant pattern behind the name. -/
def infantMark : Pattern := [.word "/", .birthCode, .word ")"]

/-- A whole mark stands somewhere in the text. -/
def HoldsInfantMark (t : Text) : Prop :=
  ∃ code, BirthCode.IsToken code ∧ '/' :: (code ++ [')']) <:+: t

/-- A name behind an opening, and the first mark behind the name. -/
structure IsInfantRecord (line opener name code rest : Text) : Prop where
  whole : line = opener ++ (name ++ '/' :: (code ++ ')' :: rest))
  opens : Text.Spells "(INF".toList opener
  inline : '\n' ∉ name
  token : BirthCode.IsToken code
  unmarked : ¬ HoldsInfantMark name

theorem match?_infantMark_iff {t : Text} {found : Match} : infantMark.match? t = some found ↔
    ∃ code rest, t = '/' :: (code ++ ')' :: rest) ∧ BirthCode.IsToken code ∧
      found = ⟨[['/'], code, [')']], rest⟩ := by
  have slash : ∀ {t : Text}, Text.Spells "/".toList t ↔ t = ['/'] :=
    Text.spells_singleton_iff rfl
  rw [infantMark, Pattern.match?_word_iff rfl]
  constructor
  · rintro ⟨front, _, _, rfl, slashes, coded, rfl⟩
    obtain ⟨code, rest, rfl, token, rfl⟩ := BirthCode.match?_closed_iff.mp coded
    obtain rfl := slash.mp slashes
    exact ⟨code, rest, rfl, token, rfl⟩
  · rintro ⟨code, rest, rfl, token, rfl⟩
    exact ⟨['/'], _, _, rfl, slash.mpr rfl,
      BirthCode.match?_closed_iff.mpr ⟨code, rest, rfl, token, rfl⟩, rfl⟩

/-- Neither a birth code nor the bracket behind it holds a slash. -/
theorem slash_not_mem {code : Text} (token : BirthCode.IsToken code) : '/' ∉ code ++ [')'] := by
  intro member
  rcases List.mem_append.mp member with inCode | closes
  · rcases token.digit_or_letter inCode with digit | ⟨_, alpha | foreign⟩
    · cases digit
    · cases alpha
    · rcases foreign with same | same <;> cases same
  · cases List.mem_singleton.mp closes

/-- A mark that begins before a slash is over before it. -/
theorem holdsInfantMark_iff {name tail : Text} : HoldsInfantMark name ↔
    ∃ front code back, name ++ '/' :: tail = front ++ '/' :: (code ++ ')' :: back) ∧
      BirthCode.IsToken code ∧ front.length < name.length := by
  constructor
  · rintro ⟨code, token, front, back, rfl⟩
    refine ⟨front, code, back ++ '/' :: tail, by simp, token, ?_⟩
    simp only [List.length_append, List.length_cons]
    omega
  · rintro ⟨front, code, back, same, token, earlier⟩
    rcases List.append_eq_append_iff.mp same with ⟨middle, rfl, _⟩ | ⟨middle, rfl, later⟩
    · rw [List.length_append] at earlier
      omega
    cases middle with
    | nil => simp at earlier
    | cons c middle =>
      rw [List.cons_append, List.cons.injEq] at later
      obtain ⟨rfl, later⟩ := later
      have starts : code ++ [')'] <+: middle ++ '/' :: tail := ⟨back, by simpa using later⟩
      obtain ⟨after, rfl⟩ := Text.prefix_before starts (slash_not_mem token)
      exact ⟨code, token, front, after, by simp⟩

/-- A name holds no mark exactly when the first one does not begin before the name ends. -/
theorem not_holdsInfantMark_iff {name tail : Text} : ¬ HoldsInfantMark name ↔
    ∀ front code back, name ++ '/' :: tail = front ++ '/' :: (code ++ ')' :: back) →
      BirthCode.IsToken code → name.length ≤ front.length := by
  rw [@holdsInfantMark_iff name tail]
  simp only [not_exists, not_and, Nat.not_lt]

/-- The infant pattern finds exactly the names with a mark behind them, and their first mark. -/
theorem match?_infant_iff {line : Text} {found : Match} :
    infant.pattern.match? line = some found ↔ ∃ opener name code rest,
      IsInfantRecord line opener name code rest ∧
        found = ⟨[opener, name, ['/'], code, [')']], rest⟩ := by
  show Pattern.match? (.word "(INF" :: .shortest :: infantMark) line = some found ↔ _
  rw [Pattern.match?_word_iff rfl]
  constructor
  · rintro ⟨opener, _, _, rfl, opens, named, rfl⟩
    obtain ⟨name, _, _, rfl, inline, marked, first, rfl⟩ := Pattern.match?_shortest_iff.mp named
    obtain ⟨code, rest, rfl, token, rfl⟩ := match?_infantMark_iff.mp marked
    refine ⟨opener, name, code, rest, ⟨rfl, opens, inline, token, fun holds => ?_⟩, rfl⟩
    obtain ⟨front, code', back, same, token', earlier⟩ := holdsInfantMark_iff.mp holds
    have refused := first front _ same earlier
    rw [match?_infantMark_iff.mpr ⟨code', back, rfl, token', rfl⟩] at refused
    cases refused
  · rintro ⟨opener, name, code, rest, ⟨rfl, opens, inline, token, unmarked⟩, rfl⟩
    have marked := match?_infantMark_iff.mpr ⟨code, rest, rfl, token, rfl⟩
    refine ⟨opener, _, _, rfl, opens, Pattern.match?_shortest_iff.mpr
      ⟨name, _, _, rfl, inline, marked, fun front later same earlier => ?_, rfl⟩, rfl⟩
    rw [Option.eq_none_iff_forall_ne_some]
    intro found matched
    obtain ⟨code', back, rfl, token', _⟩ := match?_infantMark_iff.mp matched
    exact unmarked (holdsInfantMark_iff.mpr ⟨front, code', back, same, token', earlier⟩)

/-- The infant rule decides about every infant record, as it stands first in the table. -/
theorem IsInfantRecord.decides {line opener name code rest : Text}
    (isRecord : IsInfantRecord line opener name code rest) :
    Table.standard.Decides line infant ⟨[opener, name, ['/'], code, [')']], rest⟩ :=
  ⟨[], _, rfl, by simp, match?_infant_iff.mpr ⟨opener, name, code, rest, isRecord, rfl⟩⟩

/-- An infant is shown with its trimmed name and the last two characters of the code. -/
theorem outcome_infant (context : Context) (line opener name code rest : Text) :
    infant.outcome context line ⟨[opener, name, ['/'], code, [')']], rest⟩ =
      .translated "infant" ("-I/".toList ++ name.trim ++ "*I".toList ++
        code.drop (code.length - 2)) := rfl

instance (t : Text) : Decidable (HoldsInfantMark t) :=
  decidable_of_iff (∃ tail ∈ t.tails, (infantMark.match? tail).isSome = true) (by
    simp only [Option.isSome_iff_exists, match?_infantMark_iff, List.mem_tails]
    constructor
    · rintro ⟨_, suffix, _, code, rest, rfl, token, _⟩
      refine ⟨code, token, List.IsInfix.trans ⟨[], rest, ?_⟩ suffix.isInfix⟩
      simp
    · rintro ⟨code, token, front, back, rfl⟩
      exact ⟨'/' :: (code ++ ')' :: back), ⟨front, by simp⟩, _, code, back, rfl, token, rfl⟩)

end Shorthand.Rule

namespace Shorthand.Table

/-- An infant is shown by its name and the year of the first birth code that stands in a mark,
whatever follows the mark and whether or not the calendar has the date. The last two digits of
the code are its last two bytes. -/
theorem apply_infant_first {opener name stem : Text} {y₁ y₂ : Char}
    (opens : Text.Spells "(INF".toList opener) (inline : '\n' ∉ name)
    (token : BirthCode.IsToken (stem ++ [y₁, y₂]))
    (first : ∀ front code back,
      name ++ '/' :: (stem ++ [y₁, y₂] ++ [')']) = front ++ '/' :: (code ++ ')' :: back) →
        BirthCode.IsToken code → name.length ≤ front.length) (rest : Text) (context : Context) :
    Table.standard.apply context (opener ++ (name ++ '/' :: (stem ++ [y₁, y₂] ++ ')' :: rest))) =
        .translated "infant" ("-I/".toList ++ name.trim ++ "*I".toList ++ [y₁, y₂]) ∧
      Text.CutsAt (stem ++ [y₁, y₂]) ((stem ++ [y₁, y₂]).byteCount - 2) stem [y₁, y₂] := by
  have isRecord : Rule.IsInfantRecord _ opener name (stem ++ [y₁, y₂]) rest :=
    ⟨rfl, opens, inline, token, Rule.not_holdsInfantMark_iff.mpr first⟩
  have ends : (stem ++ [y₁, y₂]).drop ((stem ++ [y₁, y₂]).length - 2) = [y₁, y₂] := by simp
  have two : Text.byteCount [y₁, y₂] = 2 := by
    obtain ⟨tens, ones⟩ := token.isDigit_year
    exact Text.byteCount_of_ascii
      (by simp [Letter.isAscii_of_isDigit tens, Letter.isAscii_of_isDigit ones])
  constructor
  · rw [apply_of_decides context isRecord.decides, Rule.outcome_infant, ends]
  · rw [← two]
    exact Text.cutsAt_of_append stem [y₁, y₂]

/-- The name holds slashes, a date that lacks a digit and one that lacks a bracket. The code takes
ten bytes, and no calendar has its date. -/
theorem apply_infant_first_after_near_dates :
    BirthCode.IsToken "99X\u212A\u017F07".toList ∧
      ¬ Rule.HoldsInfantMark " KIM/BABY/1JAN23)/31FEB20 MISS\t".toList ∧
        Text.CutsAt "99X\u212A\u017F07".toList 8 "99X\u212A\u017F".toList ['0', '7'] ∧
          ∀ context, Table.standard.apply context
            "(iNf KIM/BABY/1JAN23)/31FEB20 MISS\t/99X\u212A\u017F07)/01JAN20)\nNM1".toList =
              .translated "infant" "-I/KIM/BABY/1JAN23)/31FEB20 MISS*I07".toList := by
  have code : "99X\u212A\u017F07".toList = "99X\u212A\u017F".toList ++ ['0', '7'] := by
    decide +kernel
  have token : BirthCode.IsToken ("99X\u212A\u017F".toList ++ ['0', '7']) := by decide +kernel
  have size : Text.byteCount ("99X\u212A\u017F".toList ++ ['0', '7']) - 2 = 8 := by decide +kernel
  have unmarked : ¬ Rule.HoldsInfantMark " KIM/BABY/1JAN23)/31FEB20 MISS\t".toList := by
    decide +kernel
  have line : "(iNf".toList ++ (" KIM/BABY/1JAN23)/31FEB20 MISS\t".toList ++
      '/' :: ("99X\u212A\u017F".toList ++ ['0', '7'] ++ ')' :: "/01JAN20)\nNM1".toList)) =
        "(iNf KIM/BABY/1JAN23)/31FEB20 MISS\t/99X\u212A\u017F07)/01JAN20)\nNM1".toList := by
    decide +kernel
  have output : "-I/".toList ++ Text.trim " KIM/BABY/1JAN23)/31FEB20 MISS\t".toList ++
      "*I".toList ++ ['0', '7'] = "-I/KIM/BABY/1JAN23)/31FEB20 MISS*I07".toList := by
    decide +kernel
  have shown := @apply_infant_first "(iNf".toList " KIM/BABY/1JAN23)/31FEB20 MISS\t".toList
    "99X\u212A\u017F".toList '0' '7' (by decide) (by decide) token
    (Rule.not_holdsInfantMark_iff.mp unmarked) "/01JAN20)\nNM1".toList
  rw [line, output, size] at shown
  rw [code]
  exact ⟨token, unmarked, (shown ⟨none, ⟨2026, 1, 1, by decide⟩⟩).2,
    fun context => (shown context).1⟩

end Shorthand.Table
