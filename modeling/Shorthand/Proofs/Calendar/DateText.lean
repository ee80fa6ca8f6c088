import Shorthand.Calendar.Iso
import Shorthand.Proofs.Calendar.Gregorian
import Shorthand.Proofs.Text.Spelling
import Shorthand.Proofs.Text.Trimming

/-! The texts that are dates, and the first thing that is wrong with any other text. A date
is a year, a month and a day with hyphens between them. Each of the three components reaches
as far as it can, and the first one that is cut short, broken or out of its range decides what
is reported; what remains behind the day and whether the date exists matter only after that. -/
namespace Shorthand.Iso

/-- A run of digits that is worth a number. -/
def IsRun (t : Text) (n : Nat) : Prop :=
  t ≠ [] ∧ (∀ c ∈ t, c.isDigit = true) ∧ Numeral.value t = n

/-- One to four digits, or a sign and one or more digits. -/
def IsYear (t : Text) (year : Int) : Prop :=
  (∃ n : Nat, IsRun t n ∧ t.length ≤ 4 ∧ year = n) ∨
    ∃ (digits : Text) (n : Nat), IsRun digits n ∧
      ((t = '+' :: digits ∧ year = n) ∨ (t = '-' :: digits ∧ year = -n))

/-- One or two digits. -/
def IsPart (t : Text) (n : Nat) : Prop := IsRun t n ∧ t.length ≤ 2

/-- A year, a month and a day with hyphens between them and blanks behind the hyphens, which
are the numbers of a date. -/
def Names (t : Text) (d : Date) : Prop :=
  ∃ year gap month gap' day,
    t = year ++ '-' :: (gap ++ (month ++ '-' :: (gap' ++ day))) ∧
      IsYear year d.year ∧ Text.blank gap = true ∧ IsPart month d.month ∧
        Text.blank gap' = true ∧ IsPart day d.day

/-- What a date consists of: the year, and two parts with a hyphen before them whose numbers
have a greatest value. -/
inductive Component where
  | year
  | part (greatest : Nat)

/-- The components in the order in which they are read. -/
def components : List Component := [.year, .part 12, .part 31]

namespace Component

/-- What may stand before the digits of a component. It settles how many digits may follow
it and the sign of their number. -/
inductive Lead : Component → Text → Option Nat → Int → Prop
  | plain {gap : Text} (blank : Text.blank gap = true) : Lead .year gap (some 4) 1
  | signed {gap : Text} {c : Char} (blank : Text.blank gap = true) (isSign : c = '+' ∨ c = '-') :
      Lead .year (gap ++ [c]) none (if c = '-' then -1 else 1)
  | hyphen {greatest : Nat} {gap : Text} (blank : Text.blank gap = true) :
      Lead (.part greatest) ('-' :: gap) (some 2) 1

/-- A text that is one component, and the number that it is worth. -/
def Form (component : Component) (t : Text) (n : Int) : Prop :=
  ∃ lead limit sign digits m, component.Lead lead limit sign ∧ t = lead ++ digits ∧
    IsRun digits m ∧ (∀ most ∈ limit, digits.length ≤ most) ∧ n = sign * m

/-- The text begins with the component, which is as long as it can be, and goes on with the
rest. -/
def Takes (component : Component) (t : Text) (n : Int) (rest : Text) : Prop :=
  ∃ front, t = front ++ rest ∧ component.Form front n ∧
    ∀ longer m, longer <+: t → component.Form longer m → longer.length ≤ front.length

/-- The numbers that a component may be worth. A year has to fit into a signed word of 32
bits. -/
def Admits : Component → Int → Prop
  | .year, n => -2147483648 ≤ n ∧ n ≤ 2147483647
  | .part greatest, n => 1 ≤ n ∧ n ≤ greatest

/-- The characters of one kind are due behind this beginning of a component. -/
inductive Awaits : Component → Text → (Char → Bool) → Prop
  | hyphen {greatest : Nat} : Awaits (.part greatest) [] (· == '-')
  | digit {component : Component} {lead : Text} {limit : Option Nat} {sign : Int}
      (leads : component.Lead lead limit sign) : Awaits component lead Char.isDigit

/-- What is wrong with the component that a text has to begin with. -/
inductive Fails (component : Component) : Text → Fault → Prop
  | ends {lead : Text} {due : Char → Bool} (awaits : component.Awaits lead due) :
      Fails component lead .tooShort
  | stray {lead rest : Text} {c : Char} {due : Char → Bool} (awaits : component.Awaits lead due)
      (other : due c = false) (ended : ∀ limit sign, ¬ component.Lead (lead ++ [c]) limit sign) :
      Fails component (lead ++ c :: rest) .invalid
  | outside {t rest : Text} {n : Int} (takes : component.Takes t n rest)
      (outside : ¬ component.Admits n) : Fails component t .outOfRange

end Component

/-- The components stand at the front of the text one behind the other, each as long as it
can be and worth a number that it admits, and the text goes on with the rest. -/
inductive Reads : List Component → Text → List Int → Text → Prop
  | done {t : Text} : Reads [] t [] t
  | next {component : Component} {later : List Component} {t middle rest : Text} {n : Int}
      {numbers : List Int} (takes : component.Takes t n middle) (admits : component.Admits n)
      (reads : Reads later middle numbers rest) : Reads (component :: later) t (n :: numbers) rest

/-- The first thing that is wrong with a text that is to be a date. -/
inductive FirstFault (t : Text) : Fault → Prop
  | component {before later : List Component} {component : Component} {numbers : List Int}
      {rest : Text} {fault : Fault} (due : components = before ++ component :: later)
      (reads : Reads before t numbers rest) (fails : component.Fails rest fault) :
      FirstFault t fault
  | remains {numbers : List Int} {rest : Text} (reads : Reads components t numbers rest)
      (more : rest ≠ []) : FirstFault t .tooLong
  | absent {year : Int} {month day : Nat} (reads : Reads components t [year, month, day] [])
      (absent : ¬ IsGregorian year month day) : FirstFault t .outOfRange

namespace Component

/-- No digit stands before the digits of a component. -/
theorem Lead.isDigit_eq_false {component : Component} {lead : Text} {limit : Option Nat}
    {sign : Int} (leads : component.Lead lead limit sign) : ∀ c ∈ lead, c.isDigit = false := by
  have blanks : ∀ {gap : Text}, Text.blank gap = true → ∀ c ∈ gap, c.isDigit = false := by
    intro gap blank c member
    rw [Bool.eq_false_iff]
    intro digit
    exact Text.not_blank_of_mem member (Letter.isBlank_of_isDigit digit) blank
  intro c member
  cases leads with
  | plain blank => exact blanks blank c member
  | signed blank isSign =>
    rcases List.mem_append.mp member with inGap | last
    · exact blanks blank c inGap
    · rw [List.mem_singleton.mp last]
      rcases isSign with rfl | rfl <;> rfl
  | hyphen blank =>
    rcases List.mem_cons.mp member with rfl | inGap
    · rfl
    · exact blanks blank c inGap

/-- At least one digit may follow. -/
theorem Lead.limit_pos {component : Component} {lead : Text} {limit : Option Nat} {sign : Int}
    (leads : component.Lead lead limit sign) : ∀ most ∈ limit, 0 < most := by
  intro most member
  cases leads <;> cases member <;> decide

/-- What stands before the digits settles their limit and sign. -/
theorem Lead.unique {component : Component} {lead : Text} {limit limit' : Option Nat}
    {sign sign' : Int} (leads : component.Lead lead limit sign)
    (leads' : component.Lead lead limit' sign') : limit = limit' ∧ sign = sign' := by
  -- Blanks do not end with a sign.
  have unsigned : ∀ {gap : Text} {c : Char}, c = '+' ∨ c = '-' →
      ¬ Text.blank (gap ++ [c]) = true := by
    intro gap c isSign
    refine Text.not_blank_of_mem (List.mem_append_right gap (List.mem_singleton_self c)) ?_
    rcases isSign with rfl | rfl <;> rfl
  generalize same : lead = other at leads'
  cases leads with
  | plain blank =>
    cases leads' with
    | plain _ => exact ⟨rfl, rfl⟩
    | signed _ isSign => exact absurd (same ▸ blank) (unsigned isSign)
  | signed _ isSign =>
    cases leads' with
    | plain blank => exact absurd (same ▸ blank) (unsigned isSign)
    | signed _ _ =>
      obtain ⟨_, last⟩ := List.append_inj' same rfl
      cases last
      exact ⟨rfl, rfl⟩
  | hyphen _ =>
    cases leads' with
    | hyphen _ => exact ⟨rfl, rfl⟩

/-- Two ways to read a component at the front of a text find its digits at one place. -/
theorem Lead.same_place {component : Component} {lead lead' x x' : Text}
    {limit limit' : Option Nat} {sign sign' : Int} (leads : component.Lead lead limit sign)
    (leads' : component.Lead lead' limit' sign') (digit : ∀ c ∈ x.head?, c.isDigit = true)
    (digit' : ∀ c ∈ x'.head?, c.isDigit = true) (same : lead ++ x = lead' ++ x') :
    lead = lead' ∧ x = x' :=
  @Text.run_unique (fun c => !c.isDigit) lead lead' x x'
    (fun c member => by simp [leads.isDigit_eq_false c member])
    (fun c member => by simp [leads'.isDigit_eq_false c member])
    (fun c member => by simp [digit c member]) (fun c member => by simp [digit' c member]) same

end Component

/-- Behind these digits the text does not go on with more that a run of the limit could hold. -/
def IsLongest (limit : Option Nat) (digits rest : Text) : Prop :=
  ∀ longer, longer <+: digits ++ rest → (∀ c ∈ longer, c.isDigit = true) →
    (∀ most ∈ limit, longer.length ≤ most) → longer.length ≤ digits.length

theorem IsRun.head_digit {digits : Text} {n : Nat} (run : IsRun digits n) (rest : Text) :
    ∀ c ∈ (digits ++ rest).head?, c.isDigit = true := by
  intro c member
  rw [List.head?_append_of_ne_nil _ run.1] at member
  exact run.2.1 c (List.mem_of_mem_head? member)

namespace Component

/-- A component is taken when its digits, as many as there are up to the limit, stand behind
something that may lead them. -/
theorem takes_iff {component : Component} {t rest : Text} {n : Int} :
    component.Takes t n rest ↔ ∃ lead limit sign digits m, component.Lead lead limit sign ∧
      t = lead ++ (digits ++ rest) ∧ IsRun digits m ∧ (∀ most ∈ limit, digits.length ≤ most) ∧
        IsLongest limit digits rest ∧ n = sign * m := by
  constructor
  · rintro ⟨_, rfl, ⟨lead, limit, sign, digits, m, leads, rfl, run, within, worth⟩, longest⟩
    refine ⟨lead, limit, sign, digits, m, leads, List.append_assoc .., run, within, ?_, worth⟩
    intro longer start allDigits within'
    by_cases none : longer = []
    · simp [none]
    · have inside : lead ++ longer <+: lead ++ digits ++ rest := by
        rw [List.append_assoc]
        exact (List.prefix_append_right_inj lead).mpr start
      have shorter := longest (lead ++ longer) _ inside
        ⟨lead, limit, sign, longer, _, leads, rfl, ⟨none, allDigits, rfl⟩, within', rfl⟩
      simpa using shorter
  · rintro ⟨lead, limit, sign, digits, m, leads, rfl, run, within, longest, worth⟩
    refine ⟨lead ++ digits, (List.append_assoc ..).symm,
      ⟨lead, limit, sign, digits, m, leads, rfl, run, within, worth⟩, ?_⟩
    rintro _ _ ⟨back, same⟩ ⟨lead', limit', sign', digits', _, leads', rfl, run', within', _⟩
    rw [List.append_assoc] at same
    obtain ⟨rfl, place⟩ := leads'.same_place leads (run'.head_digit back) (run.head_digit rest) same
    obtain ⟨rfl, _⟩ := leads.unique leads'
    have shorter := longest digits' ⟨back, place⟩ run'.2.1 within'
    simpa using shorter

end Component

/-- A run of digits is as long as it can be when no digit follows it. -/
theorem isLongest_of_stop {digits rest : Text} (stop : ∀ c ∈ rest.head?, c.isDigit = false)
    (limit : Option Nat) : IsLongest limit digits rest := by
  intro longer start allDigits _
  cases rest with
  | nil =>
    rw [List.append_nil] at start
    exact start.length_le
  | cons c rest =>
    have absent : c ∉ longer := by
      intro member
      have none := stop c rfl
      rw [allDigits c member] at none
      cases none
    exact (Text.prefix_before start absent).length_le

namespace Component

theorem takes_year {t rest : Text} {year : Int} (isYear : IsYear t year)
    (stop : ∀ c ∈ rest.head?, c.isDigit = false) : Component.year.Takes (t ++ rest) year rest := by
  rcases isYear with ⟨n, run, short, rfl⟩ | ⟨digits, n, run, ⟨rfl, rfl⟩ | ⟨rfl, rfl⟩⟩
  · exact takes_iff.mpr ⟨[], some 4, 1, t, n, .plain rfl, rfl, run, by simpa using short,
      isLongest_of_stop stop _, (Int.one_mul _).symm⟩
  · exact takes_iff.mpr ⟨['+'], none, 1, digits, n, @Lead.signed [] '+' rfl (Or.inl rfl), rfl, run,
      by simp, isLongest_of_stop stop _, (Int.one_mul _).symm⟩
  · exact takes_iff.mpr ⟨['-'], none, -1, digits, n, @Lead.signed [] '-' rfl (Or.inr rfl), rfl, run,
      by simp, isLongest_of_stop stop _, by omega⟩

theorem takes_part {gap digits rest : Text} {n greatest : Nat} (blank : Text.blank gap = true)
    (isPart : IsPart digits n) (stop : ∀ c ∈ rest.head?, c.isDigit = false) :
    (part greatest).Takes ('-' :: (gap ++ (digits ++ rest))) n rest :=
  takes_iff.mpr ⟨'-' :: gap, some 2, 1, digits, n, .hyphen blank, rfl, isPart.1,
    by simpa using isPart.2, isLongest_of_stop stop _, (Int.one_mul _).symm⟩

/-- No blank stands before the year of a text that does not begin with one. -/
theorem Takes.exists_year {t rest : Text} {n : Int} (solid : Text.SolidStart t)
    (takes : Component.year.Takes t n rest) : ∃ front, t = front ++ rest ∧ IsYear front n := by
  obtain ⟨lead, limit, sign, digits, m, leads, rfl, run, within, _, rfl⟩ := takes_iff.mp takes
  have unled : ∀ {gap x : Text}, Text.blank gap = true → Text.SolidStart (gap ++ x) → gap = [] := by
    intro gap x blank solid
    by_contra nonempty
    rw [Text.solidStart_append nonempty] at solid
    obtain ⟨c, others, rfl⟩ := List.exists_cons_of_ne_nil nonempty
    exact Text.not_blank_of_mem List.mem_cons_self (Text.solidStart_cons.mp solid) blank
  cases leads with
  | plain blank =>
    obtain rfl := unled blank solid
    exact ⟨digits, rfl, Or.inl ⟨m, run, within 4 rfl, Int.one_mul _⟩⟩
  | @signed gap c blank isSign =>
    rw [List.append_assoc] at solid
    obtain rfl := unled blank solid
    refine ⟨c :: digits, rfl, Or.inr ⟨digits, m, run, ?_⟩⟩
    rcases isSign with rfl | rfl
    · exact Or.inl ⟨rfl, Int.one_mul _⟩
    · exact Or.inr ⟨rfl, by simp⟩

theorem Takes.exists_part {greatest : Nat} {t rest : Text} {n : Int}
    (takes : (part greatest).Takes t n rest) : ∃ (gap digits : Text) (m : Nat),
      t = '-' :: (gap ++ (digits ++ rest)) ∧ Text.blank gap = true ∧ IsPart digits m ∧ n = m := by
  obtain ⟨lead, limit, sign, digits, m, leads, rfl, run, within, _, rfl⟩ := takes_iff.mp takes
  cases leads with
  | hyphen blank => exact ⟨_, digits, m, rfl, blank, ⟨run, within 2 rfl⟩, Int.one_mul _⟩

end Component

/-- The texts that name a date are those whose components give its numbers and nothing more. -/
theorem names_iff_reads {t : Text} (solid : Text.SolidStart t) {d : Date} :
    Names t d ↔ Reads components t [d.year, ↑d.month, ↑d.day] [] := by
  have hyphen : ∀ rest : Text, ∀ c ∈ ('-' :: rest).head?, c.isDigit = false := by
    rintro rest c ⟨⟩
    rfl
  constructor
  · rintro ⟨year, gap, month, gap', day, rfl, isYear, blank, isMonth, blank', isDay⟩
    have years := d.valid
    have months := d.month_bounds
    have days := d.day_bounds
    refine .next (Component.takes_year isYear (hyphen _)) ?_
      (.next (Component.takes_part blank isMonth (hyphen _)) ?_
        (.next ?_ ?_ .done))
    · exact ⟨Int.le_trans (by decide) years.1, Int.le_trans years.2.1 (by decide)⟩
    · exact ⟨by omega, by omega⟩
    · have last := @Component.takes_part gap' day [] d.day 31 blank' isDay (by simp)
      rwa [List.append_nil] at last
    · exact ⟨by omega, by omega⟩
  · rintro (_ | ⟨takesYear, _, _ | ⟨takesMonth, _, _ | ⟨takesDay, _, _ | _⟩⟩⟩)
    obtain ⟨year, rfl, isYear⟩ := takesYear.exists_year solid
    obtain ⟨gap, month, m, rfl, blank, isMonth, sameMonth⟩ := takesMonth.exists_part
    obtain ⟨gap', day, n, rfl, blank', isDay, sameDay⟩ := takesDay.exists_part
    obtain rfl := Int.ofNat_inj.mp sameMonth
    obtain rfl := Int.ofNat_inj.mp sameDay
    exact ⟨year, gap, month, gap', day, by simp, isYear, blank, isMonth, blank', isDay⟩

end Shorthand.Iso
