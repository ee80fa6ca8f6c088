import Shorthand.Proofs.Calendar.DateText

/-! Reading a date is reading its components one after the other. One component is read as the
text begins with it, and refused for what is wrong with it: what leads it is passed over, then
the run of digits at the front is its number. By induction on the components that are still due
a whole list of them is read, and fails at the first one that fails. What is left to decide is
whether the text ends behind the day and whether the date exists. -/
namespace Shorthand.Iso

/-- The digits at the front of a text, no more than the limit admits. -/
def frontRun (limit : Option Nat) (t : Text) : Text :=
  (t.take (limit.getD t.length)).takeWhile Char.isDigit

theorem frontRun_start (limit : Option Nat) (t : Text) : frontRun limit t <+: t :=
  (List.takeWhile_prefix _).trans (List.take_prefix ..)

theorem isDigit_of_mem_frontRun {limit : Option Nat} {t : Text} {c : Char}
    (member : c ∈ frontRun limit t) : c.isDigit = true :=
  List.mem_takeWhile_imp member

theorem length_frontRun_le {limit : Option Nat} {t : Text} :
    ∀ most ∈ limit, (frontRun limit t).length ≤ most := by
  intro most member
  cases member
  exact Nat.le_trans (List.takeWhile_prefix _).length_le (List.length_take_le ..)

/-- Digits within the limit that begin a text belong to the digits at its front. -/
theorem prefix_frontRun {limit : Option Nat} {digits t : Text} (start : digits <+: t)
    (allDigits : ∀ c ∈ digits, c.isDigit = true) (within : ∀ most ∈ limit, digits.length ≤ most) :
    digits <+: frontRun limit t := by
  have bound : digits.length ≤ limit.getD t.length := by
    cases limit with
    | none => exact start.length_le
    | some most => exact within most rfl
  obtain ⟨back, cut⟩ := List.prefix_take_iff.mpr ⟨start, bound⟩
  rw [frontRun, ← cut, List.takeWhile_append_of_pos allDigits]
  exact List.prefix_append ..

theorem frontRun_eq_of_isLongest {limit : Option Nat} {digits rest : Text}
    (allDigits : ∀ c ∈ digits, c.isDigit = true) (within : ∀ most ∈ limit, digits.length ≤ most)
    (longest : IsLongest limit digits rest) : frontRun limit (digits ++ rest) = digits := by
  have inside := prefix_frontRun (List.prefix_append digits rest) allDigits within
  have shorter := longest _ (frontRun_start limit _) (fun _ => isDigit_of_mem_frontRun)
    length_frontRun_le
  exact (inside.eq_of_length_le shorter).symm

/-- A number is read as the run of digits that the text begins with. -/
theorem readNumber_of_run {limit : Option Nat} {digits rest : Text} {n : Nat}
    (run : IsRun digits n) (within : ∀ most ∈ limit, digits.length ≤ most)
    (longest : IsLongest limit digits rest) :
    readNumber limit (digits ++ rest) = .ok (n, rest) := by
  have found := frontRun_eq_of_isLongest run.2.1 within longest
  obtain ⟨c, others, rfl⟩ := List.exists_cons_of_ne_nil run.1
  rw [List.cons_append] at found ⊢
  rw [frontRun] at found
  simp only [readNumber, run.2.1 c (by simp), if_true, found, run.2.2]
  simp

/-- A digit begins a run of digits that is as long as it can be. -/
theorem exists_run {limit : Option Nat} (positive : ∀ most ∈ limit, 0 < most) {c : Char}
    (digit : c.isDigit = true) (t : Text) :
    ∃ digits n rest, c :: t = digits ++ rest ∧ IsRun digits n ∧
      (∀ most ∈ limit, digits.length ≤ most) ∧ IsLongest limit digits rest := by
  obtain ⟨rest, whole⟩ := frontRun_start limit (c :: t)
  have one : [c] <+: frontRun limit (c :: t) :=
    prefix_frontRun ⟨t, rfl⟩ (by simpa using digit) positive
  refine ⟨_, _, rest, whole.symm, ⟨?_, fun _ => isDigit_of_mem_frontRun, rfl⟩,
    length_frontRun_le, ?_⟩
  · intro none
    rw [none] at one
    simp at one
  · intro longer start allDigits within
    rw [whole] at start
    exact (prefix_frontRun start allDigits within).length_le

namespace Component

instance (component : Component) (n : Int) : Decidable (component.Admits n) := by
  cases component <;> exact inferInstanceAs (Decidable (_ ∧ _))

/-- Reads one component, with the blanks and the hyphen before its digits. -/
def read : Component → Text → Except Fault (Int × Text)
  | .year, t => readYear t
  | .part greatest, t => (readHyphen t).bind fun t =>
    (readUpTo greatest t).map fun (n, rest) => ((n : Int), rest)

/-- Any number of digits may follow a sign. -/
theorem readSigned_of_signed {c : Char} (isSign : c = '+' ∨ c = '-') (t : Text) :
    readSigned (c :: t) =
      (readNumber none t).map fun (n, rest) => ((if c = '-' then -1 else 1) * (n : Int), rest) := by
  rcases isSign with rfl | rfl
  · simp [readSigned]
  · simp [readSigned]

/-- A year without a sign has up to four digits. -/
theorem readSigned_of_unsigned {t : Text} (unsigned : ∀ c ∈ t.head?, ¬ (c = '+' ∨ c = '-')) :
    readSigned t = (readNumber (some 4) t).map fun (n, rest) => ((n : Int), rest) := by
  unfold readSigned
  split
  · exact absurd (Or.inr rfl) (unsigned '-' rfl)
  · exact absurd (Or.inl rfl) (unsigned '+' rfl)
  · rfl

theorem readYear_eq (t : Text) : readYear t = (readSigned (Text.trimStart t)).bind
    fun (n, rest) => if Component.year.Admits n then .ok (n, rest) else .error .outOfRange :=
  rfl

theorem read_part_eq (greatest : Nat) (t : Text) :
    (part greatest).read ('-' :: t) = (readNumber (some 2) (Text.trimStart t)).bind
      fun (n, rest) =>
        if (part greatest).Admits n then .ok ((n : Int), rest) else .error .outOfRange := by
  have hyphen : (part greatest).read ('-' :: t) =
      (readUpTo greatest t).map fun (n, rest) => ((n : Int), rest) := by
    rw [read, readHyphen, if_pos rfl]
    rfl
  have range : ∀ n : Nat, (part greatest).Admits n ↔ 1 ≤ n ∧ n ≤ greatest := by
    intro n
    simp only [Admits]
    omega
  rw [hyphen, readUpTo]
  cases readNumber (some 2) (Text.trimStart t) with
  | error fault => rfl
  | ok found =>
    by_cases inside : 1 ≤ found.1 ∧ found.1 ≤ greatest
    · simp only [Except.bind, if_pos ((range _).mpr inside), bind, if_pos inside]
      rfl
    · simp only [Except.bind, if_neg (inside ∘ (range _).mp), bind, if_neg inside]
      rfl

/-- What leads the component does not go on with the text behind it. -/
def Ended (component : Component) (lead x : Text) : Prop :=
  ∀ c ∈ x.head?, ∀ limit sign, ¬ component.Lead (lead ++ [c]) limit sign

/-- Behind what leads a component its number is read and checked. -/
theorem read_of_lead {component : Component} {lead x : Text} {limit : Option Nat} {sign : Int}
    (leads : component.Lead lead limit sign) (ended : component.Ended lead x) :
    component.read (lead ++ x) = (readNumber limit x).bind fun (n, rest) =>
      if component.Admits (sign * n) then .ok (sign * n, rest) else .error .outOfRange := by
  cases leads with
  | plain blank =>
    have solid : Text.trimStart x = x := by
      refine Text.trimStart_eq_self_iff.mpr fun c head => Bool.eq_false_iff.mpr fun space => ?_
      exact ended c head _ _ (.plain (Text.blank_concat blank space))
    have unsigned : ∀ c ∈ x.head?, ¬ (c = '+' ∨ c = '-') :=
      fun c head isSign => ended c head _ _ (.signed blank isSign)
    rw [read, readYear_eq, Text.trimStart_append blank, solid, readSigned_of_unsigned unsigned]
    simp only [Int.one_mul]
    cases readNumber (some 4) x <;> rfl
  | @signed gap c blank isSign =>
    have solid : Text.trimStart (c :: x) = c :: x := by
      refine Text.trimStart_eq_self_iff.mpr (Text.solidStart_cons.mpr ?_)
      rcases isSign with rfl | rfl <;> rfl
    rw [List.append_assoc, List.singleton_append, read, readYear_eq, Text.trimStart_append blank,
      solid, readSigned_of_signed isSign]
    cases readNumber none x <;> rfl
  | hyphen blank =>
    have solid : Text.trimStart x = x := by
      refine Text.trimStart_eq_self_iff.mpr fun c head => Bool.eq_false_iff.mpr fun space => ?_
      exact ended c head _ _ (.hyphen (Text.blank_concat blank space))
    rw [List.cons_append, read_part_eq, Text.trimStart_append blank, solid]
    simp only [Int.one_mul]

/-- A digit stands behind what leads a component, never in it. -/
theorem ended_of_digit {component : Component} {lead x : Text}
    (digit : ∀ c ∈ x.head?, c.isDigit = true) : component.Ended lead x := by
  intro c head limit sign leads
  have none := leads.isDigit_eq_false c (by simp)
  rw [digit c head] at none
  cases none

/-- A component that the text begins with is read, and its number is checked. -/
theorem Takes.read_eq {component : Component} {t rest : Text} {n : Int}
    (takes : component.Takes t n rest) : component.read t =
      if component.Admits n then .ok (n, rest) else .error .outOfRange := by
  obtain ⟨lead, limit, sign, digits, m, leads, rfl, run, within, longest, rfl⟩ :=
    takes_iff.mp takes
  have ended : component.Ended lead (digits ++ rest) := ended_of_digit (run.head_digit rest)
  rw [read_of_lead leads ended, readNumber_of_run run within longest]
  rfl

/-- What is wrong with a component is reported. -/
theorem Fails.read_eq {component : Component} {t : Text} {fault : Fault}
    (fails : component.Fails t fault) : component.read t = .error fault := by
  cases fails with
  | ends awaits =>
    cases awaits with
    | hyphen => rfl
    | digit leads =>
      have stopped := @read_of_lead component t [] _ _ leads (by simp [Ended])
      rw [List.append_nil] at stopped
      exact stopped
  | @stray lead rest c due awaits other ended =>
    cases awaits with
    | hyphen =>
      have noHyphen : c ≠ '-' := by simpa using other
      simp [Component.read, readHyphen, noHyphen, Except.bind]
    | digit leads =>
      have stopped : component.Ended lead (c :: rest) := by
        rintro _ ⟨⟩
        exact ended
      rw [read_of_lead leads stopped]
      simp [readNumber, other, Except.bind]
  | outside takes outside => rw [takes.read_eq, if_neg outside]

/-- Only blanks and one sign lead a year. -/
theorem Lead.blank_of_year {t : Text} {c : Char} {limit : Option Nat} {sign : Int}
    (leads : Component.year.Lead (t ++ [c]) limit sign) :
    Text.blank t = true ∧ (Text.isBlank c = true ∨ c = '+' ∨ c = '-') := by
  generalize same : t ++ [c] = lead at leads
  cases leads with
  | plain blank =>
    rw [← same, Text.blank_append, Bool.and_eq_true] at blank
    exact ⟨blank.1, Or.inl (Text.blank_iff.mp blank.2 c (by simp))⟩
  | signed blank isSign =>
    obtain ⟨rfl, last⟩ := List.append_inj' same rfl
    cases last
    exact ⟨blank, Or.inr isSign⟩

/-- The blanks before a year and its sign lead it. -/
theorem exists_lead_year (t : Text) : ∃ lead limit sign x,
    Component.year.Lead lead limit sign ∧ t = lead ++ x ∧ Component.year.Ended lead x := by
  have whole : t = t.takeWhile Text.isBlank ++ t.dropWhile Text.isBlank :=
    List.takeWhile_append_dropWhile.symm
  have blank : Text.blank (t.takeWhile Text.isBlank) = true := List.all_takeWhile
  have solid := Text.solidStart_dropWhile t
  cases behind : t.dropWhile Text.isBlank with
  | nil => exact ⟨_, _, _, [], .plain blank, behind ▸ whole, by simp [Ended]⟩
  | cons c x =>
    rw [behind, Text.solidStart_cons] at solid
    rw [behind] at whole
    by_cases isSign : c = '+' ∨ c = '-'
    · refine ⟨_, _, _, x, .signed blank isSign, by simpa using whole, fun d _ limit sign leads => ?_⟩
      exact Text.not_blank_of_mem (by simp) solid leads.blank_of_year.1
    · refine ⟨_, _, _, c :: x, .plain blank, whole, ?_⟩
      rintro _ ⟨⟩ limit sign leads
      rcases leads.blank_of_year.2 with space | isSign'
      · exact Bool.eq_false_iff.mp solid space
      · exact isSign isSign'

/-- A hyphen and the blanks behind it lead a part. -/
theorem exists_lead_part (greatest : Nat) (t : Text) : ∃ lead limit sign x,
    (part greatest).Lead lead limit sign ∧ '-' :: t = lead ++ x ∧ (part greatest).Ended lead x := by
  have whole : t = t.takeWhile Text.isBlank ++ t.dropWhile Text.isBlank :=
    List.takeWhile_append_dropWhile.symm
  refine ⟨_, _, _, t.dropWhile Text.isBlank, .hyphen List.all_takeWhile,
    congrArg ('-' :: ·) whole, fun d head limit sign leads => ?_⟩
  cases leads with
  | hyphen blank =>
    exact Text.not_blank_of_mem (by simp) (Text.solidStart_dropWhile t d head) blank

/-- Behind what leads a component there is a digit to take, or one is missing. -/
theorem takes_or_fails_of_lead {component : Component} {lead x : Text} {limit : Option Nat}
    {sign : Int} (leads : component.Lead lead limit sign) (ended : component.Ended lead x) :
    (∃ n rest, component.Takes (lead ++ x) n rest) ∨
      ∃ fault, component.Fails (lead ++ x) fault := by
  cases x with
  | nil =>
    rw [List.append_nil]
    exact Or.inr ⟨_, .ends (.digit leads)⟩
  | cons c x =>
    by_cases digit : c.isDigit = true
    · obtain ⟨digits, n, rest, whole, run, within, longest⟩ := exists_run leads.limit_pos digit x
      rw [whole]
      exact Or.inl ⟨_, rest, takes_iff.mpr
        ⟨lead, limit, sign, digits, n, leads, rfl, run, within, longest, rfl⟩⟩
    · exact Or.inr ⟨_, .stray (.digit leads) (Bool.eq_false_iff.mpr digit) (ended c rfl)⟩

/-- A text begins with the component, or the component is cut short or broken. -/
theorem takes_or_fails (component : Component) (t : Text) :
    (∃ n rest, component.Takes t n rest) ∨ ∃ fault, component.Fails t fault := by
  cases component with
  | year =>
    obtain ⟨lead, limit, sign, x, leads, rfl, ended⟩ := exists_lead_year t
    exact takes_or_fails_of_lead leads ended
  | part greatest =>
    cases t with
    | nil => exact Or.inr ⟨_, .ends .hyphen⟩
    | cons c t =>
      by_cases hyphen : c = '-'
      · subst hyphen
        obtain ⟨lead, limit, sign, x, leads, whole, ended⟩ := exists_lead_part greatest t
        rw [whole]
        exact takes_or_fails_of_lead leads ended
      · have other : (c == '-') = false := by simpa using hyphen
        refine Or.inr ⟨_, @Fails.stray _ [] t c _ .hyphen other ?_⟩
        rintro limit sign ⟨⟩
        exact hyphen rfl

theorem read_eq_ok_iff {component : Component} {t rest : Text} {n : Int} :
    component.read t = .ok (n, rest) ↔ component.Takes t n rest ∧ component.Admits n := by
  constructor
  · intro success
    rcases takes_or_fails component t with ⟨n', rest', takes⟩ | ⟨fault, fails⟩
    · rw [takes.read_eq] at success
      split at success
      · next admits =>
        cases success
        exact ⟨takes, admits⟩
      · cases success
    · cases fails.read_eq.symm.trans success
  · rintro ⟨takes, admits⟩
    rw [takes.read_eq, if_pos admits]

theorem read_eq_error_iff {component : Component} {t : Text} {fault : Fault} :
    component.read t = .error fault ↔ component.Fails t fault := by
  refine ⟨fun failed => ?_, Fails.read_eq⟩
  rcases takes_or_fails component t with ⟨n, rest, takes⟩ | ⟨fault', fails⟩
  · by_cases admits : component.Admits n
    · cases failed.symm.trans (read_eq_ok_iff.mpr ⟨takes, admits⟩)
    · have outside := Fails.outside takes admits
      cases failed.symm.trans outside.read_eq
      exact outside
  · cases failed.symm.trans fails.read_eq
    exact fails

end Component

/-- Reads components one after the other. -/
def readAll : List Component → Text → Except Fault (List Int × Text)
  | [], t => .ok ([], t)
  | component :: later, t => (component.read t).bind fun found =>
    (readAll later found.2).map fun others => (found.1 :: others.1, others.2)

theorem readAll_cons_of_ok {component : Component} {later : List Component} {t middle : Text}
    {n : Int} (success : component.read t = .ok (n, middle)) : readAll (component :: later) t =
      (readAll later middle).map fun others => (n :: others.1, others.2) := by
  rw [readAll, success]
  rfl

theorem readAll_cons_of_error {component : Component} {later : List Component} {t : Text}
    {fault : Fault} (failed : component.read t = .error fault) :
    readAll (component :: later) t = .error fault := by
  rw [readAll, failed]
  rfl

theorem readAll_eq_ok_iff {list : List Component} {t rest : Text} {numbers : List Int} :
    readAll list t = .ok (numbers, rest) ↔ Reads list t numbers rest := by
  induction list generalizing t numbers with
  | nil =>
    constructor
    · rintro ⟨⟩
      exact .done
    · rintro ⟨⟩
      rfl
  | cons component later ih =>
    constructor
    · intro success
      cases first : component.read t with
      | error fault => cases (readAll_cons_of_error first).symm.trans success
      | ok found =>
        obtain ⟨takes, admits⟩ := Component.read_eq_ok_iff.mp first
        rw [readAll_cons_of_ok first] at success
        cases others : readAll later found.2 with
        | error fault =>
          rw [others] at success
          cases success
        | ok _ =>
          rw [others] at success
          cases success
          exact .next takes admits (ih.mp others)
    · rintro (_ | ⟨takes, admits, reads⟩)
      rw [readAll_cons_of_ok (Component.read_eq_ok_iff.mpr ⟨takes, admits⟩), ih.mpr reads]
      rfl

/-- Reading components fails at the first one that is not as it has to be. -/
theorem readAll_eq_error_iff {list : List Component} {t : Text} {fault : Fault} :
    readAll list t = .error fault ↔ ∃ before component later numbers rest,
      list = before ++ component :: later ∧ Reads before t numbers rest ∧
        component.Fails rest fault := by
  -- The text is generalized, since the components still due see only what is left of it.
  induction list generalizing t with
  | nil => simp [readAll]
  | cons component later ih =>
    constructor
    · intro failed
      cases first : component.read t with
      | error fault' =>
        cases failed.symm.trans (readAll_cons_of_error first)
        exact ⟨[], component, later, [], t, rfl, .done, Component.read_eq_error_iff.mp first⟩
      | ok found =>
        obtain ⟨takes, admits⟩ := Component.read_eq_ok_iff.mp first
        rw [readAll_cons_of_ok first] at failed
        cases others : readAll later found.2 with
        | ok _ =>
          rw [others] at failed
          cases failed
        | error fault' =>
          rw [others] at failed
          cases failed
          obtain ⟨before, failing, behind, numbers, rest, rfl, reads, fails⟩ := ih.mp others
          exact ⟨component :: before, failing, behind, _ :: numbers, rest, rfl,
            .next takes admits reads, fails⟩
    · rintro ⟨before, failing, behind, numbers, rest, same, reads, fails⟩
      cases reads with
      | done =>
        cases same
        exact readAll_cons_of_error (Component.read_eq_error_iff.mpr fails)
      | next takes admits reads =>
        cases same
        have found := ih.mpr ⟨_, failing, behind, _, rest, rfl, reads, fails⟩
        rw [readAll_cons_of_ok (Component.read_eq_ok_iff.mpr ⟨takes, admits⟩), found]
        rfl

/-- What is made of the numbers of a date when all of them are read. -/
def finish : List Int × Text → Except Fault Date
  | ([year, month, day], []) =>
    match Date.ofYmd? year month.toNat day.toNat with
    | some date => .ok date
    | none => .error .outOfRange
  | _ => .error .tooLong

/-- A date is read by its components. -/
theorem read_eq (t : Text) : read t = (readAll components t).bind finish := by
  simp only [read, components, readAll, Component.read]
  -- Both sides stop at the first failure, so each step is taken on both at once.
  obtain fault | ⟨year, t⟩ := readYear t
  · rfl
  simp only [bind, Except.bind]
  obtain fault | t := readHyphen t
  · rfl
  simp only
  obtain fault | ⟨month, t⟩ := readUpTo 12 t
  · rfl
  simp only [Except.map]
  obtain fault | t := readHyphen t
  · rfl
  simp only
  obtain fault | ⟨day, rest⟩ := readUpTo 31 t
  · rfl
  cases rest with
  | nil => simp only [finish, Int.toNat_natCast]; rfl
  | cons c rest => rfl

/-- Three numbers are read of a date. -/
theorem Reads.numbers_eq {t rest : Text} {numbers : List Int}
    (reads : Reads components t numbers rest) :
    ∃ (year : Int) (month day : Nat), numbers = [year, ↑month, ↑day] := by
  obtain _ | ⟨_, _, _ | ⟨_, admits, _ | ⟨_, admits', _ | _⟩⟩⟩ := reads
  obtain ⟨month, rfl⟩ := Int.eq_ofNat_of_zero_le (Int.le_trans (by decide) admits.1)
  obtain ⟨day, rfl⟩ := Int.eq_ofNat_of_zero_le (Int.le_trans (by decide) admits'.1)
  exact ⟨_, month, day, rfl⟩

theorem finish_eq_ok_iff {year : Int} {month day : Nat} {rest : Text} {d : Date} :
    finish ([year, month, day], rest) = .ok d ↔
      rest = [] ∧ d.year = year ∧ d.month = month ∧ d.day = day := by
  cases rest with
  | cons c rest => simp [finish]
  | nil =>
    rw [← Date.ofYmd?_eq_some_iff]
    cases made : Date.ofYmd? year month day <;> simp [finish, made]

theorem finish_eq_error_iff {year : Int} {month day : Nat} {rest : Text} {fault : Fault} :
    finish ([year, month, day], rest) = .error fault ↔
      (rest ≠ [] ∧ fault = .tooLong) ∨
        (rest = [] ∧ ¬ IsGregorian year month day ∧ fault = .outOfRange) := by
  cases rest with
  | cons c rest => simp [finish, eq_comm]
  | nil =>
    rw [← isDate_iff_isGregorian, ← Date.ofYmd?_eq_none_iff]
    cases made : Date.ofYmd? year month day <;> simp [finish, made, eq_comm]

theorem read_eq_ok_iff {t : Text} {d : Date} :
    read t = .ok d ↔ Reads components t [d.year, d.month, d.day] [] := by
  rw [read_eq]
  constructor
  · intro success
    cases all : readAll components t with
    | error fault =>
      rw [all] at success
      cases success
    | ok found =>
      have reads := readAll_eq_ok_iff.mp all
      obtain ⟨numbers, rest⟩ := found
      obtain ⟨year, month, day, rfl⟩ := reads.numbers_eq
      rw [all] at success
      obtain ⟨rfl, rfl, rfl, rfl⟩ := finish_eq_ok_iff.mp success
      exact reads
  · intro reads
    rw [readAll_eq_ok_iff.mpr reads]
    exact finish_eq_ok_iff.mpr ⟨rfl, rfl, rfl, rfl⟩

/-- What is reported is the first thing that is wrong. -/
theorem read_eq_error_iff {t : Text} {fault : Fault} :
    read t = .error fault ↔ FirstFault t fault := by
  rw [read_eq]
  constructor
  · intro failed
    cases all : readAll components t with
    | error fault' =>
      rw [all] at failed
      cases failed
      obtain ⟨before, component, later, numbers, rest, due, reads, fails⟩ :=
        readAll_eq_error_iff.mp all
      exact .component due reads fails
    | ok found =>
      have reads := readAll_eq_ok_iff.mp all
      obtain ⟨numbers, rest⟩ := found
      obtain ⟨year, month, day, rfl⟩ := reads.numbers_eq
      rw [all] at failed
      rcases finish_eq_error_iff.mp failed with ⟨more, rfl⟩ | ⟨rfl, absent, rfl⟩
      · exact .remains reads more
      · exact .absent reads absent
  · rintro (⟨due, reads, fails⟩ | ⟨reads, more⟩ | ⟨reads, absent⟩)
    · rw [readAll_eq_error_iff.mpr ⟨_, _, _, _, _, due, reads, fails⟩]
      rfl
    · obtain ⟨year, month, day, rfl⟩ := reads.numbers_eq
      rw [readAll_eq_ok_iff.mpr reads]
      exact finish_eq_error_iff.mpr (Or.inl ⟨more, rfl⟩)
    · rw [readAll_eq_ok_iff.mpr reads]
      exact finish_eq_error_iff.mpr (Or.inr ⟨rfl, absent, rfl⟩)

end Shorthand.Iso
