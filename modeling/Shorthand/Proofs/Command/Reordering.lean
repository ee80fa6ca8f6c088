import Mathlib.Data.List.Perm.Basic
import Shorthand.Proofs.Command.Directives

/-! The order of directives. What holds after them depends on which entries they name and whether
one of them asks for a report, on the last departure date and on the last choice of color. So
they can be put into any order that leaves the departure dates and the choices of color in
theirs, and of these two kinds all but the last can be left out, whatever follows. -/
namespace Shorthand

namespace Directive

def isColor (directive : Directive) : Bool := directive.color?.isSome

def isDeparture (directive : Directive) : Bool := directive.departure?.isSome

/-- The directives without those of a kind that are followed by another one of the kind. -/
def lastOf (kind : Directive → Bool) : List Directive → List Directive
  | [] => []
  | directive :: others =>
    if kind directive && others.any kind then lastOf kind others
    else directive :: lastOf kind others

/-- Two lists of directives after which the same holds are read alike, whatever follows them. -/
theorem read_of_agreement (terminal : Bool) {directives directives' : List Directive}
    (named : (entries directives).Perm (entries directives'))
    (verbose : directives.any isVerbose = directives'.any isVerbose)
    (color : (directives.filterMap color?).getLast? = (directives'.filterMap color?).getLast?)
    (departure : (directives.filterMap departure?).getLast? =
      (directives'.filterMap departure?).getLast?) (rest : List Text) :
    Options.read { color := terminal } (directives.flatMap words ++ rest) =
      Options.read { color := terminal } (directives'.flatMap words ++ rest) := by
  rw [read_directives, read_directives, named.length_eq]
  by_cases single : (entries directives').length ≤ 1
  · have first : (entries directives).head? = (entries directives').head? := by
      cases given : entries directives' with
      | nil =>
        rw [given] at named
        rw [named.eq_nil]
      | cons entry others =>
        have alone : others = [] := by
          rw [given, List.length_cons] at single
          exact List.eq_nil_of_length_eq_zero (by omega)
        rw [given, alone] at named
        rw [alone, List.perm_singleton.mp named]
    rw [if_pos single, if_pos single, options, options, first, verbose, color, departure]
  · rw [if_neg single, if_neg single]

/-- Choices are found among the directives that make one. -/
theorem filterMap_filter_isSome {α : Type} (choice : Directive → Option α)
    (directives : List Directive) :
    (directives.filter fun directive => (choice directive).isSome).filterMap choice =
      directives.filterMap choice := by
  rw [List.filterMap_filter]
  congr 1
  funext directive
  cases choice directive <;> rfl

/-- Other kinds of directives all stay. -/
theorem filter_lastOf {kind other : Directive → Bool}
    (apart : ∀ directive, kind directive = true → other directive = false)
    (directives : List Directive) :
    (lastOf kind directives).filter other = directives.filter other := by
  induction directives with
  | nil => rfl
  | cons directive others ih =>
    rw [lastOf]
    split
    · next overruled =>
      have silent := apart directive (Bool.and_eq_true_iff.mp overruled).1
      rw [ih, List.filter_cons_of_neg (Bool.eq_false_iff.mp silent)]
    · rw [List.filter_cons, List.filter_cons, ih]

/-- What other kinds of directives choose is not changed. -/
theorem filterMap_lastOf {α : Type} {kind : Directive → Bool} {choice : Directive → Option α}
    (apart : ∀ directive, kind directive = true → choice directive = none)
    (directives : List Directive) :
    (lastOf kind directives).filterMap choice = directives.filterMap choice := by
  rw [← filterMap_filter_isSome, ← filterMap_filter_isSome choice directives, filter_lastOf]
  intro directive member
  rw [apart directive member]
  rfl

/-- The last choice of a kind stays. -/
theorem getLast?_filterMap_lastOf {α : Type} (choice : Directive → Option α)
    (directives : List Directive) :
    ((lastOf (fun directive => (choice directive).isSome) directives).filterMap choice).getLast? =
      (directives.filterMap choice).getLast? := by
  induction directives with
  | nil => rfl
  | cons directive others ih =>
    rw [lastOf]
    cases chosen : choice directive with
    | none => simpa [chosen] using ih
    | some value =>
      split
      · next overruled =>
        obtain ⟨later, member, chooses⟩ := List.any_eq_true.mp (Bool.and_eq_true_iff.mp overruled).2
        have followed : others.filterMap choice ≠ [] := by
          obtain ⟨value', chosen'⟩ := Option.isSome_iff_exists.mp chooses
          exact List.ne_nil_of_mem (List.mem_filterMap.mpr ⟨later, member, chosen'⟩)
        rw [ih, List.filterMap_cons_some chosen, List.getLast?_cons_of_ne_nil followed]
      · simp [chosen, List.getLast?_cons, ih]

theorem any_isVerbose_lastOf {kind : Directive → Bool}
    (apart : ∀ directive, kind directive = true → directive.isVerbose = false)
    (directives : List Directive) :
    (lastOf kind directives).any isVerbose = directives.any isVerbose := by
  have filtered : ∀ directives : List Directive,
      directives.any isVerbose = (directives.filter isVerbose).any isVerbose := by
    intro directives
    rw [List.any_filter]
    simp only [Bool.and_self]
  rw [filtered, filter_lastOf apart, ← filtered]

/-- A directive that makes a choice of color or sets a departure date names no entry and asks for
no report. -/
theorem plain_of_isColor_or_isDeparture {directive : Directive}
    (kind : isColor directive = true ∨ isDeparture directive = true) :
    entry? directive = none ∧ isVerbose directive = false := by
  cases directive with
  | set setting => exact ⟨rfl, rfl⟩
  | verbose | input => rcases kind with kind | kind <;> cases kind

/-- No directive does both. -/
theorem color?_eq_none_or_departure?_eq_none (directive : Directive) :
    color? directive = none ∨ departure? directive = none := by
  cases directive with
  | set setting =>
    cases setting with
    | color enabled => exact .inr rfl
    | departure => exact .inl rfl
  | verbose | input => exact .inl rfl

/-- Only the last choice of color and the last departure date count. -/
theorem read_lastOf (terminal : Bool) (directives : List Directive) (rest : List Text) :
    Options.read { color := terminal }
        ((lastOf isColor (lastOf isDeparture directives)).flatMap words ++ rest) =
      Options.read { color := terminal } (directives.flatMap words ++ rest) := by
  have undated : ∀ directive, isColor directive = true → departure? directive = none :=
    fun directive kind => (color?_eq_none_or_departure?_eq_none directive).resolve_left
      (Option.isSome_iff_ne_none.mp kind)
  have uncolored : ∀ directive, isDeparture directive = true → color? directive = none :=
    fun directive kind => (color?_eq_none_or_departure?_eq_none directive).resolve_right
      (Option.isSome_iff_ne_none.mp kind)
  apply read_of_agreement
  · rw [entries, filterMap_lastOf fun _ kind => (plain_of_isColor_or_isDeparture (.inl kind)).1,
      filterMap_lastOf fun _ kind => (plain_of_isColor_or_isDeparture (.inr kind)).1]
    exact List.Perm.refl _
  · rw [any_isVerbose_lastOf fun _ kind => (plain_of_isColor_or_isDeparture (.inl kind)).2,
      any_isVerbose_lastOf fun _ kind => (plain_of_isColor_or_isDeparture (.inr kind)).2]
  · refine (getLast?_filterMap_lastOf color? _).trans ?_
    rw [filterMap_lastOf uncolored]
  · -- The choices of color are left out last, so they go first here.
    rw [filterMap_lastOf undated]
    exact getLast?_filterMap_lastOf departure? directives

end Directive

namespace Command

/-- Directives come to the same in every order in which the choices of color and the departure
dates follow each other as before, and also without the choices of color and the departure
dates that are not the last, whatever follows them. -/
theorem run_reordered (timing : Nat → Timing) (environment : Environment)
    {directives directives' : List Directive} (perm : directives.Perm directives')
    (colors : directives.filter Directive.isColor = directives'.filter Directive.isColor)
    (departures :
      directives.filter Directive.isDeparture = directives'.filter Directive.isDeparture)
    (rest : List Text) :
    run timing environment (directives.flatMap Directive.words ++ rest) =
        run timing environment (directives'.flatMap Directive.words ++ rest) ∧
      run timing environment ((Directive.lastOf Directive.isColor
          (Directive.lastOf Directive.isDeparture directives)).flatMap Directive.words ++ rest) =
        run timing environment (directives.flatMap Directive.words ++ rest) := by
  have color : directives.filterMap Directive.color? = directives'.filterMap Directive.color? := by
    rw [← Directive.filterMap_filter_isSome, ← Directive.filterMap_filter_isSome _ directives']
    exact congrArg (List.filterMap Directive.color?) colors
  have departure :
      directives.filterMap Directive.departure? = directives'.filterMap Directive.departure? := by
    rw [← Directive.filterMap_filter_isSome, ← Directive.filterMap_filter_isSome _ directives']
    exact congrArg (List.filterMap Directive.departure?) departures
  refine ⟨run_congr timing ?_, run_congr timing (Directive.read_lastOf _ directives rest)⟩
  exact Directive.read_of_agreement _ (perm.filterMap Directive.entry?) perm.any_eq
    (congrArg List.getLast? color) (congrArg List.getLast? departure) rest

/-- A report and a choice of color change places with a departure date and an entry. The word
behind them is a second entry, which is refused in both orders. -/
theorem run_reordered_of_repeated :
    List.Perm ([.set (.departure .short "2024-06-01".toList (some ⟨2024, 6, 1, by decide⟩) rfl),
        .input .long "SP".toList] ++ [.verbose false, .set (.color true)] : List Directive)
      ([.verbose false, .set (.color true)] ++ [.set (.departure .short "2024-06-01".toList
        (some ⟨2024, 6, 1, by decide⟩) rfl), .input .long "SP".toList]) ∧
      run Timing.unmeasured { Environment.quiet with trace := true }
          (["-d", "2024-06-01", "--input", "SP", "-v", "--color", "FXB"].map String.toList) =
        run Timing.unmeasured { Environment.quiet with trace := true }
          (["-v", "--color", "-d", "2024-06-01", "--input", "SP", "FXB"].map String.toList) ∧
      (run Timing.unmeasured { Environment.quiet with trace := true }
          (["-v", "--color", "-d", "2024-06-01", "--input", "SP", "FXB"].map
            String.toList)).stderr =
        "error: input provided multiple times\n".toList := by
  have perm : List.Perm ([.set (.departure .short "2024-06-01".toList
      (some ⟨2024, 6, 1, by decide⟩) rfl), .input .long "SP".toList] ++
        [.verbose false, .set (.color true)] : List Directive)
      ([.verbose false, .set (.color true)] ++ [.set (.departure .short "2024-06-01".toList
        (some ⟨2024, 6, 1, by decide⟩) rfl), .input .long "SP".toList]) := List.perm_append_comm
  have reordered := run_reordered Timing.unmeasured
    { Environment.quiet with trace := true } perm rfl rfl ["FXB".toList]
  refine ⟨perm, reordered.1, ?_⟩
  decide +kernel

end Command
end Shorthand
