import Mathlib.Data.List.Nodup
import Mathlib.Data.List.Perm.Basic
import Shorthand.Proofs.Entry.FirstMatch
import Shorthand.Proofs.Text.Acceptance

/-! Where the order of a table matters. Two rules whose patterns begin with words that
differ in a letter never match one line, so only the pairs that are left are contested.
A rule takes exactly the lines that it accepts and none of its rivals does, and any
order of the rules that leaves the contested pairs in place gives the same outcomes. In
the standard table these are three pairs, and each of them is needed. -/
namespace Shorthand

/-- No character is admitted by both letters. -/
def CharClass.apart : CharClass → CharClass → Bool
  | .letter c, .letter d => Letter.fold c != Letter.fold d
  | _, _ => false

theorem CharClass.apart_eq_false {k l : CharClass} {c : Char} (first : k.admits c = true)
    (second : l.admits c = true) : k.apart l = false := by
  cases k <;> cases l <;> simp_all [apart, admits, Letter.agrees]

/-- The words at the front of the patterns differ in one of their letters. -/
def Pattern.parted : Pattern → Pattern → Bool
  | .exactly ks :: _, .exactly ls :: _ => (ks.zip ls).any fun pair => pair.1.apart pair.2
  | _, _ => false

theorem zip_apart_eq_false {ks ls : List CharClass} {a b x y : Text} (first : Fits ks a)
    (second : Fits ls b) (same : a ++ x = b ++ y) :
    ((ks.zip ls).any fun pair => pair.1.apart pair.2) = false := by
  induction first generalizing ls b with
  | nil => rfl
  | cons admitted _ ih =>
    cases second with
    | nil => rfl
    | cons admitted' others' =>
      rw [List.cons_append, List.cons_append, List.cons.injEq] at same
      obtain ⟨rfl, rest⟩ := same
      rw [List.zip_cons_cons, List.any_cons, CharClass.apart_eq_false admitted admitted',
        ih others' rest]
      rfl

/-- Patterns that accept one text do not begin with different words. -/
theorem Pattern.parted_eq_false {p q : Pattern} {t : Text} (first : p.Accepts t)
    (second : q.Accepts t) : p.parted q = false := by
  unfold parted
  split
  · obtain ⟨a, x, rfl, fits, _⟩ := accepts_exactly_iff.mp first
    obtain ⟨b, y, same, fits', _⟩ := accepts_exactly_iff.mp second
    exact zip_apart_eq_false fits fits' same
  · rfl

namespace Table

/-- One rule stands before another. -/
def Precedes (table : Table) (first second : Rule) : Prop := [first, second].Sublist table

instance (table : Table) (first second : Rule) : Decidable (table.Precedes first second) :=
  inferInstanceAs (Decidable (List.Sublist _ _))

theorem precedes_cons_iff {rule first second : Rule} {rules : Table} :
    Precedes (rule :: rules) first second ↔
      rules.Precedes first second ∨ (first = rule ∧ second ∈ rules) := by
  rw [Precedes, List.cons_sublist_cons', List.singleton_sublist, Precedes]

theorem precedes_of_mem_left {earlier later : Table} {rule other : Rule}
    (member : other ∈ earlier) :
    Precedes (earlier ++ rule :: later) other rule := by
  have inFront : [other].Sublist earlier := List.singleton_sublist.mpr member
  have behind : [rule].Sublist (rule :: later) := List.singleton_sublist.mpr (by simp)
  exact inFront.append behind

theorem precedes_of_mem_right {earlier later : Table} {rule other : Rule} (member : other ∈ later) :
    Precedes (earlier ++ rule :: later) rule other := by
  have behind : [rule, other].Sublist (rule :: later) :=
    (List.singleton_sublist.mpr member).cons_cons rule
  exact behind.trans (List.sublist_append_right ..)

theorem Precedes.asymm {table : Table} {first second : Rule} (once : table.Nodup)
    (order : table.Precedes first second) : ¬ table.Precedes second first := by
  intro converse
  have swapped : [first, second].Perm [second, first] := .swap ..
  have same := (List.Nodup.perm_iff_eq_of_sublist once order converse).mp swapped
  have apart := List.Nodup.sublist order once
  cases same
  simp at apart

/-- The pairs of rules, an earlier one before a later one, that may match one line. -/
def contested : Table → List (Rule × Rule)
  | [] => []
  | rule :: rules =>
    (rules.filter fun other => !rule.pattern.parted other.pattern).map (rule, ·) ++ contested rules

theorem mem_contested_iff {table : Table} {first second : Rule} :
    (first, second) ∈ table.contested ↔
      table.Precedes first second ∧ first.pattern.parted second.pattern = false := by
  induction table with
  | nil => simp [contested, Precedes]
  | cons rule rules ih =>
    rw [contested, List.mem_append, ih, precedes_cons_iff]
    simp only [List.mem_map, List.mem_filter, Bool.not_eq_true', Prod.mk.injEq]
    constructor
    · rintro (⟨_, ⟨member, free⟩, rfl, rfl⟩ | ⟨order, free⟩)
      · exact ⟨Or.inr ⟨rfl, member⟩, free⟩
      · exact ⟨Or.inl order, free⟩
    · rintro ⟨order | ⟨rfl, member⟩, free⟩
      · exact Or.inr ⟨order, free⟩
      · exact Or.inl ⟨_, ⟨member, free⟩, rfl, rfl⟩

/-- A rule that decides stands before every other rule that accepts the line. -/
theorem Decides.precedes {table : Table} {line : Text} {rule other : Rule} {found : Match}
    (decides : table.Decides line rule found) (member : other ∈ table)
    (accepts : other.pattern.Accepts line) : other = rule ∨ table.Precedes rule other := by
  obtain ⟨earlier, later, rfl, refused, _⟩ := decides
  rcases List.mem_append.mp member with inFront | behind
  · exact absurd accepts (Pattern.match?_eq_none_iff.mp (refused other inFront))
  · rcases List.mem_cons.mp behind with same | after
    · exact Or.inl same
    · exact Or.inr (precedes_of_mem_right after)

/-- No rule in front of a rule that decides accepts the line. -/
theorem Decides.not_accepts {table : Table} {line : Text} {rule other : Rule} {found : Match}
    (decides : table.Decides line rule found) (once : table.Nodup)
    (order : table.Precedes other rule) : ¬ other.pattern.Accepts line := by
  intro accepts
  have member : other ∈ table := order.subset (by simp)
  rcases decides.precedes member accepts with rfl | converse
  · exact order.asymm once order
  · exact order.asymm once converse

/-- The earlier rules that may match a line of this rule. -/
def rivals (table : Table) (rule : Rule) : List Rule :=
  (table.contested.filter fun pair => pair.2 = rule).map Prod.fst

theorem mem_rivals_iff {table : Table} {rule other : Rule} :
    other ∈ table.rivals rule ↔
      table.Precedes other rule ∧ other.pattern.parted rule.pattern = false := by
  rw [← mem_contested_iff]
  simp [rivals]

/-- A rule decides about the lines that it accepts and none of its rivals does. -/
theorem exists_decides_iff {table : Table} {line : Text} {rule : Rule} (once : table.Nodup)
    (member : rule ∈ table) : (∃ found, table.Decides line rule found) ↔
      rule.pattern.Accepts line ∧ ∀ other ∈ table.rivals rule, ¬ other.pattern.Accepts line := by
  constructor
  · rintro ⟨found, decides⟩
    exact ⟨⟨found, decides.matched⟩, fun other rival =>
      decides.not_accepts once (mem_rivals_iff.mp rival).1⟩
  · rintro ⟨accepts, unrivalled⟩
    rcases table.unmatched_or_decides line with refused | ⟨first, found, decides⟩
    · exact absurd accepts (Pattern.match?_eq_none_iff.mp (refused rule member))
    · have accepted : first.pattern.Accepts line := ⟨found, decides.matched⟩
      rcases decides.precedes member accepts with rfl | order
      · exact ⟨found, decides⟩
      · have free := Pattern.parted_eq_false accepted accepts
        exact absurd accepted (unrivalled first (mem_rivals_iff.mpr ⟨order, free⟩))

/-- The outcome names a rule exactly when the line is left to that rule. -/
theorem rule?_apply_iff_left {table : Table} {context : Context} {line : Text} {name : String}
    (once : table.Nodup) : (table.apply context line).rule? = some name ↔
      ∃ rule ∈ table, rule.name = name ∧ rule.pattern.Accepts line ∧
        ∀ other ∈ table.rivals rule, ¬ other.pattern.Accepts line := by
  rw [rule?_apply_eq_some_iff]
  constructor
  · rintro ⟨rule, found, decides, named⟩
    exact ⟨rule, decides.mem, named, (exists_decides_iff once decides.mem).mp ⟨found, decides⟩⟩
  · rintro ⟨rule, member, named, left⟩
    obtain ⟨found, decides⟩ := (exists_decides_iff once member).mpr left
    exact ⟨rule, found, decides, named⟩

/-- Rules that keep their contested pairs in order give the same outcomes. -/
theorem apply_of_perm {table permuted : Table} (once : table.Nodup) (permutes : permuted.Perm table)
    (kept : ∀ pair ∈ table.contested, permuted.Precedes pair.1 pair.2) (context : Context)
    (line : Text) : permuted.apply context line = table.apply context line := by
  rcases table.unmatched_or_decides line with refused | ⟨rule, found, decides⟩
  · rw [apply_of_unmatched context refused, apply_of_unmatched context fun rule member =>
      refused rule (permutes.mem_iff.mp member)]
  · have once' : permuted.Nodup := permutes.nodup_iff.mpr once
    obtain ⟨earlier, later, whole⟩ := List.append_of_mem (permutes.mem_iff.mpr decides.mem)
    have refused : ∀ other ∈ earlier, other.pattern.match? line = none := by
      intro other inFront
      refine Pattern.match?_eq_none_iff.mpr fun accepts => ?_
      have order : permuted.Precedes other rule := whole ▸ precedes_of_mem_left inFront
      have member : other ∈ table := permutes.mem_iff.mp (order.subset (by simp))
      rcases decides.precedes member accepts with rfl | before
      · exact order.asymm once' order
      · have free := Pattern.parted_eq_false ⟨found, decides.matched⟩ accepts
        exact order.asymm once' (kept (rule, other) (mem_contested_iff.mpr ⟨before, free⟩))
    rw [apply_of_decides context decides,
      apply_of_decides context ⟨earlier, later, whole, refused, decides.matched⟩]

/-- Where no two rules share a name, the rule that is named for a line decides about it. -/
theorem exists_decides_of_rule?_apply {table : Table} {context : Context} {line : Text}
    {rule : Rule} (once : table.names.Nodup) (member : rule ∈ table)
    (named : (table.apply context line).rule? = some rule.name) :
    ∃ found, table.Decides line rule found := by
  obtain ⟨other, found, decides, same⟩ := rule?_apply_eq_some_iff.mp named
  obtain rfl := List.inj_on_of_nodup_map once decides.mem member same
  exact ⟨found, decides⟩

/-- The rule that is named for a line has every other rule that accepts the line behind it. -/
theorem precedes_of_rule?_apply {table : Table} {context : Context} {line : Text}
    {first second : Rule} (once : table.names.Nodup)
    (named : (table.apply context line).rule? = some first.name) (one : first ∈ table)
    (two : second ∈ table) (apart : second ≠ first) (accepts : second.pattern.Accepts line) :
    table.Precedes first second := by
  obtain ⟨_, decides⟩ := exists_decides_of_rule?_apply once one named
  exact (decides.precedes two accepts).resolve_left apart

/-- The pairs of the standard table whose order matters. -/
theorem contested_standard : Table.standard.contested =
    [(.child, .leadingCode "NM1" ['-']), (.availabilityWithAirline, .leadingCode "AN" ['1']),
      (.retrieveWithText, .retrieve)] := by
  decide +kernel

theorem nodup_names_standard : Table.standard.names.Nodup := by decide

theorem nodup_standard : Table.standard.Nodup := List.Nodup.of_map Rule.name nodup_names_standard

/-- The order of the standard rules matters for three pairs and for no others: a
permutation of the table gives the same outcomes for all lines exactly when it leaves
the child record above the name record, availability with an airline above availability,
and a retrieval with text above a bare one. -/
theorem outcomes_of_permuted_iff {permuted : Table} (permutes : permuted.Perm Table.standard) :
    (∀ context line, permuted.apply context line = Table.standard.apply context line) ↔
      permuted.Precedes .child (.leadingCode "NM1" ['-']) ∧
        permuted.Precedes .availabilityWithAirline (.leadingCode "AN" ['1']) ∧
          permuted.Precedes .retrieveWithText .retrieve := by
  constructor
  · intro same
    have once : permuted.names.Nodup :=
      (permutes.map Rule.name).nodup_iff.mpr nodup_names_standard
    -- A line that both rules accept shows which of them comes first.
    have ordered : ∀ {context : Context} {line : Text} {first second : Rule},
        (Table.standard.apply context line).rule? = some first.name → first ∈ Table.standard →
          second ∈ Table.standard → second ≠ first →
            (second.pattern.match? line).isSome = true → permuted.Precedes first second := by
      intro context line first second named one two apart accepts
      rw [← same] at named
      exact precedes_of_rule?_apply once named (permutes.mem_iff.mpr one)
        (permutes.mem_iff.mpr two) apart (Option.isSome_iff_exists.mp accepts)
    refine ⟨?_, ?_, ?_⟩
    · exact @ordered ⟨none, ⟨2026, 1, 1, by decide⟩⟩ "NM1A MR(CHD/01JAN15)".toList .child
        (.leadingCode "NM1" ['-']) (by decide +kernel) (by decide) (by decide) (by decide)
        (by decide +kernel)
    · exact @ordered ⟨none, ⟨2026, 1, 1, by decide⟩⟩ "AN/A".toList .availabilityWithAirline
        (.leadingCode "AN" ['1']) (by decide +kernel) (by decide) (by decide) (by decide)
        (by decide +kernel)
    · exact @ordered ⟨none, ⟨2026, 1, 1, by decide⟩⟩ "RT/".toList .retrieveWithText .retrieve
        (by decide +kernel) (by decide) (by decide) (by decide) (by decide +kernel)
  · rintro ⟨children, airlines, retrievals⟩
    refine apply_of_perm nodup_standard permutes ?_
    simpa [contested_standard] using ⟨children, airlines, retrievals⟩

/-- Another order that keeps the three pairs gives the same outcomes, and the order from
the bottom to the top does not. -/
theorem outcomes_of_shuffled_and_reversed :
    (∀ context line, Table.apply context line
        [.retrieveWithText, .leadingCode "SS" ['0'], .child, .leadingCode "NM1" ['-'],
          .availabilityWithAirline, .leadingCode "AN" ['1'], .wholeEntry "SP" ['D'],
          .wholeEntry "ER" ['*', 'R', 'R'], .wholeEntry "FXP/R,U" ['W', 'P', 'A'],
          .wholeEntry "FXB" ['W', 'P', 'N', 'C', 'B'], .wholeEntry "APM-SEL" ['9', 'T', '*'],
          .wholeEntry "APE" ['9', 'E', '*'], .retrieve, .infant] =
      Table.standard.apply context line) ∧
    ¬ ∀ context line, Table.apply context line Table.standard.reverse =
      Table.standard.apply context line := by
  constructor
  · exact (outcomes_of_permuted_iff (by decide +kernel)).mpr (by decide +kernel)
  · exact (outcomes_of_permuted_iff (List.reverse_perm _)).not.mpr (by decide +kernel)

end Table
end Shorthand
