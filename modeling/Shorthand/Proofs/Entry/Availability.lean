import Shorthand.Proofs.Entry.LeadingWord

/-! Availability entries. An airline stands behind the last marker of the first line, and the
sign that takes the place of this marker is the only change behind the leading code: what stands
before the marker, what follows it, and all lines after the first are kept as they are. Without
a marker nothing is changed behind the code. -/
namespace Shorthand

namespace Text

/-- The text up to its first newline. -/
def firstLine (t : Text) : Text := t.takeWhile (· ≠ '\n')

/-- A word without a newline stands on the first line if no newline stands before it. -/
theorem mentions_firstLine_iff {word t : Text}
    (inline : ∀ spelling, Spells word spelling → '\n' ∉ spelling) :
    Mentions word t.firstLine ↔ ∃ front spelling back, t = front ++ (spelling ++ back) ∧
      '\n' ∉ front ∧ Spells word spelling := by
  have plain : '\n' ∉ t.firstLine := by
    intro member
    exact absurd (List.mem_takeWhile_imp member) (by decide)
  constructor
  · rintro ⟨spelling, spells, front, back, same⟩
    refine ⟨front, spelling, back ++ t.dropWhile (· ≠ '\n'), ?_, ?_, spells⟩
    · rw [← List.append_assoc, ← List.append_assoc, same]
      exact List.takeWhile_append_dropWhile.symm
    · intro member
      exact plain (same ▸ List.mem_append_left _ (List.mem_append_left _ member))
  · rintro ⟨front, spelling, back, rfl, frontInline, spells⟩
    refine ⟨spelling, spells, front, back.takeWhile (· ≠ '\n'), ?_⟩
    have kept : ∀ c ∈ front ++ spelling, decide (c ≠ '\n') = true := by
      intro c member
      rw [decide_eq_true_eq]
      rintro rfl
      exact (List.mem_append.mp member).elim frontInline (inline spelling spells)
    rw [firstLine, ← List.append_assoc, List.takeWhile_append_of_pos kept]

end Text

/-- The last airline marker of the first line, with what stands before and behind it. -/
structure IsLastMarker (t front marker back : Text) : Prop where
  whole : t = front ++ (marker ++ back)
  inline : '\n' ∉ front
  spells : Text.Spells "/A".toList marker
  last : ∀ longer other shorter, t = longer ++ (other ++ shorter) → '\n' ∉ longer →
    Text.Spells "/A".toList other → longer.length ≤ front.length

/-- A marker is a slash and an A in either case. -/
theorem spells_marker_iff {marker : Text} :
    Text.Spells "/A".toList marker ↔ marker = ['/', 'A'] ∨ marker = ['/', 'a'] := by
  constructor
  · intro spells
    obtain ⟨slash, _, first, others, rfl⟩ := List.forall₂_cons_left_iff.mp spells
    obtain ⟨a, _, second, none, rfl⟩ := List.forall₂_cons_left_iff.mp others
    obtain rfl := List.forall₂_nil_left_iff.mp none
    obtain rfl := (Letter.spells_iff_eq rfl).mp first
    rcases second with rfl | rfl | ⟨isS, _⟩ | ⟨isK, _⟩
    · exact Or.inl rfl
    · exact Or.inr rfl
    · cases isS
    · cases isK
  · rintro (rfl | rfl) <;> decide

theorem shape_of_spells_marker {marker : Text} (spells : Text.Spells "/A".toList marker) :
    ∃ a, marker = ['/', a] ∧ a ≠ '/' ∧ '\n' ∉ marker := by
  rcases spells_marker_iff.mp spells with rfl | rfl
  · exact ⟨'A', rfl, by decide, by decide⟩
  · exact ⟨'a', rfl, by decide, by decide⟩

theorem mentions_marker_iff {t : Text} : Text.Mentions "/A".toList t.firstLine ↔
    ∃ front marker back, t = front ++ (marker ++ back) ∧ '\n' ∉ front ∧
      Text.Spells "/A".toList marker :=
  Text.mentions_firstLine_iff fun _ spells => (shape_of_spells_marker spells).choose_spec.2.2

/-- There is at most one last marker. -/
theorem IsLastMarker.unique {t front marker back front' marker' back' : Text}
    (isLast : IsLastMarker t front marker back) (isLast' : IsLastMarker t front' marker' back') :
    front = front' ∧ back = back' := by
  have fewer := isLast.last front' marker' back' isLast'.whole isLast'.inline isLast'.spells
  have more := isLast'.last front marker back isLast.whole isLast.inline isLast.spells
  have same := isLast.whole.symm.trans isLast'.whole
  obtain ⟨rfl, behind⟩ := List.append_inj same (Nat.le_antisymm more fewer)
  exact ⟨rfl, (isLast.spells.append_inj isLast'.spells behind).2⟩

/-- A marker with none behind it on its line is the last one, since no two markers overlap. -/
theorem isLastMarker_of_unmarked {front marker back : Text} (inline : '\n' ∉ front)
    (spells : Text.Spells "/A".toList marker)
    (unmarked : ¬ Text.Mentions "/A".toList back.firstLine) :
    IsLastMarker (front ++ (marker ++ back)) front marker back := by
  refine ⟨rfl, inline, spells, fun longer other shorter same inline' spells' => ?_⟩
  by_contra more
  obtain ⟨a, rfl, noSlash, _⟩ := shape_of_spells_marker spells
  obtain ⟨b, rfl, _, _⟩ := shape_of_spells_marker spells'
  rcases List.append_eq_append_iff.mp same with ⟨middle, rfl, later⟩ | ⟨middle, rfl, _⟩
  · -- The other marker would begin with the A of the first one, or behind it.
    rcases middle with _ | ⟨_, _ | ⟨_, middle⟩⟩
    · simp at more
    · simp only [List.cons_append, List.nil_append, List.cons.injEq] at later
      exact noSlash later.2.1
    · simp only [List.cons_append, List.nil_append, List.cons.injEq] at later
      simp only [List.mem_append, List.mem_cons, not_or] at inline'
      exact unmarked (mentions_marker_iff.mpr
        ⟨middle, ['/', b], shorter, later.2.2, inline'.2.2.2, spells'⟩)
  · rw [List.length_append] at more
    omega

namespace Rule

/-- The pieces of the pattern behind the leading code. -/
def airlineMark : Pattern := [.longest, .word "/A", .longest]

/-- What is found behind the code ends with the last marker. -/
theorem isLastMarker_of_match {t : Text} {found : Match}
    (matched : airlineMark.match? t = some found) :
    ∃ front marker line rest, IsLastMarker t front marker (line ++ rest) ∧
      found = ⟨[front, marker, line], rest⟩ := by
  obtain ⟨front, _, _, rfl, inline, marked, last, rfl⟩ := Pattern.match?_longest_iff.mp matched
  obtain ⟨marker, _, _, rfl, spells, further, rfl⟩ := (Pattern.match?_word_iff rfl).mp marked
  obtain ⟨line, rest, rfl, rfl⟩ := Pattern.append_of_match?_longest further
  refine ⟨front, marker, line, rest, ⟨rfl, inline, spells, ?_⟩, rfl⟩
  intro longer other shorter same inline' spells'
  by_contra more
  have refused := last longer (other ++ shorter) same inline' (Nat.lt_of_not_le more)
  exact Pattern.match?_eq_none_iff.mp refused ((Pattern.accepts_word_iff rfl).mpr
    ⟨other, shorter, rfl, spells', Pattern.accepts_longest shorter⟩)

/-- An airline entry is shown with the sign in place of its last marker. -/
theorem outcome_airline {code s : Text} {found : Match} (spells : Text.Spells "AN".toList code)
    (matched : availabilityWithAirline.pattern.match? (code ++ s) = some found)
    (context : Context) :
    ∃ front marker back, IsLastMarker s front marker back ∧
      availabilityWithAirline.outcome context (code ++ s) found =
        .translated "AN/A" ('1' :: (front ++ '¤' :: back)) := by
  obtain ⟨code', s', _, same, spells', behind, rfl⟩ := (Pattern.match?_word_iff rfl).mp matched
  obtain ⟨rfl, rfl⟩ := spells.append_inj spells' same
  obtain ⟨front, marker, line, rest, isLast, rfl⟩ := isLastMarker_of_match behind
  refine ⟨front, marker, line ++ rest, isLast, ?_⟩
  rw [outcome_template rfl rfl]
  simp [Slot.fill, availabilityWithAirline]

end Rule

/-- Behind the leading code stands an airline exactly when the first line has a marker. -/
theorem isAirlineEntry_append_iff {code s : Text} (spells : Text.Spells "AN".toList code) :
    IsAirlineEntry (code ++ s) ↔ Text.Mentions "/A".toList s.firstLine := by
  rw [mentions_marker_iff]
  constructor
  · rintro ⟨code', front, marker, back, same, spells', inline, marks⟩
    obtain ⟨_, behind⟩ := spells.append_inj spells' same
    exact ⟨front, marker, back, behind, inline, marks⟩
  · rintro ⟨front, marker, back, rfl, inline, marks⟩
    exact ⟨code, front, marker, back, rfl, spells, inline, marks⟩

namespace Table

theorem apply_of_marked {code s : Text} (spells : Text.Spells "AN".toList code)
    (marked : Text.Mentions "/A".toList s.firstLine) (context : Context) :
    ∃ front marker back, IsLastMarker s front marker back ∧
      Table.standard.apply context (code ++ s) =
        .translated "AN/A" ('1' :: (front ++ '¤' :: back)) := by
  have form := (isAirlineEntry_append_iff spells).mpr marked
  obtain ⟨found, matched, outcome⟩ := @exists_outcome_of_takes context _
    .availabilityWithAirline (by decide) (.availabilityWithAirline form)
  rw [outcome]
  exact Rule.outcome_airline spells matched context

theorem apply_of_unmarked {code s : Text} (spells : Text.Spells "AN".toList code)
    (unmarked : ¬ Text.Mentions "/A".toList s.firstLine) (context : Context) :
    Table.standard.apply context (code ++ s) = .translated "AN" ('1' :: s) := by
  have keeps : (Rule.leadingCode "AN" ['1']).Keeps "AN" ['1'] := Rule.keeps_leadingCode rfl
  have form := (isAirlineEntry_append_iff spells).not.mpr unmarked
  exact apply_of_keeps (by decide) keeps spells (.availability ⟨code, s, rfl, spells⟩ form) context

/-- An availability entry is always translated. If its first line has an airline marker, the
last one there is replaced by the sign for an airline and all else behind the leading code is
kept, whatever follows the line. If not, everything behind the code is kept. -/
theorem apply_availability {code : Text} (spells : Text.Spells "AN".toList code)
    (context : Context) (s : Text) :
    (Text.Mentions "/A".toList s.firstLine →
      ∃ front marker back, IsLastMarker s front marker back ∧
        Table.standard.apply context (code ++ s) =
          .translated "AN/A" ('1' :: (front ++ '¤' :: back))) ∧
      (¬ Text.Mentions "/A".toList s.firstLine →
        Table.standard.apply context (code ++ s) = .translated "AN" ('1' :: s)) ∧
      ∀ front marker back, s = front ++ (marker ++ back) → '\n' ∉ front →
        Text.Spells "/A".toList marker → ¬ Text.Mentions "/A".toList back.firstLine →
          Table.standard.apply context (code ++ s) =
            .translated "AN/A" ('1' :: (front ++ '¤' :: back)) := by
  refine ⟨fun marked => apply_of_marked spells marked context,
    fun unmarked => apply_of_unmarked spells unmarked context, ?_⟩
  rintro front marker back rfl inline marks unmarked
  have marked := mentions_marker_iff.mpr ⟨front, marker, back, rfl, inline, marks⟩
  obtain ⟨_, _, _, isLast, shown⟩ := apply_of_marked spells marked context
  obtain ⟨rfl, rfl⟩ := (isLastMarker_of_unmarked inline marks unmarked).unique isLast
  exact shown

/-- Only the last of the two markers on the first line is replaced, and the one on the second
line is none of them. -/
theorem apply_availability_with_two_markers :
    Text.Spells "AN".toList "aN".toList ∧
      ¬ Text.Mentions "/A".toList (Text.firstLine "\n/ALH".toList) ∧
        ∀ context, Table.standard.apply context "aN20MAY/AKE/aKE\n/ALH".toList =
            .translated "AN/A" "120MAY/AKE¤KE\n/ALH".toList ∧
          Table.standard.apply context "aN\n/ALH".toList =
            .translated "AN" "1\n/ALH".toList := by
  have spells : Text.Spells "AN".toList "aN".toList := by decide
  have unmarked : ¬ Text.Mentions "/A".toList (Text.firstLine "\n/ALH".toList) := by
    decide +kernel
  refine ⟨spells, unmarked, fun context => ⟨?_, ?_⟩⟩
  · have shown := (apply_availability spells context "20MAY/AKE/aKE\n/ALH".toList).2.2
      "20MAY/AKE".toList "/a".toList "KE\n/ALH".toList (by decide +kernel) (by decide) (by decide)
      (by decide +kernel)
    have line : "aN".toList ++ "20MAY/AKE/aKE\n/ALH".toList = "aN20MAY/AKE/aKE\n/ALH".toList := by
      decide +kernel
    have output : '1' :: ("20MAY/AKE".toList ++ '¤' :: "KE\n/ALH".toList) =
        "120MAY/AKE¤KE\n/ALH".toList := by
      decide +kernel
    rwa [line, output] at shown
  · have shown := (apply_availability spells context "\n/ALH".toList).2.1 unmarked
    have line : "aN".toList ++ "\n/ALH".toList = "aN\n/ALH".toList := by decide +kernel
    have output : '1' :: "\n/ALH".toList = "1\n/ALH".toList := by decide +kernel
    rwa [line, output] at shown

end Table
end Shorthand
