import Shorthand.Proofs.Entry.Grammar

/-! Rules that replace a word in front of an entry and keep what stands behind it. The pattern
looks no further than the end of the first line, but the lines after it are left over by the match
and put back, and a template copies its parts without reading them. So all the text behind the
word comes out as it was, whatever characters it has, and can be told from the output. -/
namespace Shorthand

namespace Rule

/-- The rule replaces a word by its counterpart and keeps the text behind it. -/
structure Keeps (rule : Rule) (word : String) (counterpart : Text) : Prop where
  plain : word.toList.all Letter.isPlain = true
  pattern : rule.pattern = [.word word, .longest]
  action : rule.action = .template [.fixed counterpart, .part 1]
  undemanding : rule.needsDeparture = false

variable {rule : Rule} {word : String} {counterpart : Text}

theorem keeps_leadingCode (plain : word.toList.all Letter.isPlain = true) :
    (leadingCode word counterpart).Keeps word counterpart :=
  ⟨plain, rfl, rfl, rfl⟩

theorem keeps_retrieveWithText : retrieveWithText.Keeps "RT/" ['*', '-', ' '] :=
  ⟨rfl, rfl, rfl, rfl⟩

/-- What is found is the word, and the rest of its line in front of all that follows. -/
theorem Keeps.cut_of_match {line : Text} {found : Match} (keeps : rule.Keeps word counterpart)
    (matched : rule.pattern.match? line = some found) :
    ∃ spelling shown rest, line = spelling ++ (shown ++ rest) ∧
      Text.Spells word.toList spelling ∧ found = ⟨[spelling, shown], rest⟩ := by
  rw [keeps.pattern] at matched
  obtain ⟨spelling, _, _, rfl, spells, further, rfl⟩ :=
    (Pattern.match?_word_iff keeps.plain).mp matched
  obtain ⟨shown, rest, rfl, rfl⟩ := Pattern.append_of_match?_longest further
  exact ⟨spelling, shown, rest, rfl, spells, rfl⟩

/-- An entry is shown with the counterpart in place of its word. -/
theorem Keeps.outcome_of_match {line : Text} {found : Match} (keeps : rule.Keeps word counterpart)
    (matched : rule.pattern.match? line = some found) (context : Context) :
    ∃ spelling behind, line = spelling ++ behind ∧ Text.Spells word.toList spelling ∧
      rule.outcome context line found = .translated rule.name (counterpart ++ behind) := by
  obtain ⟨spelling, shown, rest, whole, spells, rfl⟩ := keeps.cut_of_match matched
  refine ⟨spelling, shown ++ rest, whole, spells, ?_⟩
  rw [outcome_template keeps.undemanding keeps.action]
  simp [Slot.fill]

end Rule

namespace Table

variable {rule : Rule} {word : String} {counterpart : Text}

/-- A line of a rule that keeps its text is shown with the counterpart in place of the word. -/
theorem exists_apply_of_keeps {line : Text} (member : rule ∈ Table.standard)
    (keeps : rule.Keeps word counterpart) (takes : Takes line rule.name) (context : Context) :
    ∃ spelling behind, line = spelling ++ behind ∧ Text.Spells word.toList spelling ∧
      Table.standard.apply context line = .translated rule.name (counterpart ++ behind) := by
  obtain ⟨found, matched, outcome⟩ := @exists_outcome_of_takes context line rule member takes
  rw [outcome]
  exact keeps.outcome_of_match matched context

theorem apply_of_keeps {spelling behind : Text} (member : rule ∈ Table.standard)
    (keeps : rule.Keeps word counterpart) (spells : Text.Spells word.toList spelling)
    (takes : Takes (spelling ++ behind) rule.name) (context : Context) :
    Table.standard.apply context (spelling ++ behind) =
      .translated rule.name (counterpart ++ behind) := by
  obtain ⟨spelling', behind', same, spells', shown⟩ :=
    exists_apply_of_keeps member keeps takes context
  obtain ⟨rfl, rfl⟩ := spells.append_inj spells' same
  exact shown

/-- Lines that such a rule shows alike have the same text behind the word. -/
theorem same_behind_of_same_text {context context' : Context} {line line' : Text}
    (member : rule ∈ Table.standard) (keeps : rule.Keeps word counterpart)
    (taken : (Table.standard.apply context line).rule? = some rule.name)
    (taken' : (Table.standard.apply context' line').rule? = some rule.name)
    (same : (Table.standard.apply context line).text =
      (Table.standard.apply context' line').text) :
    ∃ spelling spelling' behind, line = spelling ++ behind ∧ line' = spelling' ++ behind ∧
      Text.Spells word.toList spelling ∧ Text.Spells word.toList spelling' := by
  obtain ⟨spelling, behind, whole, spells, shown⟩ :=
    exists_apply_of_keeps member keeps (rule?_apply_iff_takes.mp taken) context
  obtain ⟨spelling', behind', whole', spells', shown'⟩ :=
    exists_apply_of_keeps member keeps (rule?_apply_iff_takes.mp taken') context'
  rw [shown, shown'] at same
  obtain rfl : behind = behind' := List.append_cancel_left same
  exact ⟨spelling, spelling', behind, whole, whole', spells, spells'⟩

/-- A sale, a retrieval with text and a name record that is no child are shown with another word
in front and all the text behind it as it was, any character included. So of two lines that one
of these rules shows alike, the text behind the word is the same. -/
theorem apply_leading_word (context : Context) (s : Text) :
    (∀ sale, Text.Spells "SS".toList sale →
      Table.standard.apply context (sale ++ s) = .translated "SS" ('0' :: s)) ∧
    (∀ retrieval, Text.Spells "RT/".toList retrieval →
      Table.standard.apply context (retrieval ++ s) =
        .translated "RT/text" ('*' :: '-' :: ' ' :: s)) ∧
    (∀ record, Text.Spells "NM1".toList record →
      Rule.child.pattern.match? (record ++ s) = none →
        Table.standard.apply context (record ++ s) = .translated "NM1" ('-' :: s)) ∧
    ∀ name word, (name, word) ∈ [("SS", "SS"), ("RT/text", "RT/"), ("NM1", "NM1")] →
      ∀ (context' : Context) (line line' : Text),
        (Table.standard.apply context line).rule? = some name →
        (Table.standard.apply context' line').rule? = some name →
        (Table.standard.apply context line).text = (Table.standard.apply context' line').text →
          ∃ spelling spelling' behind, line = spelling ++ behind ∧ line' = spelling' ++ behind ∧
            Text.Spells word.toList spelling ∧ Text.Spells word.toList spelling' := by
  have sells : (Rule.leadingCode "SS" ['0']).Keeps "SS" ['0'] := Rule.keeps_leadingCode rfl
  have records : (Rule.leadingCode "NM1" ['-']).Keeps "NM1" ['-'] := Rule.keeps_leadingCode rfl
  refine ⟨?_, ?_, ?_, ?_⟩
  · intro sale spells
    exact apply_of_keeps (by decide) sells spells (.sell ⟨sale, s, rfl, spells⟩) context
  · intro retrieval spells
    exact apply_of_keeps (by decide) Rule.keeps_retrieveWithText spells
      (.retrieveWithText ⟨retrieval, s, rfl, spells⟩) context
  · intro record spells childless
    have plain : ¬ IsChildEntry (record ++ s) :=
      Rule.accepts_child_iff.not.mp (Pattern.match?_eq_none_iff.mp childless)
    exact apply_of_keeps (by decide) records spells
      (.nameRecord ⟨record, s, rfl, spells⟩ plain) context
  · intro name word among context' line line' taken taken' same
    simp only [List.mem_cons, Prod.mk.injEq, List.not_mem_nil, or_false] at among
    rcases among with ⟨rfl, rfl⟩ | ⟨rfl, rfl⟩ | ⟨rfl, rfl⟩
    · exact same_behind_of_same_text (by decide) sells taken taken' same
    · exact same_behind_of_same_text (by decide) Rule.keeps_retrieveWithText taken taken' same
    · exact same_behind_of_same_text (by decide) records taken taken' same

/-- Text that reads like a template, with a newline and a section sign in it, comes out as it
went in behind a long s, and so does the beginning of a child behind a name record. Only the
spelling of the word is lost. -/
theorem apply_leading_word_of_template :
    Text.Spells "SS".toList "Sſ".toList ∧ Text.Spells "RT/".toList "rT/".toList ∧
      Text.Spells "NM1".toList "nM1".toList ∧
      Rule.child.pattern.match? ("nM1".toList ++ "$0 MR\n(CHD/01JAN1§".toList) = none ∧
      ∀ context,
        Table.standard.apply context ("Sſ".toList ++ "$1$$§\n$\x7b1\x7d".toList) =
          .translated "SS" ('0' :: "$1$$§\n$\x7b1\x7d".toList) ∧
        Table.standard.apply context ("rT/".toList ++ "$1$$§\n$\x7b1\x7d".toList) =
          .translated "RT/text" ('*' :: '-' :: ' ' :: "$1$$§\n$\x7b1\x7d".toList) ∧
        Table.standard.apply context ("nM1".toList ++ "$0 MR\n(CHD/01JAN1§".toList) =
          .translated "NM1" ('-' :: "$0 MR\n(CHD/01JAN1§".toList) ∧
        ∃ spelling spelling' behind,
          "Sſ".toList ++ "$1$$§\n$\x7b1\x7d".toList = spelling ++ behind ∧
            "ss".toList ++ "$1$$§\n$\x7b1\x7d".toList = spelling' ++ behind ∧
              Text.Spells "SS".toList spelling ∧ Text.Spells "SS".toList spelling' := by
  have sale : Text.Spells "SS".toList "Sſ".toList := by decide
  have retrieval : Text.Spells "RT/".toList "rT/".toList := by decide
  have record : Text.Spells "NM1".toList "nM1".toList := by decide
  have childless :
      Rule.child.pattern.match? ("nM1".toList ++ "$0 MR\n(CHD/01JAN1§".toList) = none := by
    decide +kernel
  refine ⟨sale, retrieval, record, childless, fun context => ?_⟩
  obtain ⟨sells, retrieves, _, behind⟩ := apply_leading_word context "$1$$§\n$\x7b1\x7d".toList
  have long := sells _ sale
  have short := sells "ss".toList (by decide)
  refine ⟨long, retrieves _ retrieval, (apply_leading_word context _).2.2.1 _ record childless, ?_⟩
  exact behind "SS" "SS" (by simp) context _ _ (congrArg Outcome.rule? long)
    (congrArg Outcome.rule? short) (congrArg Outcome.text (long.trans short.symm))

end Table
end Shorthand
