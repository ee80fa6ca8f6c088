import Mathlib.Tactic.Conv
import Shorthand.Command.Options

/-! What an argument says in the place of an option is settled by how it is spelled: in one of the
fixed spellings, as the name of a valued option with an equals sign and a value, as an option that
there is not, or as a plain word. The name of the option may be repeated before the value, and
repetitions are all that is dropped. -/
namespace Shorthand.Argument

theorem dropRepeated_of_not_prefix {word t : Text} (other : ¬ word <+: t) :
    dropRepeated word t = t := by
  rw [dropRepeated, dif_neg]
  exact fun starts => other (List.isPrefixOf_iff_prefix.mp starts.2)

theorem dropRepeated_append {word : Text} (nonempty : word ≠ []) (t : Text) :
    dropRepeated word (word ++ t) = dropRepeated word t := by
  conv_lhs => rw [dropRepeated]
  rw [dif_pos ⟨nonempty, List.isPrefixOf_iff_prefix.mpr (List.prefix_append word t)⟩,
    List.drop_left]

/-- The repetitions are dropped from in front of a text that does not begin with the word. -/
theorem dropRepeated_replicate {word t : Text} (nonempty : word ≠ []) (other : ¬ word <+: t)
    (n : Nat) : dropRepeated word ((List.replicate n word).flatten ++ t) = t := by
  induction n with
  | zero => exact dropRepeated_of_not_prefix other
  | succ n ih =>
    rw [List.replicate_succ, List.flatten_cons, List.append_assoc, dropRepeated_append nonempty, ih]

/-- Repetitions of the word are all that is dropped. -/
theorem exists_replicate_append_dropRepeated (word t : Text) :
    ∃ n, t = (List.replicate n word).flatten ++ dropRepeated word t := by
  induction t using dropRepeated.induct word with
  | case1 t starts shorter ih =>
    obtain ⟨n, rest⟩ := ih
    obtain ⟨t', rfl⟩ := List.isPrefixOf_iff_prefix.mp starts.2
    rw [List.drop_left] at rest
    refine ⟨n + 1, ?_⟩
    rw [dropRepeated_append starts.1, List.replicate_succ, List.flatten_cons, List.append_assoc,
      ← rest]
  | case2 t other =>
    refine ⟨0, ?_⟩
    rw [dropRepeated, dif_neg other]
    rfl

theorem lookup_of_unlisted {argument : Text} (unlisted : ∀ known ∈ spellings, argument ≠ known.1) :
    spellings.lookup argument = none := by
  rw [List.lookup_eq_none_iff]
  intro known member
  exact bne_iff_ne.mpr (unlisted known member)

/-- An argument that begins like none of the fixed spellings is none of them. -/
theorem lookup_of_prefix {word argument : Text} (unlike : ∀ known ∈ spellings, ¬ word <+: known.1)
    (starts : word <+: argument) : spellings.lookup argument = none := by
  refine lookup_of_unlisted fun known member same => ?_
  exact unlike known member (same ▸ starts)

/-- A word that begins with the name of the option and an equals sign has one meaning. -/
theorem ofText_of_prefix {argument : Text} (starts : "--departure=".toList <+: argument) :
    ofText argument = .departureIs (dropRepeated "--departure=".toList argument) := by
  rw [ofText, lookup_of_prefix (by decide) starts]
  exact if_pos (List.isPrefixOf_iff_prefix.mpr starts)

/-- An option that there is not. -/
structure Unknown (argument : Text) : Prop where
  dashed : ['-'] <+: argument
  unlisted : ∀ known ∈ spellings, argument ≠ known.1
  undated : ¬ "--departure=".toList <+: argument
  unnamed : ¬ "--input=".toList <+: argument

/-- What an argument means, by its spelling. -/
inductive Means : Text → Argument → Prop where
  | listed {argument : Text} {meaning : Argument} (listed : (argument, meaning) ∈ spellings) :
      Means argument meaning
  | departureIs {value read : Text} (cut : dropRepeated "--departure=".toList value = read) :
      Means ("--departure=".toList ++ value) (.departureIs read)
  | inputIs {value read : Text} (cut : dropRepeated "--input=".toList value = read) :
      Means ("--input=".toList ++ value) (.inputIs read)
  | unknown {argument : Text} (unknown : Unknown argument) : Means argument .unknownOption
  | word {argument : Text} (plain : ¬ ['-'] <+: argument) : Means argument .word

theorem ofText_input (value : Text) : ofText ("--input=".toList ++ value) =
    .inputIs (dropRepeated "--input=".toList value) := by
  have starts : "--input=".toList <+: "--input=".toList ++ value := List.prefix_append ..
  have undated : "--departure=".toList.isPrefixOf ("--input=".toList ++ value) = false := rfl
  have named : "--input=".toList ≠ [] := by decide
  rw [← dropRepeated_append named value, ofText,
    lookup_of_prefix (by decide) starts]
  exact (if_neg (Bool.eq_false_iff.mp undated)).trans
    (if_pos (List.isPrefixOf_iff_prefix.mpr starts))

theorem ofText_of_unknown {argument : Text} (unknown : Unknown argument) :
    ofText argument = .unknownOption := by
  obtain ⟨dashed, unlisted, undated, unnamed⟩ := unknown
  rw [← List.isPrefixOf_iff_prefix] at dashed undated unnamed
  rw [ofText, lookup_of_unlisted unlisted]
  exact (if_neg undated).trans ((if_neg unnamed).trans (if_pos dashed))

theorem ofText_of_plain {argument : Text} (plain : ¬ ['-'] <+: argument) :
    ofText argument = .word := by
  have unlisted : ∀ known ∈ spellings, argument ≠ known.1 := by
    have dashed : ∀ known ∈ spellings, ['-'] <+: known.1 := by decide
    rintro known member rfl
    exact plain (dashed known member)
  have other : ∀ {word : Text}, ['-'] <+: word → ¬ word.isPrefixOf argument = true :=
    fun dashed starts => plain (dashed.trans (List.isPrefixOf_iff_prefix.mp starts))
  rw [ofText, lookup_of_unlisted unlisted]
  exact (if_neg (other (List.prefix_append ['-'] _))).trans
    ((if_neg (other (List.prefix_append ['-'] _))).trans (if_neg (other List.prefix_rfl)))

/-- Every argument is spelled in one of the ways. -/
theorem exists_means (argument : Text) : ∃ meaning, Means argument meaning := by
  by_cases dashed : ['-'] <+: argument
  · by_cases listed : ∃ known ∈ spellings, argument = known.1
    · obtain ⟨known, member, rfl⟩ := listed
      exact ⟨known.2, .listed member⟩
    by_cases dated : "--departure=".toList <+: argument
    · obtain ⟨value, rfl⟩ := dated
      exact ⟨_, .departureIs rfl⟩
    by_cases named : "--input=".toList <+: argument
    · obtain ⟨value, rfl⟩ := named
      exact ⟨_, .inputIs rfl⟩
    have unlisted : ∀ known ∈ spellings, argument ≠ known.1 :=
      fun known member same => listed ⟨known, member, same⟩
    exact ⟨_, .unknown ⟨dashed, unlisted, dated, named⟩⟩
  · exact ⟨_, .word dashed⟩

/-- An argument has the meaning that its spelling gives it, and no other. -/
theorem means_iff {argument : Text} {meaning : Argument} :
    Means argument meaning ↔ ofText argument = meaning := by
  have read : ∀ {meaning}, Means argument meaning → ofText argument = meaning := by
    intro meaning means
    cases means with
    | listed listed =>
      have all : ∀ known ∈ spellings, ofText known.1 = known.2 := by decide
      exact all _ listed
    | departureIs cut =>
      have named : "--departure=".toList ≠ [] := by decide
      rw [← cut, ← dropRepeated_append named]
      exact ofText_of_prefix (List.prefix_append ..)
    | inputIs cut => rw [ofText_input, cut]
    | unknown unknown => exact ofText_of_unknown unknown
    | word plain => exact ofText_of_plain plain
  refine ⟨read, fun same => ?_⟩
  obtain ⟨meaning', means⟩ := exists_means argument
  rw [← same, read means]
  exact means

/-- The fixed spellings of a meaning. -/
def spellingsOf (meaning : Argument) : List Text :=
  (spellings.filter fun known => known.2 = meaning).map Prod.fst

/-- What has fixed spellings is spelled in one of these. -/
theorem Means.mem_spellingsOf {argument : Text} {meaning : Argument}
    (means : Means argument meaning) (fixed : meaning ∈ spellings.map Prod.snd) :
    argument ∈ spellingsOf meaning := by
  cases means with
  | listed listed => exact List.mem_map.mpr ⟨_, List.mem_filter.mpr ⟨listed, by simp⟩, rfl⟩
  | departureIs | inputIs | unknown | word => simp [spellings] at fixed

/-- Nothing that begins with a hyphen is a word of the entry, where an option is due. -/
theorem Means.plain {argument : Text} (means : Means argument .word) : ¬ ['-'] <+: argument := by
  cases means with
  | listed listed => simp [spellings] at listed
  | word plain => exact plain

theorem Means.isUnknown {argument : Text} (means : Means argument .unknownOption) :
    Unknown argument := by
  cases means with
  | listed listed => simp [spellings] at listed
  | unknown unknown => exact unknown

/-- The name of the option, up to the equals sign, and the value that is read, of an argument
that joins the two. -/
def joined? : Argument → Option (Text × Text)
  | .departureIs read => some ("--departure=".toList, read)
  | .inputIs read => some ("--input=".toList, read)
  | _ => none

/-- Behind the name stands a value that is read without the repetitions of the name. -/
theorem Means.exists_joined {argument name read : Text} {meaning : Argument}
    (means : Means argument meaning) (joins : meaning.joined? = some (name, read)) :
    ∃ value, argument = name ++ value ∧ dropRepeated name value = read := by
  cases means with
  | listed listed =>
    have apart : ∀ known ∈ spellings, known.2.joined? = none := by decide
    cases (apart _ listed).symm.trans joins
  | departureIs cut | inputIs cut =>
    cases joins
    exact ⟨_, rfl, cut⟩
  | unknown | word => cases joins

end Shorthand.Argument
