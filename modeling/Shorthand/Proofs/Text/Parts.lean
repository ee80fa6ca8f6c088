import Shorthand.Text.Basic

/-! Parts of a text. Texts are put together with one character between them, and taken apart at
that character: there is one part more than there are separators, and every other character of the
whole stands in one of the parts. Or a text is cut behind a number of bytes. It is stored in UTF-8,
where a character takes one byte if it is ASCII and more otherwise, so a number of bytes leads to
a place between two characters only if those before it add up to it. -/
namespace Shorthand.Text

theorem length_splitOn (separator : Char) (t : Text) :
    (t.splitOn separator).length = t.count separator + 1 := by
  induction t with
  | nil => rfl
  | cons c t ih =>
    rw [List.splitOn_cons_eq_if_modifyHead, List.count_cons]
    by_cases same : c = separator
    · simp [same, ih]
    · simp [same, ih]

/-- A text is a single part, or a part with a separator behind it and the text after that. -/
theorem parts_induction (separator : Char) {motive : Text → Prop}
    (single : ∀ part, separator ∉ part → motive part)
    (more : ∀ part rest, separator ∉ part → motive rest → motive (part ++ separator :: rest))
    (t : Text) : motive t := by
  by_cases separated : separator ∈ t
  · obtain ⟨part, rest, whole, first⟩ := List.eq_append_cons_of_mem separated
    have shorter : rest.length < t.length := by
      rw [whole, List.length_append, List.length_cons]
      omega
    rw [whole]
    exact more part rest first (parts_induction separator single more rest)
  · exact single t separated
termination_by t.length

/-- No part holds the separator. -/
theorem not_mem_of_mem_splitOn {separator : Char} {t part : Text}
    (member : part ∈ t.splitOn separator) : separator ∉ part := by
  induction t using parts_induction separator with
  | single t absent =>
    rw [List.splitOn_eq_singleton absent, List.mem_singleton] at member
    rwa [member]
  | more first rest absent ih =>
    rw [List.splitOn_append_cons_self_of_not_mem absent, List.mem_cons] at member
    rcases member with rfl | later
    · exact absent
    · exact ih later

/-- Parts that all end with the separator are found again, with an empty part behind them. -/
theorem splitOn_ended {separator : Char} {parts : List Text}
    (absent : ∀ part ∈ parts, separator ∉ part) :
    (parts.flatMap fun part => part ++ [separator]).splitOn separator = parts ++ [[]] := by
  induction parts with
  | nil => rfl
  | cons part parts ih =>
    rw [List.forall_mem_cons] at absent
    rw [List.flatMap_cons, List.append_assoc, List.singleton_append,
      List.splitOn_append_cons_self_of_not_mem absent.1, ih absent.2, List.cons_append]

/-- What stands between the parts is the separator. -/
theorem mem_of_mem_intercalate {separator c : Char} {parts : List Text}
    (member : c ∈ List.intercalate [separator] parts) : c = separator ∨ ∃ part ∈ parts, c ∈ part := by
  induction parts with
  | nil => cases member
  | cons first others ih =>
    by_cases single : others = []
    · subst single
      rw [List.intercalate_singleton] at member
      exact Or.inr ⟨first, by simp, member⟩
    · rw [List.intercalate_cons_of_ne_nil single, List.append_assoc, List.mem_append,
        List.singleton_append, List.mem_cons] at member
      rcases member with inFirst | same | inOthers
      · exact Or.inr ⟨first, by simp, inFirst⟩
      · exact Or.inl same
      · refine (ih inOthers).imp_right ?_
        intro ⟨part, among, inside⟩
        exact ⟨part, List.mem_cons_of_mem _ among, inside⟩

/-- How many bytes the text takes. -/
def byteCount (t : Text) : Nat := (String.ofList t).utf8ByteSize

/-- The text can be cut behind this many bytes, and these are its two parts. -/
structure CutsAt (t : Text) (bytes : Nat) (front back : Text) : Prop where
  whole : t = front ++ back
  place : front.byteCount = bytes

@[simp] theorem byteCount_append (s t : Text) :
    byteCount (s ++ t) = s.byteCount + t.byteCount := by
  rw [byteCount, String.ofList_append, String.utf8ByteSize_append]
  rfl

theorem byteCount_cons (c : Char) (t : Text) : byteCount (c :: t) = c.utf8Size + t.byteCount := by
  have single : byteCount [c] = c.utf8Size := by
    rw [byteCount, ← String.singleton_eq_ofList, String.utf8ByteSize_singleton]
  rw [← single, ← byteCount_append, List.singleton_append]

/-- A text of ASCII characters takes one byte for each of them. -/
theorem byteCount_of_ascii {t : Text} (ascii : ∀ c ∈ t, Letter.isAscii c = true) :
    t.byteCount = t.length := by
  induction t with
  | nil => rfl
  | cons c t ih =>
    rw [List.forall_mem_cons] at ascii
    have one : c.utf8Size = 1 := by
      rw [Char.utf8Size_eq_one_iff, UInt32.le_iff_toNat_le]
      exact Nat.le_of_lt_succ (of_decide_eq_true ascii.1)
    rw [byteCount_cons, one, ih ascii.2, List.length_cons, Nat.add_comm]

/-- What stands before a last part is found by counting its bytes from the end. -/
theorem cutsAt_of_append (front back : Text) :
    CutsAt (front ++ back) ((front ++ back).byteCount - back.byteCount) front back :=
  ⟨rfl, by rw [byteCount_append, Nat.add_sub_cancel]⟩

end Shorthand.Text
