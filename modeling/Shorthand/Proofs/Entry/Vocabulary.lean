import Shorthand.Proofs.Entry.ChildFailure

/-! Where the characters of an output come from. What the library writes on its own, in
templates, numbers, dates and reports, is printable ASCII and the sign before an airline. Every
other character of an output stands in the entry, so nothing that could separate or end texts
is ever brought in. No entry is shown as nothing. -/
namespace Shorthand

namespace Text

/-- The characters that are written without being read. -/
def isOwn (c : Char) : Bool := (0x20 ≤ c.toNat && c.toNat ≤ 0x7E) || c == '¤'

/-- Every character of the text stands in the source or is one of the library's own. -/
def DrawnFrom (source t : Text) : Prop := ∀ c ∈ t, c ∈ source ∨ isOwn c = true

variable {source s t : Text}

theorem DrawnFrom.of_subset (inside : t ⊆ source) : DrawnFrom source t :=
  fun _ member => Or.inl (inside member)

theorem DrawnFrom.of_own (own : t.all isOwn = true) : DrawnFrom source t :=
  fun c member => Or.inr (List.all_eq_true.mp own c member)

theorem DrawnFrom.append (first : DrawnFrom source s) (second : DrawnFrom source t) :
    DrawnFrom source (s ++ t) :=
  List.forall_mem_append.mpr ⟨first, second⟩

theorem DrawnFrom.cons {c : Char} (own : isOwn c = true) (others : DrawnFrom source t) :
    DrawnFrom source (c :: t) :=
  List.forall_mem_cons.mpr ⟨Or.inr own, others⟩

theorem DrawnFrom.mono (drawn : DrawnFrom s t) (inside : s ⊆ source) : DrawnFrom source t :=
  fun c member => (drawn c member).imp_left fun among => inside among

/-- A foreign character that the source lacks is not in the text. -/
theorem DrawnFrom.not_mem {c : Char} (drawn : DrawnFrom source t) (absent : c ∉ source)
    (foreign : isOwn c = false) : c ∉ t := by
  intro member
  rcases drawn c member with inSource | own
  · exact absent inSource
  · rw [foreign] at own
    cases own

theorem isOwn_of_isDigit {c : Char} (digit : c.isDigit = true) : isOwn c = true := by
  have low : 48 ≤ c.toNat := (Char.isDigit_iff_toNat.mp digit).1
  have high : c.toNat ≤ 57 := (Char.isDigit_iff_toNat.mp digit).2
  simp only [isOwn, Bool.or_eq_true, Bool.and_eq_true, decide_eq_true_eq]
  omega

theorem drawnFrom_decimal (n : Nat) : DrawnFrom source (Numeral.decimal n) :=
  fun _ member => Or.inr
    (isOwn_of_isDigit (Nat.isDigit_of_mem_toDigits (by decide) (by decide) member))

theorem drawnFrom_padded (width n : Nat) : DrawnFrom source (Numeral.padded width n) := by
  have zeros : DrawnFrom source (List.replicate (width - (Numeral.decimal n).length) '0') :=
    fun _ member => Or.inr (List.eq_of_mem_replicate member ▸ rfl)
  exact zeros.append (drawnFrom_decimal n)

theorem drawnFrom_signed (z : Int) : DrawnFrom source (Numeral.signed z) := by
  unfold Numeral.signed
  split
  · exact (drawnFrom_decimal _).cons rfl
  · exact drawnFrom_decimal _

theorem drawnFrom_signedPadded (width : Nat) (z : Int) :
    DrawnFrom source (Numeral.signedPadded width z) := by
  unfold Numeral.signedPadded
  split
  · exact (drawnFrom_padded _ _).cons rfl
  · exact drawnFrom_padded _ _

theorem drawnFrom_isoDate (d : Date) : DrawnFrom source (Iso.write d) := by
  have year : DrawnFrom source (Iso.writeYear d.year) := by
    unfold Iso.writeYear
    split
    · exact drawnFrom_padded _ _
    · refine (drawnFrom_padded _ _).cons ?_
      split <;> rfl
  have month : DrawnFrom source ('-' :: Numeral.padded 2 d.month) :=
    (drawnFrom_padded _ _).cons rfl
  have day : DrawnFrom source ('-' :: Numeral.padded 2 d.day) := (drawnFrom_padded _ _).cons rfl
  exact (year.append month).append day

end Text

open Text (DrawnFrom)

/-- A fault of a token repeats parts of the token and adds nothing but fixed words and numbers. -/
theorem BirthCode.FaultOf.drawnFrom_message {currentYear : Int} {token : Text} {cause : Fault}
    (fault : FaultOf currentYear token cause) : DrawnFrom token cause.message := by
  cases fault with
  | shape _ =>
    exact .append (.cons rfl (.of_subset (List.Subset.refl _))) (.of_own (by decide +kernel))
  | month _ _ =>
    have inside : monthPart token ⊆ token :=
      List.Subset.trans (List.take_subset ..) (List.drop_subset ..)
    exact .append (.append (.of_own (by decide +kernel)) (.of_subset inside)) (.of_own rfl)
  | @date year month _ _ _ =>
    have numbers : DrawnFrom token (Numeral.signedPadded 4 year ++ '-' :: Numeral.padded 2 month ++
        '-' :: Numeral.padded 2 (Numeral.value (dayPart token))) :=
      .append (.append (Text.drawnFrom_signedPadded _ _) (.cons rfl (Text.drawnFrom_padded _ _)))
        (.cons rfl (Text.drawnFrom_padded _ _))
    exact numbers.append (.of_own (by decide +kernel))

/-- The report of a failure repeats the entry or its parts. -/
theorem FailureOf.drawnFrom_message {context : Context} {entry matched token : Text}
    {failure : Failure} (failed : FailureOf context entry matched token failure)
    (whole : matched ⊆ entry) (inside : token ⊆ entry) : DrawnFrom entry failure.message := by
  have marked : ∀ {detail}, DrawnFrom entry detail → DrawnFrom entry (Failure.marker ++ ' ' :: detail) :=
    fun detail => .append (.of_own rfl) (.cons rfl detail)
  cases failed with
  | undated _ =>
    refine marked (.append (.append (.append (.append ?_ ?_) ?_) ?_) ?_)
    · exact .of_own (by decide +kernel)
    · exact .of_own (by decide +kernel)
    · exact .of_own (by decide +kernel)
    · exact .of_subset (List.Subset.refl _)
    · exact .of_own rfl
  | @unresolvable departure cause _ fault =>
    refine marked (.append (.append (.append (.append (.append (.append (.append ?_ ?_) ?_) ?_) ?_)
      ?_) ?_) ?_)
    · exact .of_own (by decide +kernel)
    · exact .of_subset whole
    · exact .of_own (by decide +kernel)
    · exact .of_subset inside
    · exact .of_own (by decide +kernel)
    · exact Text.drawnFrom_isoDate departure
    · exact .of_own (by decide +kernel)
    · exact fault.drawnFrom_message.mono inside

/-- The fixed texts of an action are written in the library's own characters. -/
def Action.isOwn : Action → Bool
  | .template slots => slots.all fun
    | .fixed t => t.all Text.isOwn
    | .part _ => true
  | _ => true

theorem own_standard : ∀ rule ∈ Table.standard, rule.action.isOwn = true := by decide

theorem Match.part_subset {found : Match} {part : Text} {i : Nat}
    (place : found.parts[i]? = some part) : part ⊆ found.text ++ found.rest := by
  intro c member
  exact List.mem_append_left _ (List.mem_flatten.mpr ⟨part, List.mem_of_getElem? place, member⟩)

/-- An action copies parts of the match and adds characters of its own. -/
theorem Action.drawnFrom_of_run {rule : String} {context : Context} {found : Match}
    {action : Action} {output : Text} (own : action.isOwn = true)
    (ran : action.run rule context found = .ok output) :
    DrawnFrom (found.text ++ found.rest) output := by
  cases action with
  | template slots =>
    cases ran
    refine .append ?_ (.of_subset (List.subset_append_right ..))
    intro c member
    obtain ⟨slot, among, inside⟩ := List.mem_flatMap.mp member
    have written := List.all_eq_true.mp own slot among
    cases slot with
    | fixed t => exact Or.inr (List.all_eq_true.mp written c inside)
    | part i =>
      rw [Slot.fill, List.getD_eq_getElem?_getD] at inside
      cases place : found.parts[i]? with
      | none => simp [place] at inside
      | some part =>
        rw [place] at inside
        exact Or.inl (Match.part_subset place inside)
  | infant name code =>
    simp only [run, runInfant] at ran
    split at ran
    · next name code named coded =>
      cases ran
      have trimmed := List.Subset.trans (Text.trim_isInfix name).subset (Match.part_subset named)
      have digits := List.Subset.trans (List.drop_subset (code.length - 2) code)
        (Match.part_subset coded)
      exact .append (.append (.append (.of_own (by decide)) (.of_subset trimmed))
        (.of_own (by decide))) (.of_subset digits)
    · cases ran
  | child name title code =>
    simp only [run, runChild] at ran
    split at ran
    · next name title code named titled coded =>
      split at ran
      · cases ran
      · split at ran
        · next age _ =>
          cases ran
          exact .append (.append (.append (.cons rfl (.of_subset (Match.part_subset named)))
            (.of_subset (Match.part_subset titled))) (.of_own (by decide)))
              (Text.drawnFrom_signed age)
        · cases ran
    · cases ran

/-- Every character that is shown for a line stands in the line or is the library's own. -/
theorem Table.drawnFrom_apply (context : Context) (line : Text) :
    DrawnFrom line (Table.standard.apply context line).text := by
  rcases Table.standard.apply_cases context line with
    passed | ⟨rule, found, decides, ⟨output, ran, translated⟩ | ⟨failure, _, failed⟩⟩
  · rw [passed]
    exact .of_subset (List.Subset.refl _)
  · rw [translated, Outcome.text, ← Pattern.text_append_rest decides.matched]
    exact Action.drawnFrom_of_run (own_standard rule decides.mem) ran
  · obtain ⟨record, name, mark, title, gap, opener, token, rest, isRecord, reason⟩ :=
      apply_eq_failed_iff.mp failed
    have whole : line = [record, name, title, gap, opener, token, [')']].flatten ++ rest := by
      rw [isRecord.whole, isRecord.isMark.whole]
      simp
    rw [failed]
    refine reason.drawnFrom_message ?_ ?_
    · rw [whole]
      exact List.subset_append_left ..
    · intro c member
      rw [whole]
      exact List.mem_append_left _ (List.mem_flatten.mpr ⟨token, by simp, member⟩)

end Shorthand
