import Shorthand.Calendar.Iso
import Shorthand.Passenger.BirthCode
import Shorthand.Text.Pattern

/-! Rules rewrite the entries that their pattern matches. A template copies parts of
the match between fixed texts and keeps whatever follows the match; the two
passenger actions compute their output from the match alone and drop what
follows it. -/
namespace Shorthand

/-- What a translation may depend on besides the entry itself: a departure date,
which can be missing, and the date of today, of which only the year is used. -/
structure Context where
  departure : Option Date
  today : Date
  deriving DecidableEq

namespace Context

/-- The year from which the century of a birth code is settled. -/
def currentYear (context : Context) : Int := context.today.year

/-- Reads a departure date. A blank text stands for no date at all. -/
def readDeparture (value : Text) : Except Iso.Fault (Option Date) :=
  let trimmed := value.trim
  if trimmed = [] then .ok none else (Iso.read trimmed).map some

end Context

/-- A failure of a rule that matched an entry. It is shown in place of the entry's
translation, and its text starts with a marker. -/
inductive Failure where
  /-- The rule needs a departure date and there is none. -/
  | missingDeparture (rule : String) (entry : Text)
  /-- The birth code in the matched text gives no age. -/
  | unresolvableAge (rule : String) (matched code : Text) (departure : Date)
    (cause : BirthCode.Fault)
  /-- The rule refers to a part that its pattern does not have. -/
  | incompleteMatch (rule : String) (matched : Text)
  deriving DecidableEq

namespace Failure

/-- The text that every failure starts with. -/
def marker : Text := ['E', 'R', 'R', 'O', 'R', ':']

/-- The rule that failed. -/
def rule : Failure → String
  | .missingDeparture rule _ => rule
  | .unresolvableAge rule _ _ _ _ => rule
  | .incompleteMatch rule _ => rule

/-- The failure behind this one, if there is one. -/
def cause? : Failure → Option BirthCode.Fault
  | .unresolvableAge _ _ _ _ cause => some cause
  | _ => none

/-- What went wrong, without the marker. -/
def detail : Failure → Text
  | .missingDeparture rule entry =>
    "departure date required to apply rule '".toList ++ rule.toList ++ "' to '".toList ++ entry ++
      ['\'']
  | .unresolvableAge _ matched code departure cause =>
    "cannot compute age (".toList ++ matched ++ ", DOB: ".toList ++ code ++ ", Dep: ".toList ++
      Iso.write departure ++ "): ".toList ++ cause.message
  | .incompleteMatch rule matched =>
    "rule '".toList ++ rule.toList ++ "' matched '".toList ++ matched ++
      "' but its captures are incomplete".toList

def message (failure : Failure) : Text := marker ++ ' ' :: failure.detail

/-- Every failure shows its marker first. -/
theorem marker_prefix_message (failure : Failure) : marker <+: failure.message :=
  ⟨' ' :: failure.detail, rfl⟩

/-- A birth code without an age is reported in the same words for every departure date. -/
theorem exists_message_unresolvableAge (rule : String) (matched code : Text)
    (cause : BirthCode.Fault) :
    ∃ front, ∀ departure, (unresolvableAge rule matched code departure cause).message =
      front ++ ", Dep: ".toList ++ Iso.write departure ++ "): ".toList ++ cause.message := by
  unfold message detail
  -- Regrouping would open the literals again and again.
  generalize "cannot compute age (".toList = opener, ", DOB: ".toList = born,
    ", Dep: ".toList = departs, "): ".toList = close
  refine ⟨marker ++ ' ' :: (opener ++ matched ++ born ++ code), fun departure => ?_⟩
  simp only [List.append_assoc, List.cons_append]

end Failure

/-- A place of a template. -/
inductive Slot where
  | fixed (t : Text)
  /-- The part that one piece of the pattern took, empty if there is no such piece. -/
  | part (piece : Nat)
  deriving DecidableEq

def Slot.fill (found : Match) : Slot → Text
  | .fixed t => t
  | .part piece => found.parts.getD piece []

/-- What a rule does with a match. The numbers say which pieces of the pattern
hold the parts that an action needs. -/
inductive Action where
  | template (slots : List Slot)
  /-- An infant, shown with the last two digits of the birth code. -/
  | infant (name code : Nat)
  /-- A child, shown with the age on the departure date. -/
  | child (name title code : Nat)
  deriving DecidableEq

structure Rule where
  name : String
  pattern : Pattern
  action : Action
  /-- Whether the action is only tried with a departure date. -/
  needsDeparture : Bool := false
  deriving DecidableEq

namespace Action

def runInfant (rule : String) (found : Match) (name code : Option Text) : Except Failure Text :=
  match name, code with
  | some name, some code =>
    .ok ("-I/".toList ++ name.trim ++ "*I".toList ++ code.drop (code.length - 2))
  | _, _ => .error (.incompleteMatch rule found.text)

def runChild (rule : String) (context : Context) (found : Match)
    (name title code : Option Text) : Except Failure Text :=
  match name, title, code with
  | some name, some title, some code =>
    match context.departure with
    | none => .error (.missingDeparture rule found.text)
    | some departure =>
      match ageOn code departure context.currentYear with
      | .ok age => .ok ('-' :: name ++ title ++ "*C".toList ++ Numeral.signed age)
      | .error cause => .error (.unresolvableAge rule found.text code departure cause)
  | _, _, _ => .error (.incompleteMatch rule found.text)

/-- The output of an action of the named rule. -/
def run (rule : String) (context : Context) (found : Match) : Action → Except Failure Text
  | .template slots => .ok (slots.flatMap (Slot.fill found) ++ found.rest)
  | .infant name code => runInfant rule found found.parts[name]? found.parts[code]?
  | .child name title code =>
    runChild rule context found found.parts[name]? found.parts[title]? found.parts[code]?

end Action

/-- The output of a rule for a line that it matched. The departure date is asked
for before the action is tried, and its absence names the whole line. -/
def Rule.run (rule : Rule) (context : Context) (line : Text) (found : Match) :
    Except Failure Text :=
  if rule.needsDeparture ∧ context.departure = none then
    .error (.missingDeparture rule.name line)
  else rule.action.run rule.name context found

end Shorthand
