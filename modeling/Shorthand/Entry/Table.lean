import Shorthand.Entry.Rule

/-! Tables of rules. The first rule whose pattern matches an entry decides what
becomes of it, and an entry that no rule matches passes through unchanged. The
standard table has one rule for each kind of entry that has a counterpart in the
other system. A rule that is more specific than another one stands above it: the
infant and child records above the plain name record, availability with an airline
above availability, and a retrieval with text above a bare one. -/
namespace Shorthand

/-- What became of an entry. -/
inductive Outcome where
  /-- No rule matched, and the line stays as it is. -/
  | unmatched (line : Text)
  | translated (rule : String) (output : Text)
  | failed (failure : Failure)
  deriving DecidableEq

namespace Outcome

/-- The rule that matched. -/
def rule? : Outcome → Option String
  | .unmatched _ => none
  | .translated rule _ => some rule
  | .failed failure => some failure.rule

def isFailure : Outcome → Bool
  | .failed _ => true
  | _ => false

/-- What is shown for the entry. -/
def text : Outcome → Text
  | .unmatched line => line
  | .translated _ output => output
  | .failed failure => failure.message

end Outcome

/-- Rules in the order in which they are tried. -/
abbrev Table := List Rule

namespace Table

def names (table : Table) : List String := table.map Rule.name

/-- Applies the first rule that matches a line, which is taken as it is. -/
def apply (context : Context) (line : Text) : Table → Outcome
  | [] => .unmatched line
  | rule :: rules =>
    match rule.pattern.match? line with
    | none => apply context line rules
    | some found =>
      match rule.run context line found with
      | .ok output => .translated rule.name output
      | .error failure => .failed failure

/-- Translates one entry. Blanks around it do not count, and a blank entry is
shown as nothing. -/
def translateEntry (table : Table) (context : Context) (entry : Text) : Outcome :=
  let line := entry.trim
  if line = [] then .unmatched [] else table.apply context line

theorem apply_of_match_none {context : Context} {line : Text} {rule : Rule} {rules : Table}
    (refused : rule.pattern.match? line = none) :
    apply context line (rule :: rules) = apply context line rules := by
  simp [apply, refused]

theorem apply_of_match_some {context : Context} {line : Text} {rule : Rule} {rules : Table}
    {found : Match} (matched : rule.pattern.match? line = some found) :
    apply context line (rule :: rules) =
      match rule.run context line found with
      | .ok output => .translated rule.name output
      | .error failure => .failed failure := by
  simp [apply, matched]

end Table

namespace Rule

/-- An infant: `(INF`, a name, a slash and a birth code in brackets. -/
def infant : Rule where
  name := "infant"
  pattern := [.word "(INF", .shortest, .word "/", .birthCode, .word ")"]
  action := .infant 1 3

/-- A child: a name record whose title is followed by `(CHD/` and a birth code. -/
def child : Rule where
  name := "child"
  pattern := [.word "NM1", .shortest,
    .oneOf [['M', 'S', 'T', 'R'], ['M', 'I', 'S', 'S'], ['M', 'R'], ['M', 'S']],
    .blanks, .word "(CHD/", .birthCode, .word ")"]
  action := .child 1 2 5
  needsDeparture := true

/-- Availability with an airline, which follows the last `/A` of the line. -/
def availabilityWithAirline : Rule where
  name := "AN/A"
  pattern := [.word "AN", .longest, .word "/A", .longest]
  action := .template [.fixed ['1'], .part 1, .fixed ['¤'], .part 3]

def retrieveWithText : Rule where
  name := "RT/text"
  pattern := [.word "RT/", .longest]
  action := .template [.fixed ['*', '-', ' '], .part 1]

def retrieve : Rule where
  name := "RT"
  pattern := [.word "RT", .oneOf [['/'], []], .finish]
  action := .template [.fixed ['*']]

/-- A code that is a whole entry, with a fixed counterpart. -/
def wholeEntry (code : String) (counterpart : Text) : Rule where
  name := code
  pattern := [.word code, .finish]
  action := .template [.fixed counterpart]

/-- A leading code whose entry keeps all the text after it. -/
def leadingCode (code : String) (counterpart : Text) : Rule where
  name := code
  pattern := [.word code, .longest]
  action := .template [.fixed counterpart, .part 1]

end Rule

/-- The standard rules in the order in which they are tried. -/
def Table.standard : Table :=
  [.infant, .child, .availabilityWithAirline, .retrieveWithText, .retrieve,
    .wholeEntry "APE" ['9', 'E', '*'],
    .wholeEntry "APM-SEL" ['9', 'T', '*'],
    .wholeEntry "FXB" ['W', 'P', 'N', 'C', 'B'],
    .wholeEntry "FXP/R,U" ['W', 'P', 'A'],
    .wholeEntry "ER" ['*', 'R', 'R'],
    .wholeEntry "SP" ['D'],
    .leadingCode "AN" ['1'],
    .leadingCode "SS" ['0'],
    .leadingCode "NM1" ['-']]

end Shorthand
