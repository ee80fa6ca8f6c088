import Shorthand.Line.Translation
import Shorthand.Text.Quoted

/-! Translation that leaves a trace. Where a trace is wanted, a line is written about each entry
that is given to the rules: as soon as a rule matches, before it is known whether the rule
succeeds, or when all rules have been tried in vain. So the trace of a line shows which rule took
which piece, one line for each segment, in order, and then one line about the separation of the
whole. It can also be read off the translation. -/
namespace Shorthand

/-- A result, and what was written on the way to it. -/
structure Traced (α : Type) where
  value : α
  written : Text

namespace Traced

instance : Monad Traced where
  pure a := ⟨a, []⟩
  bind traced next := ⟨(next traced.value).value, traced.written ++ (next traced.value).written⟩

/-- Writes a line if a trace is wanted. -/
def note (wanted : Bool) (line : Text) : Traced Unit := ⟨(), if wanted then line ++ ['\n'] else []⟩

variable {α β : Type}

theorem pure_eq (a : α) : (pure a : Traced α) = ⟨a, []⟩ := rfl

theorem bind_eq (traced : Traced α) (next : α → Traced β) :
    traced >>= next =
      ⟨(next traced.value).value, traced.written ++ (next traced.value).written⟩ := rfl

instance : LawfulMonad Traced :=
  LawfulMonad.mk' Traced
    (fun traced => congrArg (Traced.mk traced.value) (List.append_nil traced.written))
    (fun _ _ => rfl)
    (fun _ _ _ => congrArg (Traced.mk _) (List.append_assoc _ _ _))

end Traced

namespace Table

/-- What is written about a line and the rule that takes it. -/
def matchNote (rule line : Text) : Text :=
  "[rule_match] ".toList ++ rule ++ " <- ".toList ++ Quoted.write line

/-- Applies the first rule that matches a line, and leaves a trace. -/
def applyTraced (wanted : Bool) (context : Context) (line : Text) : Table → Traced Outcome
  | [] => do
    Traced.note wanted (matchNote "<pass-through>".toList line)
    return .unmatched line
  | rule :: rules =>
    match rule.pattern.match? line with
    | none => applyTraced wanted context line rules
    | some found => do
      Traced.note wanted (matchNote rule.name.toList line)
      match rule.run context line found with
      | .ok output => return .translated rule.name output
      | .error failure => return .failed failure

/-- Translates one entry, and leaves a trace unless the entry is blank. -/
def translateEntryTraced (table : Table) (wanted : Bool) (context : Context) (entry : Text) :
    Traced Outcome :=
  let line := entry.trim
  if line = [] then return .unmatched [] else table.applyTraced wanted context line

end Table

/-- The name of the rule, or a placeholder where no rule matched. -/
def Segment.ruleName (segment : Segment) : Text :=
  (segment.rule?.getD "<pass-through>").toList

def Segment.traceLine (segment : Segment) : Text :=
  Table.matchNote segment.ruleName segment.input ++ ['\n']

/-- What is written about a line when its pieces have been translated. -/
def Table.separationNote (stacked : Bool) (count : Nat) : Text :=
  "[split] separator=".toList ++ (if stacked then "true".toList else "false".toList) ++
    " segments=".toList ++ Numeral.decimal count

namespace Translation

def separationLine (translation : Translation) : Text :=
  Table.separationNote translation.stacked translation.segments.length ++ ['\n']

def trace (translation : Translation) : Text :=
  translation.segments.flatMap Segment.traceLine ++ translation.separationLine

end Translation

namespace Table

/-- Translates the pieces of a line one by one, and leaves the trace of each. -/
def segmentsTraced (table : Table) (wanted : Bool) (context : Context) (line : Text) :
    Traced (List Segment) :=
  ((Stack.pieces line).map Text.trim |>.filter (· ≠ [])).mapM fun piece => do
    return ⟨piece, ← table.translateEntryTraced wanted context piece, false⟩

/-- Translates a line, and leaves its trace. -/
def translateTraced (table : Table) (wanted : Bool) (context : Context) (text : Text) :
    Traced Translation := do
  let line := text.trim
  let stacked := Stack.isStacked line
  let segments ← table.segmentsTraced wanted context line
  Traced.note wanted (separationNote stacked segments.length)
  return {
    text, stacked,
    segments := if stacked && isNameRecord line then continueRecord segments else segments }

end Table

/-- Translates a line by the standard table, and leaves its trace. -/
def translateTraced (wanted : Bool) (context : Context) (text : Text) : Traced Translation :=
  Table.standard.translateTraced wanted context text

end Shorthand
