import MonkeySyntax.Parser.Rules
import MonkeySyntax.Token.Scan

/-!
Contract: the syntax tree of a source text.

Owns:
- the parse of a whole text by the standard rules, or by given ones;
- the strict reading of a parse, which has no tree for a text with errors.
-/

set_option autoImplicit false

namespace MonkeySyntax

/-- What a parse found: the top-level statements that could be read, the reports,
and what abandoned the parse, if anything did. -/
structure Parsed where
  statements : List Node
  reports : List Report
  abandoned : Option Abort
deriving DecidableEq, Repr

namespace Parsed

/-- The root of the tree. -/
def program (parsed : Parsed) : Node := .program parsed.statements

/-- The messages in the order in which they were reported. -/
def errors (parsed : Parsed) : List String := parsed.reports.map Report.message

/-- The root of the tree of a text without errors, or else the errors. -/
def strict (parsed : Parsed) : Except (List String) Node :=
  if parsed.reports.isEmpty then .ok parsed.program else .error parsed.errors

theorem strict_of_noErrors {parsed : Parsed} (noErrors : parsed.errors = []) :
    parsed.strict = .ok parsed.program := by
  rw [strict, if_pos (List.isEmpty_iff.mpr (List.map_eq_nil_iff.mp noErrors))]

theorem strict_of_errors {parsed : Parsed} (hasErrors : parsed.errors ≠ []) :
    parsed.strict = .error parsed.errors := by
  have hasReports : ¬parsed.reports.isEmpty = true := fun noReports =>
    hasErrors (List.map_eq_nil_iff.mpr (List.isEmpty_iff.mp noReports))
  rw [strict, if_neg hasReports]

end Parsed

/-- Some errors in one message. -/
def errorSummary (errors : List String) : String := "; ".intercalate errors

/-- How many levels of expressions may stand inside each other. -/
def nestingLimit : Nat := 100

/-- The parse of a source text by some rules and within a nesting limit. -/
def parseWith (rules : Parser.Rules) (limit : Nat) (source : String) : Parsed :=
  match Parser.program (rules.reader limit) (.start (.ofString source)) with
  | .ok statements state => ⟨statements, state.reports, none⟩
  | .error reason state => ⟨[], state.reports, some reason⟩

/-- The parse of a source text. -/
def parse (source : String) : Parsed :=
  parseWith .standard nestingLimit source

end MonkeySyntax
