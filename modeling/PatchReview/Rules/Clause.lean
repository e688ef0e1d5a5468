import PatchReview.Json.Basic
import PatchReview.Rules.Severity

/-!
# Clauses

A clause is one rule of a rule document: a pattern to look for in added lines, and
what to say where it is found.
-/

namespace PatchReview

/-- One rule of a rule document. -/
structure Clause where
  /-- The name of the rule, unlike that of any other rule of its document. -/
  id : String
  /-- The pattern to look for in each added line. -/
  pattern : String
  /-- A pattern that silences the rule for a file when an added line has it. -/
  negativePattern : Option String := none
  /-- What to say about a line. -/
  message : String
  /-- How severe a finding of the rule is. -/
  severity : Severity
  /-- Whether both patterns ignore letter case. -/
  ignoreCase : Bool := false
  deriving DecidableEq, Repr

/-- A clause as JSON; what is not set is left out. -/
def Clause.toJson (c : Clause) : Json :=
  .object (
    [("id", .string c.id), ("pattern", .string c.pattern)]
    ++ (c.negativePattern.map fun p => ("negativePattern", Json.string p)).toList
    ++ [("message", .string c.message), ("severity", .string c.severity.label)]
    ++ if c.ignoreCase then [("caseInsensitive", .bool true)] else [])

end PatchReview
