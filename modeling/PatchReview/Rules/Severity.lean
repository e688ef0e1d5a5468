import PatchReview.Text.Blank

/-!
# Severities

A severity labels a rule and what it finds.  It is a label only: no severity is
above another.
-/

namespace PatchReview

/-- The severity of a rule or a finding. -/
inductive Severity where
  | error
  | warning
  | info
  deriving DecidableEq, Repr

namespace Severity

/-- All severities. -/
def all : List Severity :=
  [.error, .warning, .info]

/-- The word for a severity. -/
def label : Severity → String
  | .error => "error"
  | .warning => "warning"
  | .info => "info"

/-- The severity that a word stands for. -/
def ofLabel? (label : String) : Option Severity :=
  all.find? (·.label = label)

/-- Read a severity from a text, whatever its letter case and the blanks around it.
Only ASCII letters have a lower case form that occurs in one of the words. -/
def ofText? (text : String) : Option Severity :=
  ofLabel? (String.ofList ((Text.trim text.toList).map Char.toLower))

/-- The text of the error for a text that is no severity. -/
def invalidMessage (text : String) : String :=
  "invalid severity: " ++ text

theorem ofText?_label (s : Severity) : ofText? s.label = some s := by
  cases s <;> decide

end Severity

end PatchReview
