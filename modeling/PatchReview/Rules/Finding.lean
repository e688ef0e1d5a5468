import PatchReview.Json.Parts
import PatchReview.Rules.Severity

/-!
# Findings

A rule finds something at an added line, counted among the added lines of its
file.  A finding that can be posted has a diff position instead: it counts every
line below the first hunk header of the file's patch.
-/

namespace PatchReview

/-- What a rule found, at an added line. -/
structure LineFinding where
  /-- The path of the file. -/
  path : String
  /-- The number of the line among the added lines, from one. -/
  line : Nat
  /-- What the rule says. -/
  message : String
  /-- The rule. -/
  ruleId : String
  /-- The severity of the rule. -/
  severity : Severity
  deriving DecidableEq, Repr

/-- Something to say about a line of a patch. -/
structure Finding where
  /-- The path of the file. -/
  path : String
  /-- The diff position of the line. -/
  position : Nat
  /-- What to say. -/
  message : String
  /-- The rule that says it, if a rule does. -/
  ruleId : Option String := none
  /-- The severity of that rule. -/
  severity : Option Severity := none
  deriving DecidableEq, Repr

/-- The finding at a diff position. -/
def LineFinding.atPosition (f : LineFinding) (position : Nat) : Finding where
  path := f.path
  position := position
  message := f.message
  ruleId := some f.ruleId
  severity := some f.severity

/-- A line finding as JSON. -/
def LineFinding.toJson (f : LineFinding) : Json :=
  .object [
    ("path", .string f.path),
    ("line", .nat f.line),
    ("message", .string f.message),
    ("ruleId", .string f.ruleId),
    ("severity", .string f.severity.label)]

namespace Finding

/-- A finding on one line of text. -/
def display (f : Finding) : String :=
  f.path ++ ":" ++ toString f.position
    ++ (match f.severity with
      | some severity => " [" ++ severity.label ++ "]"
      | none => "")
    ++ " " ++ f.message
    ++ (match f.ruleId with
      | some id => " (rule: " ++ id ++ ")"
      | none => "")

/-- A finding as JSON; what it does not have is left out. -/
def toJson (f : Finding) : Json :=
  .object (
    [("path", .string f.path), ("position", .nat f.position), ("message", .string f.message)]
    ++ (f.ruleId.map fun id => ("ruleId", Json.string id)).toList
    ++ (f.severity.map fun s => ("severity", Json.string s.label)).toList)

/-- Read a severity from JSON: its word, or an object of that word and null. -/
def severityOfJson? : Json → Option Severity
  | .string s => Severity.ofLabel? s
  | .object [(s, .null)] => Severity.ofLabel? s
  | _ => none

/-- Read a finding from an object or from an array of its parts. -/
def ofJson? (j : Json) : Option Finding := do
  match ← j.parts? ["path", "position", "message", "ruleId", "severity"] with
  | [path, position, message, ruleId, severity] =>
    let path ← path.bind Json.text?
    let position ← position.bind (Json.natBelow? Text.bound32)
    let message ← message.bind Json.text?
    let ruleId ← Json.optional? Json.text? ruleId
    let severity ← Json.optional? severityOfJson? severity
    pure { path, position, message, ruleId, severity }
  | _ => none

end Finding

end PatchReview
