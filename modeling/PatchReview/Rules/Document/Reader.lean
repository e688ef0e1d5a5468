import PatchReview.Metadata.Framing
import PatchReview.Rules.Document
import PatchReview.Warning

/-!
# Reading rule documents

The metadata of a text say what its rule document is.  A fault in them costs no
more than the entry that it is in, and leaves a warning.
-/

namespace PatchReview.Document

open Metadata

/-- The text of a scalar field. -/
def textOf? (metadata : Metadata) (name : String) : Option String :=
  (Fields.get? metadata name).bind Value.asText?

/-- The severity that a document sets. -/
def severityOf (metadata : Metadata) : Logged (Option Severity) :=
  match textOf? metadata "severity" with
  | none => pure none
  | some raw =>
    match Severity.ofText? raw with
    | some severity => pure (some severity)
    | none => .warning .documentSeverityIgnored none

/-- The file patterns that a document sets: a list of scalars, or a single text. -/
def filePatternsOf (metadata : Metadata) : List String :=
  match Fields.get? metadata "filePatterns" with
  | some (.list items) => items.filterMap Value.asText?
  | some (.text single) => if single = "" then [] else [single]
  | _ => []

/-- The severity of a clause: its own, or else that of its document. -/
def clauseSeverity (d : Document) (fields : Metadata) : Logged Severity :=
  match textOf? fields "severity" with
  | none => pure d.severity
  | some raw =>
    match Severity.ofText? raw with
    | some severity => pure severity
    | none => .warning .ruleSeverityIgnored d.severity

/-- The id of a clause: its own, or else that of its document with its position. -/
def clauseId (d : Document) (position : Nat) (fields : Metadata) : String :=
  (textOf? fields "id").getD (d.id ++ "-" ++ toString position)

/-- Whether a field is set to true. -/
def isTrue (fields : Metadata) (name : String) : Bool :=
  match Fields.get? fields name with
  | some (.bool b) => b
  | _ => false

/-- The clause that the fields of an entry describe; without a pattern there is
none.  `position` counts the entries of the document from one. -/
def clauseOf (d : Document) (position : Nat) (fields : Metadata) : Logged (Option Clause) :=
  match (textOf? fields "pattern").filter (· ≠ "") with
  | none => .warning .patternMissing none
  | some pattern => do
    let severity ← clauseSeverity d fields
    pure (some {
      id := clauseId d position fields
      pattern := pattern
      negativePattern := (textOf? fields "negativePattern").filter (· ≠ "")
      message := (textOf? fields "message").getD d.title
      severity := severity
      ignoreCase := isTrue fields "caseInsensitive" })

/-- The clauses of the remaining entries; `position` is that of the first of them,
and `taken` are the ids used before. -/
def clausesFrom (d : Document) (position : Nat) (taken : List String) :
    List Value → Logged (List Clause)
  | [] => pure []
  | .object fields :: rest => do
    match ← clauseOf d position fields with
    | none => clausesFrom d (position + 1) taken rest
    | some clause =>
      if clause.id ∈ taken then do
        Logged.warn .duplicateRuleId
        clausesFrom d (position + 1) taken rest
      else do
        let others ← clausesFrom d (position + 1) (clause.id :: taken) rest
        pure (clause :: others)
  | _ :: rest => do
    Logged.warn .entryNotAnObject
    clausesFrom d (position + 1) taken rest

/-- The clauses that a document lists. -/
def clausesOf (d : Document) (metadata : Metadata) : Logged (List Clause) :=
  match Fields.get? metadata "rules" with
  | some (.list items) => clausesFrom d 1 [] items
  | _ => pure []

/-- The document that a framed text describes. -/
def ofFramed (id : String) (framed : Framed) : Logged Document := do
  let metadata := framed.metadata
  let severity ← severityOf metadata
  let d := (new id ((textOf? metadata "title").getD (titleOfId id))
      (severity.getD defaultSeverity)).withCategory
        ((textOf? metadata "category").getD defaultCategory)
    |>.withFilePatterns (filePatternsOf metadata)
    |>.withBody framed.body
  let rules ← clausesOf d metadata
  pure { d with rules := rules, metadata := metadata }

/-- Read a rule document from a text. -/
def ofText? (id content : String) : Except FramingError (Logged Document) :=
  (Framed.ofText? content).map (ofFramed id)

end PatchReview.Document
