import PatchReview.Metadata.Value
import PatchReview.Rules.Clause
import PatchReview.Rules.FilePattern
import PatchReview.Unicode.Uppercase

/-!
# Rule documents

A rule document groups clauses that apply to the same files.  Its file patterns
are made ready once, when they are set.

Main statement:

- `Document.filePatterns_withFilePatterns`: the file patterns of a document are
  never an empty list.
-/

namespace PatchReview

/-- A rule document. -/
structure Document where
  /-- The name of the document. -/
  id : String
  /-- The title for readers. -/
  title : String
  /-- The severity of clauses that set none. -/
  severity : Severity
  /-- A label to group documents by. -/
  category : String
  /-- The file patterns, at least one. -/
  filePatterns : List String
  /-- The text after the metadata. -/
  body : String := ""
  /-- The clauses, in order. -/
  rules : List Clause := []
  /-- All the metadata. -/
  metadata : Metadata := []
  /-- The path of the file that the document was read from. -/
  source : Option String := none
  /-- The file patterns made ready. -/
  selection : FilePatternSet

namespace Document

/-- The category of documents that set none. -/
def defaultCategory : String :=
  "general"

/-- The severity of documents that set none. -/
def defaultSeverity : Severity :=
  .info

/-- A document that applies to every file and has no clause. -/
def new (id title : String) (severity : Severity) : Document where
  id := id
  title := title
  severity := severity
  category := defaultCategory
  filePatterns := [FilePattern.everything]
  selection := FilePatternSet.ofList [FilePattern.everything]

/-- Replace the file patterns; an empty list selects every file. -/
def withFilePatterns (d : Document) (patterns : List String) : Document :=
  let patterns := if patterns.isEmpty then [FilePattern.everything] else patterns
  { d with filePatterns := patterns, selection := FilePatternSet.ofList patterns }

/-- Replace the category. -/
def withCategory (d : Document) (category : String) : Document :=
  { d with category := category }

/-- Replace the body. -/
def withBody (d : Document) (body : String) : Document :=
  { d with body := body }

/-- Add a clause at the end. -/
def withClause (d : Document) (clause : Clause) : Document :=
  { d with rules := d.rules ++ [clause] }

/-- Whether the document applies to a path. -/
def appliesTo (d : Document) (path : String) : Bool :=
  d.selection.isMatch path

theorem filePatterns_withFilePatterns (d : Document) (patterns : List String) :
    (d.withFilePatterns patterns).filePatterns ≠ [] := by
  cases patterns <;> simp [withFilePatterns]

/-! ## Titles -/

/-- A word with its first letter in upper case. -/
def capitalize : List Char → List Char
  | [] => []
  | c :: rest => Unicode.upperForm c ++ rest

/-- The title of a document that sets none: the words of its id, capitalized. -/
def titleOfId (id : String) : String :=
  let words := (Text.fields (fun c => c == '-' || c == '_') id.toList).filter (· ≠ [])
  " ".intercalate (words.map fun word => String.ofList (capitalize word))

end Document

/-! ## JSON -/

mutual

/-- A metadata value as JSON. -/
def Metadata.Value.toJson : Metadata.Value → Json
  | .null => .null
  | .bool b => .bool b
  | .int i => .int i
  | .text s => .string s
  | .list items => .array (Metadata.itemsToJson items)
  | .object fields => .object (Metadata.fieldsToJson fields)

/-- The items of a list as JSON. -/
def Metadata.itemsToJson : List Metadata.Value → List Json
  | [] => []
  | v :: rest => v.toJson :: Metadata.itemsToJson rest

/-- The fields of an object as JSON. -/
def Metadata.fieldsToJson : List (String × Metadata.Value) → List (String × Json)
  | [] => []
  | (name, v) :: rest => (name, v.toJson) :: Metadata.fieldsToJson rest

end

/-- Metadata as a JSON object. -/
def Metadata.toJson (metadata : Metadata) : Json :=
  .object (Metadata.fieldsToJson metadata)

/-- A document as JSON; empty metadata and an absent source are left out. -/
def Document.toJson (d : Document) : Json :=
  .object (
    [("id", .string d.id),
      ("title", .string d.title),
      ("severity", .string d.severity.label),
      ("category", .string d.category),
      ("filePatterns", .strings d.filePatterns),
      ("body", .string d.body),
      ("rules", .array (d.rules.map Clause.toJson))]
    ++ (if d.metadata.isEmpty then [] else [("metadata", d.metadata.toJson)])
    ++ (d.source.map fun path => ("source", Json.string path)).toList)

end PatchReview
