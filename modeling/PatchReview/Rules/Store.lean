import PatchReview.Rules.Builtin
import PatchReview.Rules.Directory
import PatchReview.Rules.Evaluation

/-!
# Rule stores

A rule store is the rule documents of one review, in the order in which they were
loaded: the built-in ones, if wanted, come before those of the rules directory.
-/

namespace PatchReview

/-- The rule documents of a review, in order. -/
structure Store where
  /-- The documents. -/
  documents : List Document := []

namespace Store

/-- The built-in documents. -/
def builtin : Logged Store :=
  Store.mk <$> Document.builtin

/-- The documents of a directory. -/
def load (root : Files.Node) (dir : String) : Logged Store :=
  Store.mk <$> Document.loadDirectory root dir

/-- The built-in documents, then those of a directory. -/
def loadWithBuiltin (root : Files.Node) (dir : String) : Logged Store := do
  let builtin ← Document.builtin
  let others ← Document.loadDirectory root dir
  pure ⟨builtin ++ others⟩

/-- The clauses that apply to a path. -/
def rulesForFile (s : Store) (path : String) : List Clause :=
  (s.documents.filter (·.appliesTo path)).flatMap (·.rules)

/-- The first document of an id. -/
def get? (s : Store) (id : String) : Option Document :=
  s.documents.find? (·.id = id)

/-- The documents of a category. -/
def byCategory (s : Store) (category : String) : List Document :=
  s.documents.filter (·.category = category)

/-- The documents of a severity. -/
def bySeverity (s : Store) (severity : Severity) : List Document :=
  s.documents.filter (·.severity = severity)

/-- The number of documents. -/
def size (s : Store) : Nat :=
  s.documents.length

/-- The number of clauses in all documents. -/
def clauseCount (s : Store) : Nat :=
  (s.documents.flatMap (·.rules)).length

end Store

end PatchReview
