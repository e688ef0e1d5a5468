import PatchReview.Files.Tree
import PatchReview.Rules.Document.Reader

/-!
# Rule documents in files

The rule documents of a directory are its files with the extension `md`.  Links
and further directories in it do not count, and a file that cannot be read is left
out with a warning.  Names are texts, as in all file trees: the empty id of a document whose
name is not UTF-8 does not come up.
-/

namespace PatchReview.Document

open Files

/-- Why a file gives no rule document. -/
inductive LoadError where
  /-- The file cannot be read. -/
  | file (e : ReadError)
  /-- Its text is not a rule document. -/
  | framing (e : FramingError)
  deriving DecidableEq, Repr

/-- Read the rule document in a file; its id is the name without the extension. -/
def load? (root : Node) (path : String) : Except LoadError (Logged Document) :=
  match root.readText path with
  | .error e => .error (.file e)
  | .ok content =>
    match ofText? (stem path) content with
    | .error e => .error (.framing e)
    | .ok document => .ok ((fun d => { d with source := some path }) <$> document)

/-- Whether a path has the extension of rule documents, in any letter case. -/
def hasRuleExtension (path : String) : Bool :=
  match extension? path with
  | some e => e.toList.map Char.toLower == ['m', 'd']
  | none => false

/-- The files among the entries of a directory, by name. -/
def fileNames (entries : List (String × Node)) : List String :=
  let isPlainFile : String × Node → Bool
    | (_, .file _) => true
    | _ => false
  ((entries.filter isPlainFile).map (·.1)).mergeSort (· ≤ ·)

/-- Read the rule documents among the given paths. -/
def loadEach (root : Node) : List String → Logged (List Document)
  | [] => pure []
  | path :: rest =>
    match load? root path with
    | .error _ => do
      Logged.warn .documentSkipped
      loadEach root rest
    | .ok document => do
      let d ← document
      let others ← loadEach root rest
      pure (d :: others)

/-- Read the rule documents of a directory, in the order of their names. -/
def loadDirectory (root : Node) (dir : String) : Logged (List Document) :=
  match root.resolve dir with
  | .ok (.directory entries) =>
    loadEach root (((fileNames entries).map (join dir)).filter hasRuleExtension)
  | _ => .warning .rulesDirectoryMissing []

end PatchReview.Document
