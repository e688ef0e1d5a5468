import PatchReview.Json.Parts
import PatchReview.Review.Host

/-!
# Answers of the code host

What the code host answers is JSON.  Each kind of answer is an object with certain
parts, or an array of them in a fixed order; further fields of an object do not count.
-/

namespace PatchReview

open Json

/-- A pull request without its changed files. -/
structure PullRequestHead where
  /-- Its number. -/
  number : Nat
  /-- Its title. -/
  title : String
  /-- Its description. -/
  body : Option String
  /-- Whether it is open or closed. -/
  state : String
  deriving DecidableEq, Repr

/-- Read a pull request. -/
def PullRequestHead.ofJson? (j : Json) : Option PullRequestHead := do
  match ← j.parts? ["number", "title", "body", "state"] with
  | [number, title, body, state] =>
    let number ← number.bind (natBelow? Text.bound64)
    let title ← title.bind text?
    let body ← optional? text? body
    let state ← state.bind text?
    pure { number, title, body, state }
  | _ => none

/-- Read a changed file. -/
def ChangedFile.ofJson? (j : Json) : Option ChangedFile := do
  match ← j.parts? ["filename", "status", "patch", "additions", "deletions"] with
  | [filename, status, patch, additions, deletions] =>
    let filename ← filename.bind text?
    let status ← status.bind text?
    let patch ← optional? text? patch
    let additions ← additions.elim (some 0) (natBelow? Text.bound64)
    let deletions ← deletions.elim (some 0) (natBelow? Text.bound64)
    pure { filename, status, patch, additions, deletions }
  | _ => none

/-- Read a comment. -/
def ReviewComment.ofJson? (j : Json) : Option ReviewComment := do
  match ← j.parts? ["id", "body", "path", "position"] with
  | [id, body, path, position] =>
    let id ← id.bind (natBelow? Text.bound64)
    let body ← optional? text? body
    let path ← optional? text? path
    let position ← optional? (natBelow? Text.bound32) position
    pure { id, body, path, position }
  | _ => none

/-- Read a list. -/
def Json.list? (item : Json → Option α) : Json → Option (List α)
  | .array items => items.mapM item
  | _ => none

/-- What an answer that refuses a request says: the message in its body, or the body. -/
def refusalText (body : String) : String :=
  match (Json.ofText? body).bind (·.field? "message") with
  | some (.string s) => s
  | _ => body

end PatchReview
