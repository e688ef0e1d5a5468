import PatchReview.Json.Basic
import PatchReview.Text.Blank
import PatchReview.Text.Number
import PatchReview.Text.Split

/-!
# References to pull requests

A pull request is named by the owner and the name of its repository and its number
there.  It can be written as the address of its page, as `owner/repo#number`, or
as a number alone where the repository is known.
-/

namespace PatchReview

/-- A reference to a pull request. -/
structure PullRequestRef where
  /-- The owner of the repository. -/
  owner : String
  /-- The name of the repository. -/
  repo : String
  /-- The number of the pull request. -/
  number : Nat
  deriving DecidableEq, Repr

namespace PullRequestRef

/-- A reference as `owner/repo#number`. -/
def display (pr : PullRequestRef) : String :=
  pr.owner ++ "/" ++ pr.repo ++ "#" ++ toString pr.number

/-- A reference as JSON. -/
def toJson (pr : PullRequestRef) : Json :=
  .object [("owner", .string pr.owner), ("repo", .string pr.repo), ("number", .nat pr.number)]

/-- Read the number of a pull request: positive, and of at most 64 bits. -/
def readNumber (s : List Char) : Option Nat :=
  (Text.readNatBelow Text.bound64 s).filter (0 < ·)

/-- What follows the host in the address of a page. -/
def dropHost (s : List Char) : Option (List Char) :=
  let bare := ((Text.dropLeading "https://".toList s).or
    (Text.dropLeading "http://".toList s)).getD s
  (Text.dropLeading "www.github.com/".toList bare).or (Text.dropLeading "github.com/".toList bare)

/-- Read the rest of an address after its host. -/
def ofAddress (rest : List Char) : Option PullRequestRef :=
  match (Text.fields (· == '/') rest).filter (· ≠ []) with
  | owner :: repo :: ['p', 'u', 'l', 'l'] :: number :: _ =>
    (readNumber number).map fun n => ⟨String.ofList owner, String.ofList repo, n⟩
  | _ => none

/-- Read `owner/repo#number`. -/
def ofSlug (s : List Char) : Option PullRequestRef := do
  let (slug, number) ← Text.splitOnce '#' s
  let (owner, repo) ← Text.splitOnce '/' slug
  let n ← readNumber number
  if owner = [] ∨ repo = [] ∨ '/' ∈ repo then none
  else some ⟨String.ofList owner, String.ofList repo, n⟩

/-- The reference to a number in the default repository, if there is one. -/
def inDefault (owner repo : Option String) (n : Nat) : Option PullRequestRef :=
  match owner, repo with
  | some owner, some repo => if owner = "" ∨ repo = "" then none else some ⟨owner, repo, n⟩
  | _, _ => none

/-- Read a reference from a text without blanks at its ends.  A text that reads as a
number is nothing else, and one that starts with the host is an address. -/
def ofTrimmed? (s : List Char) (owner repo : Option String) : Option PullRequestRef :=
  let bare := match s with
    | '#' :: rest => rest
    | _ => s
  match readNumber bare with
  | some n => inDefault owner repo n
  | none =>
    match dropHost s with
    | some rest => ofAddress rest
    | none => ofSlug s

/-- Read a reference, with the default owner and repository for a number alone. -/
def ofText? (text : String) (owner repo : Option String) : Option PullRequestRef :=
  ofTrimmed? (Text.trim text.toList) owner repo

/-- The text of the error for a text that is no reference. -/
def invalidMessage (text : String) : String :=
  "invalid pull request reference '" ++ String.ofList (Text.trim text.toList)
    ++ "': expected https://github.com/<owner>/<repo>/pull/<n>, <owner>/<repo>#<n>, "
    ++ "or a number with a default owner and repo"

end PullRequestRef

end PatchReview
