import PatchReview.Review.PullRequestRef

/-!
# Code hosts

A review talks to the code host through four operations.  A host is described by
what they answer and how they change its state, so the same review runs against a
host in memory and against one over a network.
-/

namespace PatchReview

/-- Why a host did not do what it was asked. -/
inductive HostError where
  /-- No usable answer came back. -/
  | network
  /-- The credentials are missing or wrong. -/
  | unauthorized (text : String)
  /-- The pull request does not exist or cannot be seen. -/
  | notFound (text : String)
  /-- Any other refusal. -/
  | api (status : Nat) (text : String)
  /-- The answer could not be read. -/
  | json (text : String)
  deriving DecidableEq, Repr

/-- The text of a host error. -/
def HostError.message : HostError → String
  | .network => "network error"
  | .unauthorized text => "authentication failed: " ++ text
  | .notFound text => "not found: " ++ text
  | .api status text => "GitHub API error (" ++ toString status ++ "): " ++ text
  | .json text => "JSON error: " ++ text

/-- A file that a pull request changes. -/
structure ChangedFile where
  /-- Its path. -/
  filename : String
  /-- What happened to it. -/
  status : String
  /-- Its patch; binary files and very large changes have none. -/
  patch : Option String := none
  /-- The number of added lines. -/
  additions : Nat := 0
  /-- The number of deleted lines. -/
  deletions : Nat := 0
  deriving DecidableEq, Repr

/-- A pull request with its changed files. -/
structure PullRequest where
  /-- Its number. -/
  number : Nat
  /-- Its title. -/
  title : String
  /-- Its description. -/
  body : String
  /-- Whether it is open or closed. -/
  state : String
  /-- The changed files, in the order of the host. -/
  files : List ChangedFile
  deriving DecidableEq, Repr

/-- A comment on a pull request. -/
structure ReviewComment where
  /-- Its number. -/
  id : Nat
  /-- Its text. -/
  body : Option String := none
  /-- The file it stands at. -/
  path : Option String := none
  /-- The diff position it stands at, if that still exists. -/
  position : Option Nat := none
  deriving DecidableEq, Repr

/-- A comment to be posted. -/
structure Draft where
  /-- The file to comment on. -/
  path : String
  /-- The diff position of the line. -/
  position : Nat
  /-- The text, with the trailer. -/
  body : String
  deriving DecidableEq, Repr

/-- A draft as JSON. -/
def Draft.toJson (d : Draft) : Json :=
  .object [("path", .string d.path), ("position", .nat d.position), ("body", .string d.body)]

/-- A code host with states in `σ`. -/
structure Host (σ : Type) where
  /-- Whether the host takes comments from us. -/
  isAuthenticated : σ → Bool
  /-- Fetch a pull request with all its changed files. -/
  fetch : PullRequestRef → σ → Except HostError PullRequest × σ
  /-- List a page of the comments of a pull request; pages count from one. -/
  listComments : PullRequestRef → (page perPage : Nat) → σ →
    Except HostError (List ReviewComment) × σ
  /-- Post one review with the given comments. -/
  createReview : PullRequestRef → List Draft → σ → Except HostError Unit × σ

/-! ## Errors of a review -/

/-- Why a review failed. -/
inductive ReviewError where
  /-- Comments are to be posted without credentials. -/
  | missingCredentials (pr : PullRequestRef)
  /-- The pull request could not be fetched. -/
  | fetch (pr : PullRequestRef) (cause : HostError)
  /-- A page of comments could not be listed. -/
  | listComments (pr : PullRequestRef) (page : Nat) (cause : HostError)
  /-- A batch of comments was refused, after earlier ones were posted. -/
  | submitBatch (pr : PullRequestRef) (batch totalBatches submitted : Nat) (cause : HostError)
  deriving DecidableEq, Repr

namespace ReviewError

/-- The host error behind a review error. -/
def cause? : ReviewError → Option HostError
  | .missingCredentials _ => none
  | .fetch _ cause => some cause
  | .listComments _ _ cause => some cause
  | .submitBatch _ _ _ _ cause => some cause

/-- What failed, without the cause. -/
def context : ReviewError → String
  | .missingCredentials pr =>
    "posting to " ++ pr.display
      ++ " requires a GitHub token; set GITHUB_TOKEN or github.token, or run without posting"
  | .fetch pr _ => "failed to fetch pull request " ++ pr.display
  | .listComments pr page _ =>
    "failed to list review comments on " ++ pr.display ++ " (page " ++ toString page ++ ")"
  | .submitBatch pr batch total submitted _ =>
    "failed to submit review batch " ++ toString batch ++ " of " ++ toString total ++ " on "
      ++ pr.display ++ " (" ++ toString submitted ++ " comments already posted)"

/-- The text of a review error. -/
def message (e : ReviewError) : String :=
  match e.cause? with
  | none => e.context
  | some cause => e.context ++ ": " ++ cause.message

end ReviewError

end PatchReview
