import PatchReview.Review.Host

/-!
# A host in memory

A host that keeps one pull request and the comments on it, and remembers what it
was asked.  It can be told to fail at a page of the list or at a later review.

Main statements:

- `Thread.comments_createReview`: a review adds its comments at the end.
- `Thread.comments_createReview_of_error`: a refused review adds nothing.
-/

namespace PatchReview

/-- Something a host was asked to do. -/
inductive HostCall where
  | fetch (pr : PullRequestRef)
  | list (page perPage : Nat)
  | submit (drafts : List Draft)
  deriving DecidableEq, Repr

/-- The state of a host in memory. -/
structure Thread where
  /-- Whether it takes comments. -/
  authenticated : Bool := false
  /-- The texts of the comments; some have none. -/
  comments : List (Option String) := []
  /-- The pull request, or why it cannot be fetched. -/
  pull : Except HostError PullRequest
  /-- A page that cannot be listed. -/
  failingPage : Option (Nat × HostError) := none
  /-- A later review that fails: the first one, the second one, and so on. -/
  failingReview : Option (Nat × HostError) := none
  /-- What the host was asked, in order. -/
  calls : List HostCall := []

namespace Thread

/-- Remember a call. -/
def record (t : Thread) (call : HostCall) : Thread :=
  { t with calls := t.calls ++ [call] }

/-- A page of the comments. -/
def page (t : Thread) (page perPage : Nat) : List ReviewComment :=
  ((t.comments.drop ((page - 1) * perPage)).take perPage).map fun body => { id := 0, body := body }

/-- Fetch the pull request. -/
def fetch (pr : PullRequestRef) (t : Thread) : Except HostError PullRequest × Thread :=
  (t.pull, t.record (.fetch pr))

/-- List a page of the comments. -/
def listComments (_ : PullRequestRef) (page perPage : Nat) (t : Thread) :
    Except HostError (List ReviewComment) × Thread :=
  let answer := match t.failingPage with
    | some (failing, e) => if failing = page then .error e else .ok (t.page page perPage)
    | none => .ok (t.page page perPage)
  (answer, t.record (.list page perPage))

/-- Take a review: add its comments, unless this review is to fail. -/
def createReview (_ : PullRequestRef) (drafts : List Draft) (t : Thread) :
    Except HostError Unit × Thread :=
  let t := t.record (.submit drafts)
  let accepted := { t with comments := t.comments ++ drafts.map fun d => some d.body }
  match t.failingReview with
  | none => (.ok (), accepted)
  | some (1, e) => (.error e, { t with failingReview := none })
  | some (n, e) => (.ok (), { accepted with failingReview := some (n - 1, e) })

/-- The host in memory. -/
def host : Host Thread where
  isAuthenticated := authenticated
  fetch := fetch
  listComments := listComments
  createReview := createReview

theorem comments_createReview {pr : PullRequestRef} {drafts : List Draft} {t : Thread}
    (h : (createReview pr drafts t).1 = .ok ()) :
    (createReview pr drafts t).2.comments = t.comments ++ drafts.map fun d => some d.body := by
  simp only [createReview, record] at h ⊢
  split
  · rfl
  · next e he => simp [he] at h
  · rfl

theorem comments_createReview_of_error {pr : PullRequestRef} {drafts : List Draft} {t : Thread}
    {e : HostError} (h : (createReview pr drafts t).1 = .error e) :
    (createReview pr drafts t).2.comments = t.comments := by
  simp only [createReview, record] at h ⊢
  split
  · next he => simp [he] at h
  · rfl
  · next he => split at h <;> simp_all

end Thread

end PatchReview
