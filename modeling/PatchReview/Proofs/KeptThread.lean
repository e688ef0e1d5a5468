import PatchReview.Review.Thread

/-!
# Hosts that keep a thread

Posting relies on little: a page of the list shows the comments of that page, an
accepted review adds its comments at the end of the thread, and nothing else that
is asked of the host changes the thread.  This module states these laws for an
arbitrary host, whatever else it remembers and whenever it fails, and shows that
the host in memory obeys them.

Two more notions are about what is asked.  A host can be recorded, so that every
request for a page and every review is written down with its success.  And a host
fails at most `n` times if no sequence of such requests meets more failures.

Main results:

- Structure `Host.KeepsThread`: the laws.
- Theorem `Thread.keepsThread`: the host in memory keeps its comments.
- Theorem `Host.FailsAtMost.of_refused`: a refused request uses up a failure.
- Theorems `Thread.failsAtMost_zero` and `Thread.failsAtMost_one`: what is scripted
  bounds the failures of the host in memory.
-/

namespace PatchReview

variable {σ : Type}

/-- The laws of a host that keeps a thread of comments for a pull request, where
`thread` shows the texts of the comments in a state of the host. -/
structure Host.KeepsThread (host : Host σ) (pr : PullRequestRef)
    (thread : σ → List (Option String)) : Prop where
  /-- A page that is listed holds the comments of that page. -/
  bodies_listComments : ∀ page perPage s comments,
    (host.listComments pr (page + 1) perPage s).1 = .ok comments →
      comments.map (·.body) = ((thread s).drop (page * perPage)).take perPage
  /-- Listing a page leaves the thread as it is. -/
  thread_listComments : ∀ page perPage s,
    thread (host.listComments pr page perPage s).2 = thread s
  /-- An accepted review adds its comments at the end. -/
  thread_createReview : ∀ drafts s, (host.createReview pr drafts s).1 = .ok () →
    thread (host.createReview pr drafts s).2 = thread s ++ drafts.map fun d => some d.body
  /-- A refused review adds nothing. -/
  thread_createReview_of_error : ∀ drafts s e, (host.createReview pr drafts s).1 = .error e →
    thread (host.createReview pr drafts s).2 = thread s
  /-- Fetching leaves the thread as it is. -/
  thread_fetch : ∀ s, thread (host.fetch pr s).2 = thread s
  /-- Listing a page leaves the credentials as they are. -/
  isAuthenticated_listComments : ∀ page perPage s,
    host.isAuthenticated (host.listComments pr page perPage s).2 = host.isAuthenticated s
  /-- A review leaves the credentials as they are. -/
  isAuthenticated_createReview : ∀ drafts s,
    host.isAuthenticated (host.createReview pr drafts s).2 = host.isAuthenticated s
  /-- Fetching leaves the credentials as they are. -/
  isAuthenticated_fetch : ∀ s, host.isAuthenticated (host.fetch pr s).2 = host.isAuthenticated s

/-! ## Requests and failures -/

/-- What posting asks of a host. -/
inductive ThreadRequest where
  | list (page perPage : Nat)
  | review (drafts : List Draft)
  deriving DecidableEq, Repr

/-- A request that was made, and whether it succeeded. -/
structure Exchange where
  request : ThreadRequest
  granted : Bool
  deriving DecidableEq, Repr

/-- A host that writes down the requests of a posting. -/
def Host.recorded (host : Host σ) : Host (σ × List Exchange) where
  isAuthenticated s := host.isAuthenticated s.1
  fetch pr s := ((host.fetch pr s.1).1, (host.fetch pr s.1).2, s.2)
  listComments pr page perPage s :=
    let answer := host.listComments pr page perPage s.1
    (answer.1, answer.2, s.2 ++ [⟨.list page perPage, answer.1.isOk⟩])
  createReview pr drafts s :=
    let answer := host.createReview pr drafts s.1
    (answer.1, answer.2, s.2 ++ [⟨.review drafts, answer.1.isOk⟩])

/-- A page that is asked for is written down with its success. -/
theorem Host.recorded_listComments {host : Host σ} {pr : PullRequestRef} {page perPage : Nat}
    {s s' : σ} {answer : Except HostError (List ReviewComment)} (log : List Exchange)
    (h : host.listComments pr page perPage s = (answer, s')) :
    host.recorded.listComments pr page perPage (s, log) =
      (answer, s', log ++ [⟨.list page perPage, answer.isOk⟩]) := by
  simp only [Host.recorded, h]

/-- A review that is asked for is written down with its success. -/
theorem Host.recorded_createReview {host : Host σ} {pr : PullRequestRef} {drafts : List Draft}
    {s s' : σ} {answer : Except HostError Unit} (log : List Exchange)
    (h : host.createReview pr drafts s = (answer, s')) :
    host.recorded.createReview pr drafts (s, log) =
      (answer, s', log ++ [⟨.review drafts, answer.isOk⟩]) := by
  simp only [Host.recorded, h]

/-- The drafts of a review, if the exchange is one. -/
def Exchange.drafts? (x : Exchange) : Option (List Draft) :=
  match x.request with
  | .list _ _ => none
  | .review drafts => some drafts

/-- The reviews that were asked for, accepted or not. -/
def reviewsAsked (log : List Exchange) : List (List Draft) :=
  log.filterMap Exchange.drafts?

/-- The drafts of all reviews that were accepted. -/
def acceptedDrafts (log : List Exchange) : List Draft :=
  (reviewsAsked (log.filter Exchange.granted)).flatten

/-- Ask a host for something; the answer says whether it succeeded. -/
def Host.ask (host : Host σ) (pr : PullRequestRef) (s : σ) : ThreadRequest → Bool × σ
  | .list page perPage =>
    let answer := host.listComments pr page perPage s
    (answer.1.isOk, answer.2)
  | .review drafts =>
    let answer := host.createReview pr drafts s
    (answer.1.isOk, answer.2)

/-- The number of failures when requests are made one after the other. -/
def Host.failures (host : Host σ) (pr : PullRequestRef) : List ThreadRequest → σ → Nat
  | [], _ => 0
  | request :: rest, s =>
    (if (host.ask pr s request).1 then 0 else 1)
      + host.failures pr rest (host.ask pr s request).2

/-- Whatever is asked of the host from now on, it fails at most `n` times. -/
def Host.FailsAtMost (host : Host σ) (pr : PullRequestRef) (n : Nat) (s : σ) : Prop :=
  ∀ requests, host.failures pr requests s ≤ n

namespace Host.FailsAtMost

variable {host : Host σ} {pr : PullRequestRef} {n : Nat} {s : σ}

/-- No request makes room for more failures. -/
theorem ask (h : host.FailsAtMost pr n s) (request : ThreadRequest) :
    host.FailsAtMost pr n (host.ask pr s request).2 := by
  intro requests
  have hall := h (request :: requests)
  simp only [Host.failures] at hall
  omega

/-- A refused request uses up a failure. -/
theorem of_refused (h : host.FailsAtMost pr n s) (request : ThreadRequest)
    (hrefused : (host.ask pr s request).1 = false) :
    ∃ m, n = m + 1 ∧ host.FailsAtMost pr m (host.ask pr s request).2 := by
  have hsum : ∀ requests,
      1 + host.failures pr requests (host.ask pr s request).2 ≤ n := by
    intro requests
    have hall := h (request :: requests)
    simpa [Host.failures, hrefused] using hall
  have hpos : 1 ≤ n := by
    have hnil := hsum []
    omega
  refine ⟨n - 1, by omega, ?_⟩
  intro requests
  have hall := hsum requests
  omega

end Host.FailsAtMost

/-! ## The host in memory -/

namespace Thread

/-- The host in memory keeps its comments. -/
theorem keepsThread (pr : PullRequestRef) : host.KeepsThread pr Thread.comments where
  bodies_listComments := by
    intro page perPage t comments h
    have hpage : comments = t.page (page + 1) perPage := by
      simp only [host, listComments] at h
      split at h
      · split at h
        · cases h
        · exact (Except.ok.inj h).symm
      · exact (Except.ok.inj h).symm
    simp [hpage, Thread.page, Function.comp_def]
  thread_listComments := by
    intro page perPage t
    rfl
  thread_createReview := by
    intro drafts t h
    exact @comments_createReview pr drafts t h
  thread_createReview_of_error := by
    intro drafts t e h
    exact @comments_createReview_of_error pr drafts t e h
  thread_fetch := by
    intro t
    rfl
  isAuthenticated_listComments := by
    intro page perPage t
    rfl
  isAuthenticated_createReview := by
    intro drafts t
    simp only [host, createReview, record]
    split <;> rfl
  isAuthenticated_fetch := by
    intro t
    rfl

/-- Without scripted failures no request fails, and none scripts a failure. -/
theorem ask_of_steady (pr : PullRequestRef) {t : Thread} (hpage : t.failingPage = none)
    (hreview : t.failingReview = none) (request : ThreadRequest) :
    (host.ask pr t request).1 = true ∧ (host.ask pr t request).2.failingPage = none ∧
      (host.ask pr t request).2.failingReview = none := by
  cases request with
  | list page perPage =>
      simp [Host.ask, host, listComments, record, hpage, hreview, Except.isOk, Except.toBool]
  | review drafts =>
      simp [Host.ask, host, createReview, record, hpage, hreview, Except.isOk, Except.toBool]

/-- Without scripted failures the host in memory does not fail. -/
theorem failsAtMost_zero {pr : PullRequestRef} {t : Thread} (hpage : t.failingPage = none)
    (hreview : t.failingReview = none) : host.FailsAtMost pr 0 t := by
  intro requests
  induction requests generalizing t with
  | nil => exact Nat.le_refl 0
  | cons request rest ih =>
      obtain ⟨hgranted, hpage', hreview'⟩ := ask_of_steady pr hpage hreview request
      have hrest := ih hpage' hreview'
      simp only [Host.failures, hgranted, if_true]
      omega

/-- With no page scripted to fail only a review is refused, and then no failure is left. -/
theorem ask_of_failingPage_eq_none (pr : PullRequestRef) {t : Thread}
    (hpage : t.failingPage = none) (request : ThreadRequest) :
    (host.ask pr t request).2.failingPage = none ∧
      ((host.ask pr t request).1 = false →
        (host.ask pr t request).2.failingReview = none) := by
  cases request with
  | list page perPage =>
      simp [Host.ask, host, listComments, record, hpage, Except.isOk, Except.toBool]
  | review drafts =>
      simp only [Host.ask, host, createReview, record]
      split
      · refine ⟨hpage, ?_⟩
        intro hrefused
        cases hrefused
      · exact ⟨hpage, fun _ => rfl⟩
      · refine ⟨hpage, ?_⟩
        intro hrefused
        cases hrefused

/-- With no page scripted to fail the host in memory fails at one review at most. -/
theorem failsAtMost_one {pr : PullRequestRef} {t : Thread} (hpage : t.failingPage = none) :
    host.FailsAtMost pr 1 t := by
  intro requests
  induction requests generalizing t with
  | nil => exact Nat.zero_le 1
  | cons request rest ih =>
      obtain ⟨hpage', hrefused⟩ := ask_of_failingPage_eq_none pr hpage request
      rw [Host.failures]
      by_cases hgranted : (host.ask pr t request).1 = true
      · have hrest := ih hpage'
        rw [if_pos hgranted]
        omega
      · have hreview := hrefused (Bool.not_eq_true _ ▸ hgranted)
        have hrest : host.failures pr rest (host.ask pr t request).2 ≤ 0 :=
          failsAtMost_zero hpage' hreview rest
        rw [if_neg hgranted]
        omega

end Thread

end PatchReview
