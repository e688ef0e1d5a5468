import PatchReview.Review.Patch
import PatchReview.Review.Report
import PatchReview.Rules.Store

/-!
# Reviewing a pull request

A review fetches a pull request, evaluates the rules against the lines that it
adds, and posts what they find.  What the rules find depends on the pull request
and the rules alone; only fetching and posting talk to the host.
-/

namespace PatchReview.Review

variable {σ : Type}

/-- What the rules found in a pull request. -/
structure Assessment where
  /-- The files with added lines and rules for them. -/
  files : List FileSummary := []
  /-- The findings in all of them. -/
  findings : List Finding := []

/-- What the rules find in one file, with its summary; a file without patch, without
added lines or without rules for it has none. -/
def assessFile (store : Store) (file : ChangedFile) :
    Logged (Option (FileSummary × List Finding)) :=
  match file.patch with
  | none => pure none
  | some text =>
    let patch := Patch.ofText text
    let clauses := store.rulesForFile file.filename
    if patch.lines.isEmpty || clauses.isEmpty then pure none
    else do
      let found ← evaluateClauses file.filename patch.addedLines clauses
      let findings ← patch.anchor found
      pure (some (⟨file.filename, patch.lines.length, findings.length⟩, findings))

/-- What the rules find in some files. -/
def assess (store : Store) (files : List ChangedFile) : Logged Assessment := do
  let parts ← Logged.forAll (assessFile store) files
  let parts := parts.filterMap id
  pure ⟨parts.map (·.1), parts.flatMap (·.2)⟩

/-- The report on a pull request. -/
def reportOn (store : Store) (pr : PullRequestRef) (pull : PullRequest) (a : Assessment)
    (outcome : Outcome) : Report where
  pullRequest := pr
  title := pull.title
  state := pull.state
  filesChanged := pull.files.length
  filesReviewed := a.files.length
  ruleDocuments := store.size
  ruleClauses := store.clauseCount
  files := a.files
  findings := a.findings
  outcome := outcome

/-- Review a pull request.  Without credentials a review that is to post fails before
it asks the host for anything. -/
def run (host : Host σ) (o : PostingOptions) (store : Store) (pr : PullRequestRef)
    (dryRun : Bool) (s : σ) : Logged (Except ReviewError Report × σ) :=
  if !dryRun && !host.isAuthenticated s then pure (.error (.missingCredentials pr), s)
  else
    match host.fetch pr s with
    | (.error e, s) => pure (.error (.fetch pr e), s)
    | (.ok pull, s) => do
      let a ← assess store pull.files
      match Posting.post host o pr a.findings dryRun s with
      | (.error e, s) => pure (.error e, s)
      | (.ok outcome, s) => pure (.ok (reportOn store pr pull a outcome), s)

end PatchReview.Review
