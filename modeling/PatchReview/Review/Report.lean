import PatchReview.Review.Posting

/-!
# Review reports

A report says what a review looked at, what it found and what was posted.  As text
it lists the first ten findings.
-/

namespace PatchReview

/-- What a review saw in one file. -/
structure FileSummary where
  /-- The path of the file. -/
  path : String
  /-- The number of its added lines. -/
  addedLines : Nat
  /-- The number of findings in it. -/
  findings : Nat
  deriving DecidableEq, Repr

/-- The result of a review. -/
structure Report where
  /-- The reviewed pull request. -/
  pullRequest : PullRequestRef
  /-- Its title. -/
  title : String
  /-- Whether it is open or closed. -/
  state : String
  /-- The number of changed files. -/
  filesChanged : Nat
  /-- The number of files with added lines and rules for them. -/
  filesReviewed : Nat
  /-- The number of rule documents. -/
  ruleDocuments : Nat
  /-- The number of clauses in them. -/
  ruleClauses : Nat
  /-- The reviewed files. -/
  files : List FileSummary
  /-- All findings. -/
  findings : List Finding
  /-- What the posting did. -/
  outcome : Outcome
  deriving DecidableEq, Repr

namespace Report

/-- The number of findings that the text lists. -/
def maxListed : Nat :=
  10

/-- The last line of the text: what was posted. -/
def closing (r : Report) : String :=
  let skipped := " (" ++ toString r.outcome.skippedDuplicates ++ " skipped as duplicates)"
  if r.findings.isEmpty then "Nothing to post"
  else if r.outcome.dryRun then
    "Dry run: would post " ++ toString r.outcome.toPost ++ " comments" ++ skipped
  else
    "Posted " ++ toString r.outcome.submitted ++ " comments in " ++ toString r.outcome.batches
      ++ " batches" ++ skipped

/-- The lines of the text before the last one. -/
def textLines (r : Report) : List String :=
  ["Review of " ++ r.pullRequest.display ++ ": " ++ r.title ++ " (" ++ r.state ++ ")",
    "Files changed: " ++ toString r.filesChanged ++ ", reviewed: " ++ toString r.filesReviewed,
    "Rules loaded: " ++ toString r.ruleDocuments ++ " documents, " ++ toString r.ruleClauses
      ++ " clauses",
    "Findings: " ++ toString r.findings.length]
  ++ (r.findings.take maxListed).map (fun f => "  " ++ f.display)
  ++ if maxListed < r.findings.length then
      ["  ...and " ++ toString (r.findings.length - maxListed) ++ " more"]
    else []

/-- A report as text. -/
def text (r : Report) : String :=
  "\n".intercalate (r.textLines ++ [r.closing])

/-- A file summary as JSON. -/
def summaryToJson (s : FileSummary) : Json :=
  .object [
    ("path", .string s.path),
    ("addedLines", .nat s.addedLines),
    ("findings", .nat s.findings)]

/-- A report as JSON. -/
def toJson (r : Report) : Json :=
  .object [
    ("pullRequest", r.pullRequest.toJson),
    ("title", .string r.title),
    ("state", .string r.state),
    ("filesChanged", .nat r.filesChanged),
    ("filesReviewed", .nat r.filesReviewed),
    ("ruleDocuments", .nat r.ruleDocuments),
    ("ruleClauses", .nat r.ruleClauses),
    ("files", .array (r.files.map summaryToJson)),
    ("findings", .array (r.findings.map Finding.toJson)),
    ("outcome", r.outcome.toJson)]

end Report

end PatchReview
