import PatchReview.Review.Host
import PatchReview.Review.Signature
import PatchReview.Text.Chunks

/-!
# Posting findings

Findings are posted as comments, in batches, at most once each.  Before anything
is posted the comments that are already there are listed page by page, and a
finding whose signature one of them carries is left out.  A batch that is refused
ends the posting; the batches before it stay, and a later posting adds what is
still missing.
-/

namespace PatchReview

/-- How comments are listed and posted. -/
structure PostingOptions where
  /-- The number of comments in a batch. -/
  batchSize : Nat := 50
  /-- The number of comments on a page of the list. -/
  perPage : Nat := 100
  /-- The number of pages that are listed at most. -/
  maxCommentPages : Nat := 10
  deriving DecidableEq, Repr

/-- What a posting did. -/
structure Outcome where
  /-- The number of signatures on existing comments. -/
  existing : Nat := 0
  /-- The number of findings left out as posted before or repeated. -/
  skippedDuplicates : Nat := 0
  /-- The number of findings left to post. -/
  toPost : Nat := 0
  /-- The number of comments posted. -/
  submitted : Nat := 0
  /-- The number of batches posted. -/
  batches : Nat := 0
  /-- Whether nothing was to be posted at all. -/
  dryRun : Bool := false
  deriving DecidableEq, Repr

/-- An outcome as JSON. -/
def Outcome.toJson (o : Outcome) : Json :=
  .object [
    ("existing", .nat o.existing),
    ("skippedDuplicates", .nat o.skippedDuplicates),
    ("toPost", .nat o.toPost),
    ("submitted", .nat o.submitted),
    ("batches", .nat o.batches),
    ("dryRun", .bool o.dryRun)]

namespace PostingOptions

/-- Raise a batch size or a page size of zero to one. -/
def raised (o : PostingOptions) : PostingOptions :=
  { o with batchSize := max o.batchSize 1, perPage := max o.perPage 1 }

end PostingOptions

namespace Posting

variable {σ : Type}

/-- Add the signatures of comments to those that are known, each once. -/
def addSignatures (known : List String) : List ReviewComment → List String
  | [] => known
  | comment :: rest =>
    match comment.body.bind Signature.extract with
    | none => addSignatures known rest
    | some s =>
      if s ∈ known then addSignatures known rest else addSignatures (known ++ [s]) rest

/-- List the remaining pages, `count` of them from `page` on, up to a short one. -/
def listPages (host : Host σ) (pr : PullRequestRef) (perPage : Nat) :
    (count page : Nat) → List String → σ → Except ReviewError (List String) × σ
  | 0, _, known, s => (.ok known, s)
  | count + 1, page, known, s =>
    match host.listComments pr page perPage s with
    | (.error e, s) => (.error (.listComments pr page e), s)
    | (.ok comments, s) =>
      let known := addSignatures known comments
      if comments.length < perPage then (.ok known, s)
      else listPages host pr perPage count (page + 1) known s

/-- The signatures on the comments of a pull request, each once. -/
def existingSignatures (host : Host σ) (o : PostingOptions) (pr : PullRequestRef) (s : σ) :
    Except ReviewError (List String) × σ :=
  listPages host pr o.perPage o.maxCommentPages 1 [] s

/-- The findings whose signatures are new, the first of each. -/
def newFindings (known : List String) : List Finding → List Finding
  | [] => []
  | f :: rest =>
    if f.signature ∈ known then newFindings known rest
    else f :: newFindings (f.signature :: known) rest

/-- The comment for a finding. -/
def draftOf (f : Finding) : Draft where
  path := f.path
  position := f.position
  body := f.commentBody

/-- Post the remaining batches; `done` of `total` are posted. -/
def submitBatches (host : Host σ) (pr : PullRequestRef) (total done : Nat) (o : Outcome) :
    List (List Draft) → σ → Except ReviewError Outcome × σ
  | [], s => (.ok o, s)
  | batch :: rest, s =>
    match host.createReview pr batch s with
    | (.error e, s) => (.error (.submitBatch pr (done + 1) total o.submitted e), s)
    | (.ok _, s) =>
      submitBatches host pr total (done + 1)
        { o with submitted := o.submitted + batch.length, batches := o.batches + 1 } rest s

/-- Post the findings that are new, given the signatures that are known. -/
def postNew (host : Host σ) (o : PostingOptions) (pr : PullRequestRef) (findings : List Finding)
    (dryRun : Bool) (known : List String) (s : σ) : Except ReviewError Outcome × σ :=
  let drafts := (newFindings known findings).map draftOf
  let outcome : Outcome := {
    existing := known.length
    skippedDuplicates := findings.length - drafts.length
    toPost := drafts.length
    dryRun := dryRun }
  if drafts.isEmpty || dryRun then (.ok outcome, s)
  else
    let batches := Text.chunks o.batchSize drafts
    submitBatches host pr batches.length 0 outcome batches s

/-- Post findings on a pull request; in a dry run, find out what would be posted. -/
def post (host : Host σ) (o : PostingOptions) (pr : PullRequestRef) (findings : List Finding)
    (dryRun : Bool) (s : σ) : Except ReviewError Outcome × σ :=
  if findings.isEmpty then (.ok { dryRun := dryRun }, s)
  else if !dryRun && !host.isAuthenticated s then (.error (.missingCredentials pr), s)
  else
    match existingSignatures host o pr s with
    | (.error e, s) => (.error e, s)
    | (.ok known, s) => postNew host o pr findings dryRun known s

end Posting

end PatchReview
