import Mathlib.Data.List.Nodup
import Mathlib.Data.Option.Basic
import PatchReview.Proofs.PostEffect

/-!
# Posting at most once

A run is any sequence of postings on one thread, each with its own findings and
options, live or dry, with failures of the host wherever they come; between the
postings others may add comments.  As long as every scan reaches the whole thread and
no remark looks like a trailer, no signature is submitted twice over the whole run.

The invariant ties the thread to what was accepted: every accepted draft stands on
the thread with its signature, so the next scan knows it.

Main results:

- Definition `PostingRun`: the runs.
- Theorem `runInvariant_post`: a posting keeps the invariant.
- Theorem `accepted_at_most_once`: the accepted signatures of a run are distinct, and
  none of them stood on the thread when its posting began.
-/

namespace PatchReview

variable {σ : Type} {host : Host σ} {pr : PullRequestRef} {thread : σ → List (Option String)}

/-- What one posting of a run was given, met and did. -/
structure PostRecord where
  /-- The findings it was given. -/
  findings : List Finding
  /-- The thread when it began. -/
  before : List (Option String)
  /-- The drafts of all its reviews that were accepted. -/
  accepted : List Draft

/-- The record of a posting in some state of the host. -/
def Posting.recordOf (host : Host σ) (pr : PullRequestRef) (thread : σ → List (Option String))
    (o : PostingOptions) (findings : List Finding) (dryRun : Bool) (s : σ) : PostRecord where
  findings := findings
  before := thread s
  accepted := acceptedDrafts (Posting.post host.recorded o pr findings dryRun (s, [])).2.2

/-- The runs of postings on a thread, with their records.  A posting takes any options,
raised to what is allowed, findings whose remarks hold no trailer, and a thread that the
scan can reach as a whole.  In between others add comments, and the host may change in
any way that leaves the thread alone: a failure may be scripted or credentials lost. -/
inductive PostingRun (host : Host σ) (pr : PullRequestRef) (thread : σ → List (Option String)) :
    σ → List PostRecord → σ → Prop where
  | start (s : σ) : PostingRun host pr thread s [] s
  | post {s t : σ} {records : List PostRecord} (run : PostingRun host pr thread s records t)
      (o : PostingOptions) (findings : List Finding) (dryRun : Bool)
      (hremarks : ∀ f ∈ findings, Signature.extract f.remark = none)
      (hfits : (thread t).length ≤ o.raised.perPage * o.raised.maxCommentPages) :
      PostingRun host pr thread s
        (records ++ [Posting.recordOf host pr thread o.raised findings dryRun t])
        (Posting.post host o.raised pr findings dryRun t).2
  | others {s t t' : σ} {records : List PostRecord} (run : PostingRun host pr thread s records t)
      (comments : List (Option String)) (hcomments : thread t' = thread t ++ comments) :
      PostingRun host pr thread s records t'

/-- The signature that a draft carries. -/
def Draft.signature? (d : Draft) : Option String :=
  Signature.extract d.body

/-- What holds of the records and the thread at every moment of a run. -/
structure RunInvariant (records : List PostRecord) (comments : List (Option String)) : Prop where
  /-- An accepted draft was made for a finding that was not on the thread. -/
  fresh : ∀ r ∈ records, ∀ d ∈ r.accepted, ∃ f ∈ r.findings,
    d = Posting.draftOf f ∧ d.signature? = some f.signature ∧ f.signature ∉ carried r.before
  /-- No signature was accepted twice. -/
  nodup : ((records.flatMap (·.accepted)).map Draft.signature?).Nodup
  /-- What was accepted is on the thread. -/
  on_thread : ∀ d ∈ records.flatMap (·.accepted), ∀ x, d.signature? = some x → x ∈ carried comments

/-- Comments of others keep the invariant. -/
theorem runInvariant_others {records : List PostRecord} {comments : List (Option String)}
    (h : RunInvariant records comments) (others : List (Option String)) :
    RunInvariant records (comments ++ others) where
  fresh := h.fresh
  nodup := h.nodup
  on_thread := by
    intro d hd x hx
    rw [carried_append]
    exact List.mem_append_left _ (h.on_thread d hd x hx)

/-- A draft for a finding whose remark holds no trailer carries the finding's signature. -/
theorem signature?_draftOf {f : Finding} (h : Signature.extract f.remark = none) :
    (Posting.draftOf f).signature? = some f.signature := by
  rw [Draft.signature?, Posting.draftOf, Finding.extract_commentBody,
    Finding.readSignature_of_extract_remark h]

/-- Accepted drafts for new findings keep the invariant when their comments are added. -/
theorem runInvariant_append {records : List PostRecord} {r : PostRecord} {posted : List Finding}
    (h : RunInvariant records r.before)
    (hremarks : ∀ f ∈ r.findings, Signature.extract f.remark = none)
    (hnew : posted.Sublist (Posting.newFindings (carried r.before) r.findings))
    (haccepted : r.accepted = posted.map Posting.draftOf) :
    RunInvariant (records ++ [r]) (r.before ++ posted.map fun f => some f.commentBody) := by
  have hmem : ∀ f ∈ posted, f ∈ r.findings := fun f hf =>
    (Posting.newFindings_sublist _ _).subset (hnew.subset hf)
  have hfresh : ∀ f ∈ posted, f.signature ∉ carried r.before := fun f hf =>
    Posting.signature_not_mem_of_mem_newFindings (hnew.subset hf)
  have hsignature : ∀ f ∈ posted, (Posting.draftOf f).signature? = some f.signature :=
    fun f hf => signature?_draftOf (hremarks f (hmem f hf))
  have hread : posted.map Finding.readSignature = posted.map Finding.signature :=
    List.map_congr_left fun f hf =>
      Finding.readSignature_of_extract_remark (hremarks f (hmem f hf))
  have hall : (records ++ [r]).flatMap (·.accepted) =
      records.flatMap (·.accepted) ++ posted.map Posting.draftOf := by
    rw [List.flatMap_append, List.flatMap_singleton, haccepted]
  constructor
  case fresh =>
    intro r' hr d hd
    rcases List.mem_append.1 hr with hr | hr
    · exact h.fresh r' hr d hd
    · obtain rfl := List.mem_singleton.1 hr
      rw [haccepted] at hd
      obtain ⟨f, hf, rfl⟩ := List.mem_map.1 hd
      exact ⟨f, hmem f hf, rfl, hsignature f hf, hfresh f hf⟩
  case nodup =>
    have hsignatures : (posted.map Posting.draftOf).map Draft.signature? =
        (posted.map Finding.signature).map some := by
      rw [List.map_map, List.map_map]
      exact List.map_congr_left hsignature
    have hdistinct : (posted.map Finding.signature).Nodup :=
      (Posting.nodup_signature_newFindings _ _).sublist (hnew.map Finding.signature)
    rw [hall, List.map_append, hsignatures, List.nodup_append]
    refine ⟨h.nodup, hdistinct.map (Option.some_injective _), ?_⟩
    rintro a ha b hb rfl
    obtain ⟨d, hd, hold⟩ := List.mem_map.1 ha
    obtain ⟨x, hx, rfl⟩ := List.mem_map.1 hb
    obtain ⟨f, hf, rfl⟩ := List.mem_map.1 hx
    exact hfresh f hf (h.on_thread d hd f.signature hold)
  case on_thread =>
    intro d hd x hx
    rw [hall] at hd
    rw [carried_append, carried_map_commentBody, hread]
    rcases List.mem_append.1 hd with hd | hd
    · exact List.mem_append_left _ (h.on_thread d hd x hx)
    · obtain ⟨f, hf, rfl⟩ := List.mem_map.1 hd
      rw [hsignature f hf, Option.some.injEq] at hx
      exact List.mem_append_right _ (List.mem_map.2 ⟨f, hf, hx⟩)

/-- A posting keeps the invariant. -/
theorem runInvariant_post (hk : host.KeepsThread pr thread) {records : List PostRecord} {t : σ}
    (h : RunInvariant records (thread t)) (o : PostingOptions) (findings : List Finding)
    (dryRun : Bool) (hremarks : ∀ f ∈ findings, Signature.extract f.remark = none)
    (hfits : (thread t).length ≤ o.perPage * o.maxCommentPages) :
    RunInvariant (records ++ [Posting.recordOf host pr thread o findings dryRun t])
      (thread (Posting.post host o pr findings dryRun t).2) := by
  obtain ⟨posted, left, heffect⟩ := Posting.post_spec hk o findings dryRun hfits []
  have hthread := heffect.thread_eq
  rw [(Posting.post_recorded host pr o findings dryRun t []).2] at hthread
  have haccepted : (Posting.recordOf host pr thread o findings dryRun t).accepted =
      posted.map Posting.draftOf := heffect.acceptedDrafts_eq
  have hnew : posted.Sublist (Posting.newFindings (carried (thread t)) findings) := by
    rw [Posting.newFindings_eq_unposted (fun _ => Iff.rfl), heffect.unposted_eq]
    exact List.sublist_append_left posted left
  rw [hthread]
  exact runInvariant_append h hremarks hnew haccepted

/-- The invariant holds throughout a run. -/
theorem PostingRun.runInvariant (hk : host.KeepsThread pr thread) {s t : σ}
    {records : List PostRecord} (hrun : PostingRun host pr thread s records t) :
    RunInvariant records (thread t) := by
  induction hrun with
  | start => constructor <;> simp
  | post run o findings dryRun hremarks hfits ih =>
      exact runInvariant_post hk ih o.raised findings dryRun hremarks hfits
  | others run comments hcomments ih =>
      rw [hcomments]
      exact runInvariant_others ih comments

/-- Over a whole run no signature is accepted twice, and none that stood on the thread
when its posting began. -/
theorem accepted_at_most_once (hk : host.KeepsThread pr thread) {s t : σ}
    {records : List PostRecord} (hrun : PostingRun host pr thread s records t) :
    ((records.flatMap (·.accepted)).map Draft.signature?).Nodup ∧
      ∀ r ∈ records, ∀ d ∈ r.accepted, ∃ f ∈ r.findings, d = Posting.draftOf f ∧
        d.signature? = some f.signature ∧ f.signature ∉ carried r.before := by
  have hinvariant := hrun.runInvariant hk
  exact ⟨hinvariant.nodup, hinvariant.fresh⟩

/-- A refused posting, a comment of someone else and the same posting again. -/
theorem accepted_at_most_once_after_refusal :
    ∃ records t,
      PostingRun Thread.host ⟨"acme", "widgets", 1⟩ Thread.comments
        { authenticated := true, pull := .error .network, comments := [some "LGTM", none]
          failingReview := some (1, .api 502 "Bad Gateway") } records t ∧
      records.length = 2 ∧
      ((records.flatMap (·.accepted)).map Draft.signature?).Nodup ∧
      ∀ r ∈ records, ∀ d ∈ r.accepted, ∃ f ∈ r.findings, d = Posting.draftOf f ∧
        d.signature? = some f.signature ∧ f.signature ∉ carried r.before := by
  let pr : PullRequestRef := ⟨"acme", "widgets", 1⟩
  let first : Thread :=
    { authenticated := true, pull := .error .network, comments := [some "LGTM", none]
      failingReview := some (1, .api 502 "Bad Gateway") }
  let findings : List Finding := [⟨"src/a.ts", 2, "Avoid TODO.", some "no-todo", none⟩]
  let second : Thread := (Posting.post Thread.host ({} : PostingOptions).raised pr findings false
    first).2
  have hkeeps : Thread.host.KeepsThread pr Thread.comments := Thread.keepsThread pr
  have hremarks : ∀ f ∈ findings, Signature.extract f.remark = none := by decide
  have hfirst : PostingRun Thread.host pr Thread.comments first _ second :=
    .post (.start first) {} findings false hremarks (by decide)
  have hlength : second.comments.length ≤ 3 :=
    Posting.length_thread_post_le hkeeps _ findings false (by decide)
  have hothers : PostingRun Thread.host pr Thread.comments first _
      { second with comments := second.comments ++ [some "Done."] } :=
    .others hfirst [some "Done."] rfl
  have hsecond := hothers.post {} findings false hremarks (by
    rw [List.length_append]
    exact Nat.le_trans (Nat.add_le_add_right hlength 1) (by decide))
  exact ⟨_, _, hsecond, rfl, accepted_at_most_once hkeeps hsecond⟩

end PatchReview
