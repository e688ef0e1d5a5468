import PatchReview.Proofs.PostEffect

/-!
# Posting again after a failure

A posting that fails may have added some of its comments.  Repeating it until it
succeeds leaves the same thread as one posting on a host without failures, wherever
the failures come and however the batches fall: each attempt adds a first part of
what is still to be posted, the next scan recognises this part, and so the thread
that all attempts work towards stays the same.

Main results:

- Definition `completed`: the thread with everything posted.
- Theorem `completed_post`: an attempt keeps the completed thread.
- Theorem `postUntilDone_converges`: on a host that fails finitely often the attempts
  come to an end, and with the completed thread.
-/

namespace PatchReview

/-- The thread once the findings are posted: one more comment for every signature that no
comment carries, in the order of the findings. -/
def completed (comments : List (Option String)) (findings : List Finding) :
    List (Option String) :=
  comments ++ (unposted comments findings).map fun f => some f.commentBody

/-- The completed thread has at most one more comment for each finding. -/
theorem length_completed_le (comments : List (Option String)) (findings : List Finding) :
    (completed comments findings).length ≤ comments.length + findings.length := by
  have hle := (Posting.unposted_sublist comments findings).length_le
  rw [completed, List.length_append, List.length_map]
  omega

namespace Posting

variable {σ : Type} {host : Host σ} {pr : PullRequestRef} {thread : σ → List (Option String)}

/-- When comments for the first findings still to be posted are added, the others are
still to be posted. -/
theorem unposted_append {comments : List (Option String)} {findings posted left : List Finding}
    (hremarks : ∀ f ∈ findings, Signature.extract f.remark = none)
    (hsplit : unposted comments findings = posted ++ left) :
    unposted (comments ++ posted.map fun f => some f.commentBody) findings = left := by
  have hmem : ∀ f ∈ posted, f ∈ findings := by
    intro f hf
    apply (unposted_sublist comments findings).subset
    rw [hsplit]
    exact List.mem_append_left left hf
  have hread : posted.map Finding.readSignature = posted.map Finding.signature :=
    List.map_congr_left fun f hf =>
      Finding.readSignature_of_extract_remark (hremarks f (hmem f hf))
  rw [← newFindings_eq_unposted (fun _ => Iff.rfl)] at hsplit ⊢
  apply newFindings_of_posted hsplit
  intro x
  rw [carried_append, carried_map_commentBody, hread, List.mem_append]

/-- An attempt keeps the completed thread, and reaches it if it succeeds. -/
theorem completed_post (hk : host.KeepsThread pr thread) {o : PostingOptions}
    {findings : List Finding} {s : σ}
    (hremarks : ∀ f ∈ findings, Signature.extract f.remark = none)
    (hfits : (completed (thread s) findings).length ≤ o.perPage * o.maxCommentPages) :
    completed (thread (post host o pr findings false s).2) findings =
        completed (thread s) findings ∧
      ∀ outcome, (post host o pr findings false s).1 = .ok outcome →
        thread (post host o pr findings false s).2 = completed (thread s) findings := by
  have hbefore : (thread s).length ≤ o.perPage * o.maxCommentPages := by
    rw [completed, List.length_append] at hfits
    omega
  obtain ⟨posted, left, hsplit, hthread, hleft⟩ := thread_post hk o findings false hbefore
  constructor
  · rw [completed, hthread, unposted_append hremarks hsplit, completed, hsplit, List.map_append,
      List.append_assoc]
  · intro outcome houtcome
    rw [hthread, completed, hsplit, hleft outcome houtcome rfl, List.append_nil]

/-- Post live, and after a failure again, up to `n` more times. -/
def postUntilDone (host : Host σ) (o : PostingOptions) (pr : PullRequestRef)
    (findings : List Finding) : Nat → σ → Except ReviewError Outcome × σ
  | 0, s => post host o pr findings false s
  | n + 1, s =>
    match post host o pr findings false s with
    | (.ok outcome, s) => (.ok outcome, s)
    | (.error _, s) => postUntilDone host o pr findings n s

/-- On a host that fails at most `n` times, `n` further attempts are enough, and they
complete the thread. -/
theorem postUntilDone_eq (hk : host.KeepsThread pr thread) {o : PostingOptions}
    {findings : List Finding} {n : Nat} {s : σ} (hauth : host.isAuthenticated s = true)
    (hremarks : ∀ f ∈ findings, Signature.extract f.remark = none)
    (hfits : (completed (thread s) findings).length ≤ o.perPage * o.maxCommentPages)
    (hfails : host.FailsAtMost pr n s) :
    ∃ outcome s', postUntilDone host o pr findings n s = (.ok outcome, s') ∧
      thread s' = completed (thread s) findings := by
  induction n generalizing s with
  | zero =>
      obtain ⟨-, hdone⟩ := completed_post hk hremarks hfits
      obtain ⟨outcome, s', hpost⟩ := exists_post_eq_ok (Or.inr hauth) hfails
      rw [hpost] at hdone
      exact ⟨outcome, s', hpost, hdone outcome rfl⟩
  | succ n ih =>
      obtain ⟨hcompleted, hdone⟩ := completed_post hk hremarks hfits
      have hcredentials := isAuthenticated_post hk o findings false s
      cases hpost : post host o pr findings false s with
      | mk answer s' =>
          rw [postUntilDone, hpost]
          cases answer with
          | error e =>
              obtain ⟨m, hm, hrest⟩ := post_of_error (Or.inr hauth) hfails (congrArg Prod.fst hpost)
              obtain rfl := Nat.succ.inj hm
              rw [hpost] at hcompleted hcredentials hrest
              rw [← hcompleted] at hfits ⊢
              exact ih (hcredentials.trans hauth) hfits hrest
          | ok outcome =>
              rw [hpost] at hdone
              exact ⟨outcome, s', rfl, hdone outcome rfl⟩

/-- Attempts that are repeated until one succeeds come to an end on a host that fails
finitely often, and leave the thread that one posting without failures would leave. -/
theorem postUntilDone_converges (hk : host.KeepsThread pr thread) {o : PostingOptions}
    {findings : List Finding} {n : Nat} {s : σ} (hauth : host.isAuthenticated s = true)
    (hremarks : ∀ f ∈ findings, Signature.extract f.remark = none)
    (hfits : (completed (thread s) findings).length ≤ o.perPage * o.maxCommentPages)
    (hfails : host.FailsAtMost pr n s) :
    (∃ outcome, (postUntilDone host o pr findings n s).1 = .ok outcome) ∧
      thread (postUntilDone host o pr findings n s).2 =
        thread s ++ (unposted (thread s) findings).map (fun f => some f.commentBody) ∧
      ∀ t, thread t = thread s → host.isAuthenticated t = true → host.FailsAtMost pr 0 t →
        (∃ outcome, (post host o pr findings false t).1 = .ok outcome) ∧
          thread (post host o pr findings false t).2 =
            thread (postUntilDone host o pr findings n s).2 := by
  obtain ⟨outcome, s', hdone, hthread⟩ := postUntilDone_eq hk hauth hremarks hfits hfails
  rw [hdone]
  refine ⟨⟨outcome, rfl⟩, hthread, ?_⟩
  intro t hsame hcredentials hsteady
  rw [← hsame] at hfits
  obtain ⟨outcome', t', hpost, hthread'⟩ :=
    postUntilDone_eq hk hcredentials hremarks hfits hsteady
  have hsingle : post host o pr findings false t = (.ok outcome', t') := hpost
  rw [hsingle, hthread', hthread, hsame]
  exact ⟨⟨outcome', rfl⟩, rfl⟩

/-- Three findings in batches of two on a host that refuses the second review. -/
theorem postUntilDone_converges_after_refusal :
    let pr : PullRequestRef := ⟨"acme", "widgets", 1⟩
    let s : Thread :=
      { authenticated := true, pull := .error .network, comments := [some "LGTM", none]
        failingReview := some (2, .api 502 "Bad Gateway") }
    let o : PostingOptions := { batchSize := 2, perPage := 3, maxCommentPages := 2 }
    let findings : List Finding := [⟨"src/a.ts", 2, "Avoid TODO.", some "no-todo", none⟩,
      ⟨"src/a.ts", 5, "Avoid TODO.", some "no-todo", none⟩,
      ⟨"src/b.ts", 1, "Too long.", none, none⟩]
    Thread.host.FailsAtMost pr 1 s ∧
      (completed s.comments findings).length ≤ o.perPage * o.maxCommentPages ∧
      (∃ outcome, (postUntilDone Thread.host o pr findings 1 s).1 = .ok outcome) ∧
      (postUntilDone Thread.host o pr findings 1 s).2.comments =
        s.comments ++ (unposted s.comments findings).map (fun f => some f.commentBody) ∧
      ∀ t : Thread, t.comments = s.comments → t.authenticated = true →
        Thread.host.FailsAtMost pr 0 t →
        (∃ outcome, (post Thread.host o pr findings false t).1 = .ok outcome) ∧
          (post Thread.host o pr findings false t).2.comments =
            (postUntilDone Thread.host o pr findings 1 s).2.comments := by
  intro pr s o findings
  have hfails : Thread.host.FailsAtMost pr 1 s := Thread.failsAtMost_one rfl
  have hfits : (completed s.comments findings).length ≤ o.perPage * o.maxCommentPages :=
    Nat.le_trans (length_completed_le s.comments findings) (by decide)
  exact ⟨hfails, hfits,
    postUntilDone_converges (Thread.keepsThread pr) rfl (by decide) hfits hfails⟩

end Posting

end PatchReview
