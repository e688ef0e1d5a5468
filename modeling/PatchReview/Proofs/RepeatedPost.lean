import PatchReview.Proofs.PostEffect

/-!
# Posting the same findings again

A posting that succeeds is meant to leave nothing for the next one to do.  Whether it
does depends on the remarks: a comment is read back with the first trailer in it, and
a remark may hold one in front of the finding's own.  Of the findings that the first
posting adds, the next one adds again those whose signatures are read back from none
of the new comments.

Main results:

- Structure `PostsNothing`: a live posting that finds everything posted.
- Theorem `postsNothing_iff`: when a posting is of that kind.
- Theorem `postsNothing_again_iff`: when the second of two postings is of that kind.
-/

namespace PatchReview.Posting

variable {σ : Type} {host : Host σ} {pr : PullRequestRef} {thread : σ → List (Option String)}

/-- A live posting that finds everything posted: it asks for no review, leaves the thread
as it is and counts every finding as a duplicate. -/
structure PostsNothing (host : Host σ) (pr : PullRequestRef) (thread : σ → List (Option String))
    (o : PostingOptions) (findings : List Finding) (s : σ) : Prop where
  reviewsAsked_eq : reviewsAsked (post host.recorded o pr findings false (s, [])).2.2 = []
  thread_eq : thread (post host o pr findings false s).2 = thread s
  answer_eq : ∃ outcome, (post host o pr findings false s).1 = .ok outcome ∧
    outcome.toPost = 0 ∧ outcome.submitted = 0 ∧ outcome.skippedDuplicates = findings.length

/-- A posting whose scan succeeds and that has nothing to post succeeds. -/
theorem post_of_unposted_eq_nil (hk : host.KeepsThread pr thread) {o : PostingOptions}
    {findings : List Finding} {s : σ} (hauth : findings ≠ [] → host.isAuthenticated s = true)
    (hfits : (thread s).length ≤ o.perPage * o.maxCommentPages)
    (hscan : ∃ known, (existingSignatures host o pr s).1 = .ok known)
    (hnone : unposted (thread s) findings = []) :
    ∃ outcome, (post host o pr findings false s).1 = .ok outcome := by
  by_cases hne : findings = []
  · subst hne
    exact ⟨_, rfl⟩
  obtain ⟨known, hknown⟩ := hscan
  have hmem := mem_existingSignatures_iff hk hknown hfits
  rw [post_of_scan_ok hne (Or.inr (hauth hne)) (Prod.ext hknown rfl), postNew,
    newFindings_eq_unposted hmem, hnone]
  exact ⟨_, rfl⟩

/-- On a thread within the page limit whose comments can be listed, a posting posts
nothing exactly when no finding is still to be posted. -/
theorem postsNothing_iff (hk : host.KeepsThread pr thread) {o : PostingOptions}
    {findings : List Finding} {s : σ} (hauth : findings ≠ [] → host.isAuthenticated s = true)
    (hfits : (thread s).length ≤ o.perPage * o.maxCommentPages)
    (hscan : ∃ known, (existingSignatures host o pr s).1 = .ok known) :
    PostsNothing host pr thread o findings s ↔ unposted (thread s) findings = [] := by
  obtain ⟨posted, left, heffect⟩ := post_spec hk o findings false hfits []
  have hstate := heffect.thread_eq
  have htoPost := heffect.toPost_eq
  have hskipped := heffect.skippedDuplicates_eq
  have hsubmitted := heffect.submitted_eq
  obtain ⟨hanswer, hafter⟩ := post_recorded host pr o findings false s []
  rw [hafter] at hstate
  rw [hanswer] at htoPost hskipped hsubmitted
  constructor
  · rintro ⟨-, -, outcome, hok, hzero, -⟩
    apply List.eq_nil_of_length_eq_zero
    rw [← htoPost outcome hok, hzero]
  · intro hnone
    have hposted : posted = [] := by
      have hsplit := heffect.unposted_eq
      rw [hnone] at hsplit
      exact (List.append_eq_nil_iff.1 hsplit.symm).1
    obtain ⟨outcome, hok⟩ := post_of_unposted_eq_nil hk hauth hfits hscan hnone
    exact {
      reviewsAsked_eq := heffect.reviewsAsked_eq hnone
      thread_eq := by
        rw [hstate, hposted, List.map_nil, List.append_nil]
      answer_eq := by
        refine ⟨outcome, hok, ?_, ?_, ?_⟩
        · rw [htoPost outcome hok, hnone, List.length_nil]
        · rw [hsubmitted outcome hok, hposted, List.length_nil]
        · rw [hskipped outcome hok, hnone, List.length_nil, Nat.sub_zero] }

/-- A live posting that succeeds leaves the findings whose signatures are not read back
from the comments that it added. -/
theorem unposted_post (hk : host.KeepsThread pr thread) {o : PostingOptions}
    {findings : List Finding} {s s' : σ} {outcome : Outcome}
    (hfits : (thread s).length ≤ o.perPage * o.maxCommentPages)
    (hpost : post host o pr findings false s = (.ok outcome, s')) :
    unposted (thread s') findings = (unposted (thread s) findings).filter fun f =>
      f.signature ∉ (unposted (thread s) findings).map Finding.readSignature := by
  obtain ⟨posted, left, hsplit, hthread, hleft⟩ := thread_post hk o findings false hfits
  rw [hpost] at hthread hleft
  have hall : unposted (thread s) findings = posted := by
    rw [hsplit, hleft outcome rfl rfl, List.append_nil]
  rw [hthread, unposted_append_map_commentBody, hall]

/-- A live posting with findings that succeeds has credentials, before and after. -/
theorem isAuthenticated_of_post_eq_ok (hk : host.KeepsThread pr thread) {o : PostingOptions}
    {findings : List Finding} {s s' : σ} {outcome : Outcome} (hne : findings ≠ [])
    (hpost : post host o pr findings false s = (.ok outcome, s')) :
    host.isAuthenticated s' = true := by
  have hkept := isAuthenticated_post hk o findings false s
  rw [hpost] at hkept
  by_contra hauth
  rw [hkept, Bool.not_eq_true] at hauth
  rw [post_of_not_isAuthenticated hne hauth] at hpost
  cases congrArg Prod.fst hpost

/-- A live posting with room for its findings succeeds on a host that does not fail, and
the comments can be listed afterwards. -/
theorem exists_post_eq_ok_of_room (hk : host.KeepsThread pr thread) {o : PostingOptions}
    {findings : List Finding} {s : σ} (hauth : host.isAuthenticated s = true)
    (hsteady : host.FailsAtMost pr 0 s)
    (hroom : (thread s).length + findings.length ≤ o.perPage * o.maxCommentPages) :
    ∃ outcome s', post host o pr findings false s = (.ok outcome, s') ∧
      (thread s').length ≤ o.perPage * o.maxCommentPages ∧
      ∃ known, (existingSignatures host o pr s').1 = .ok known := by
  have hbefore : (thread s).length ≤ o.perPage * o.maxCommentPages := by omega
  have hlength := length_thread_post_le hk o findings false hbefore
  have hsteady' := failsAtMost_post o findings false hsteady
  have hok : ∃ outcome s', post host o pr findings false s = (.ok outcome, s') :=
    exists_post_eq_ok (Or.inr hauth) hsteady
  obtain ⟨outcome, s', hpost⟩ := hok
  rw [hpost] at hlength hsteady'
  exact ⟨outcome, s', hpost, Nat.le_trans hlength hroom, exists_existingSignatures_eq_ok hsteady'⟩

/-- After a live posting that succeeds a second one posts nothing exactly when every
finding that the first one added has its signature read back from one of the comments
that the first one added. -/
theorem postsNothing_again_iff (hk : host.KeepsThread pr thread) {o : PostingOptions}
    {findings : List Finding} {s s' : σ} {outcome : Outcome}
    (hpost : post host o pr findings false s = (.ok outcome, s'))
    (hfits : (thread s').length ≤ o.perPage * o.maxCommentPages)
    (hscan : ∃ known, (existingSignatures host o pr s').1 = .ok known) :
    PostsNothing host pr thread o findings s' ↔
      ∀ f ∈ unposted (thread s) findings,
        ∃ g ∈ unposted (thread s) findings, g.readSignature = f.signature := by
  have hbefore : (thread s).length ≤ o.perPage * o.maxCommentPages := by
    obtain ⟨added, hadded⟩ := exists_thread_post_eq hk o findings false s
    rw [hpost] at hadded
    rw [hadded, List.length_append] at hfits
    omega
  have hauth : findings ≠ [] → host.isAuthenticated s' = true :=
    fun hne => isAuthenticated_of_post_eq_ok hk hne hpost
  rw [postsNothing_iff hk hauth hfits hscan, unposted_post hk hbefore hpost,
    List.filter_eq_nil_iff]
  constructor
  · intro h f hf
    exact List.mem_map.1 (by simpa using h f hf)
  · intro h f hf
    have hmem : f.signature ∈ (unposted (thread s) findings).map Finding.readSignature :=
      List.mem_map.2 (h f hf)
    simpa using hmem

/-- Two findings with plain messages on a thread that has comments. -/
theorem postsNothing_again_of_plain_messages :
    let pr : PullRequestRef := ⟨"acme", "widgets", 1⟩
    let s : Thread :=
      { authenticated := true, pull := .error .network, comments := [some "LGTM", none] }
    let o : PostingOptions := { batchSize := 2, perPage := 2, maxCommentPages := 2 }
    let findings : List Finding := [⟨"src/a.ts", 2, "Avoid TODO.", some "no-todo", none⟩,
      ⟨"src/b.ts", 1, "Too long.", none, none⟩]
    ∃ outcome s', post Thread.host o pr findings false s = (.ok outcome, s') ∧
      s'.comments.length ≤ o.perPage * o.maxCommentPages ∧
      (∃ known, (existingSignatures Thread.host o pr s').1 = .ok known) ∧
      (PostsNothing Thread.host pr Thread.comments o findings s' ↔
        ∀ f ∈ unposted s.comments findings,
          ∃ g ∈ unposted s.comments findings, g.readSignature = f.signature) := by
  intro pr s o findings
  have hk := Thread.keepsThread pr
  have hsteady : Thread.host.FailsAtMost pr 0 s := Thread.failsAtMost_zero rfl rfl
  have hroom : s.comments.length + findings.length ≤ o.perPage * o.maxCommentPages := by decide
  obtain ⟨outcome, s', hpost, hfits, hscan⟩ := exists_post_eq_ok_of_room hk rfl hsteady hroom
  exact ⟨outcome, s', hpost, hfits, hscan, postsNothing_again_iff hk hpost hfits hscan⟩

/-- A finding whose message holds a trailer of its own is not recognised afterwards. -/
theorem not_postsNothing_again_of_trailer_in_message :
    let pr : PullRequestRef := ⟨"acme", "widgets", 1⟩
    let s : Thread := { authenticated := true, pull := .error .network }
    let o : PostingOptions := {}
    let findings : List Finding := [⟨"src/a.ts", 2, "<!-- mcp:sig=deadbeef -->", none, none⟩]
    ∃ outcome s', post Thread.host o pr findings false s = (.ok outcome, s') ∧
      s'.comments.length ≤ o.perPage * o.maxCommentPages ∧
      (∃ known, (existingSignatures Thread.host o pr s').1 = .ok known) ∧
      ¬ PostsNothing Thread.host pr Thread.comments o findings s' := by
  intro pr s o findings
  have hk := Thread.keepsThread pr
  have hsteady : Thread.host.FailsAtMost pr 0 s := Thread.failsAtMost_zero rfl rfl
  have hroom : s.comments.length + findings.length ≤ o.perPage * o.maxCommentPages := by decide
  obtain ⟨outcome, s', hpost, hfits, hscan⟩ := exists_post_eq_ok_of_room hk rfl hsteady hroom
  refine ⟨outcome, s', hpost, hfits, hscan, ?_⟩
  have hauth : findings ≠ [] → Thread.host.isAuthenticated s' = true :=
    fun hne => isAuthenticated_of_post_eq_ok hk hne hpost
  have hfirst : unposted s.comments findings = findings := by
    rw [← newFindings_eq_unposted (fun _ => Iff.rfl)]
    simp [newFindings, findings, s, carried]
  rw [postsNothing_iff hk hauth hfits hscan, unposted_post hk (Nat.zero_le _) hpost, hfirst,
    List.filter_eq_nil_iff]
  intro hread
  have hextract : Signature.extract (Finding.remark
      ⟨"src/a.ts", 2, "<!-- mcp:sig=deadbeef -->", none, none⟩) = some "deadbeef" := by decide
  have hmem : Finding.signature ⟨"src/a.ts", 2, "<!-- mcp:sig=deadbeef -->", none, none⟩ =
      "deadbeef" := by
    simpa [findings, Finding.readSignature, hextract] using hread _ List.mem_cons_self
  have hlength := Finding.length_signature ⟨"src/a.ts", 2, "<!-- mcp:sig=deadbeef -->", none, none⟩
  rw [hmem] at hlength
  exact absurd hlength (by decide)

end PatchReview.Posting
