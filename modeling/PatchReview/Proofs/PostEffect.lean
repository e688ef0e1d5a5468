import PatchReview.Proofs.Submission

/-!
# The effect of a posting

A posting scans the thread, drops the findings whose signatures are known and submits
the rest.  On a host that keeps a thread it adds the first of the findings still to
be posted, all of them if it succeeds live.  The host is recorded, so that the drafts
it accepted and the reviews it was asked for can be named.

Main results:

- Theorem `course_post`: the ways that a posting can go.
- Structure `Posted`: the effect of a posting.
- Theorem `post_spec`: every posting on a thread within the page limit has it.
- Theorem `post_recorded`: recording a posting does not change it.
- Theorem `thread_post`: the comments that a posting adds.
- Theorem `post_invariant`: what every request preserves, a posting preserves.
- Theorem `post_of_error`: a posting with credentials that fails uses up a failure
  of the host.
-/

namespace PatchReview.Posting

variable {σ : Type} {host : Host σ} {pr : PullRequestRef} {thread : σ → List (Option String)}

/-! ## The stages of a posting -/

/-- Without findings nothing is asked of the host. -/
theorem post_nil (o : PostingOptions) (dryRun : Bool) (s : σ) :
    post host o pr [] dryRun s = (.ok { dryRun := dryRun }, s) :=
  rfl

/-- Without credentials a live posting asks nothing of the host. -/
theorem post_of_not_isAuthenticated {o : PostingOptions} {findings : List Finding} {s : σ}
    (hne : findings ≠ []) (hauth : host.isAuthenticated s = false) :
    post host o pr findings false s = (.error (.missingCredentials pr), s) := by
  have hempty : findings.isEmpty = false := by simpa using hne
  simp only [post, hempty, hauth]
  rfl

/-- Credentials are not missing in a dry run or when there are some. -/
theorem isMissing_eq_false {dryRun isAuthenticated : Bool}
    (h : dryRun = true ∨ isAuthenticated = true) : (!dryRun && !isAuthenticated) = false := by
  rcases h with rfl | rfl
  · rfl
  · exact Bool.and_false _

/-- A posting whose scan fails ends with it. -/
theorem post_of_scan_error {o : PostingOptions} {findings : List Finding} {dryRun : Bool}
    {s s' : σ} {e : ReviewError} (hne : findings ≠ [])
    (hauth : dryRun = true ∨ host.isAuthenticated s = true)
    (hscan : existingSignatures host o pr s = (.error e, s')) :
    post host o pr findings dryRun s = (.error e, s') := by
  have hempty : findings.isEmpty = false := by simpa using hne
  simp only [post, hempty, isMissing_eq_false hauth, hscan]
  rfl

/-- A posting whose scan succeeds goes on with the new findings. -/
theorem post_of_scan_ok {o : PostingOptions} {findings : List Finding} {dryRun : Bool}
    {s s' : σ} {known : List String} (hne : findings ≠ [])
    (hauth : dryRun = true ∨ host.isAuthenticated s = true)
    (hscan : existingSignatures host o pr s = (.ok known, s')) :
    post host o pr findings dryRun s = postNew host o pr findings dryRun known s' := by
  have hempty : findings.isEmpty = false := by simpa using hne
  simp only [post, hempty, isMissing_eq_false hauth, hscan]
  rfl

/-- What a posting of findings counts before it submits anything. -/
def counted (known : List String) (findings : List Finding) (dryRun : Bool) : Outcome where
  existing := known.length
  skippedDuplicates := findings.length - ((newFindings known findings).map draftOf).length
  toPost := ((newFindings known findings).map draftOf).length
  dryRun := dryRun

/-- A posting that is dry or finds nothing new asks nothing of the host. -/
theorem postNew_of_idle {o : PostingOptions} {findings : List Finding} {dryRun : Bool}
    {known : List String} (h : dryRun = true ∨ newFindings known findings = []) (s : σ) :
    postNew host o pr findings dryRun known s = (.ok (counted known findings dryRun), s) := by
  have hidle : (((newFindings known findings).map draftOf).isEmpty || dryRun) = true := by
    rcases h with rfl | hnone
    · exact Bool.or_true _
    · rw [hnone]
      rfl
  simp only [postNew, hidle, if_true]
  rfl

/-- The batches that a posting submits. -/
def newBatches (o : PostingOptions) (known : List String) (findings : List Finding) :
    List (List Draft) :=
  Text.chunks o.batchSize ((newFindings known findings).map draftOf)

/-- The batches are the drafts of the new findings in order. -/
theorem flatten_newBatches (o : PostingOptions) (known : List String) (findings : List Finding) :
    (newBatches o known findings).flatten = (newFindings known findings).map draftOf :=
  Text.flatten_chunks _ _

/-- A live posting submits its new findings in batches. -/
theorem postNew_of_ne_nil {o : PostingOptions} {findings : List Finding} {known : List String}
    (h : newFindings known findings ≠ []) (s : σ) :
    postNew host o pr findings false known s =
      submitBatches host pr (newBatches o known findings).length 0
        (counted known findings false) (newBatches o known findings) s := by
  have hlive : (((newFindings known findings).map draftOf).isEmpty || false) = false := by
    rw [Bool.or_false]
    exact List.isEmpty_eq_false_iff.2 (mt List.map_eq_nil_iff.1 h)
  simp only [postNew, hlive, Bool.false_eq_true, if_false]
  rfl

/-- The ways that a posting can go, with the posting beside it whose requests are
recorded. -/
inductive Course (host : Host σ) (pr : PullRequestRef) (o : PostingOptions)
    (findings : List Finding) (dryRun : Bool) (s : σ) (log : List Exchange) : Prop where
  /-- There are no findings. -/
  | empty (hnone : findings = [])
      (hpost : post host o pr findings dryRun s = (.ok { dryRun := dryRun }, s))
      (hrecorded : post host.recorded o pr findings dryRun (s, log) =
        (.ok { dryRun := dryRun }, s, log))
  /-- Credentials are needed, and missing. -/
  | locked (hlive : dryRun = false) (hauth : host.isAuthenticated s = false)
      (hpost : post host o pr findings dryRun s = (.error (.missingCredentials pr), s))
      (hrecorded : post host.recorded o pr findings dryRun (s, log) =
        (.error (.missingCredentials pr), s, log))
  /-- The scan fails. -/
  | unlisted (e : ReviewError) (s' : σ) (added : List Exchange)
      (hscan : existingSignatures host o pr s = (.error e, s'))
      (hadded : ∀ x ∈ added, x.drafts? = none)
      (hpost : post host o pr findings dryRun s = (.error e, s'))
      (hrecorded : post host.recorded o pr findings dryRun (s, log) =
        (.error e, s', log ++ added))
  /-- The scan succeeds, and the new findings are submitted. -/
  | listed (known : List String) (s' : σ) (added : List Exchange)
      (hscan : existingSignatures host o pr s = (.ok known, s'))
      (hadded : ∀ x ∈ added, x.drafts? = none)
      (hpost : post host o pr findings dryRun s = postNew host o pr findings dryRun known s')
      (hrecorded : post host.recorded o pr findings dryRun (s, log) =
        postNew host.recorded o pr findings dryRun known (s', log ++ added))

variable (host pr) in
/-- Every posting goes one of these ways. -/
theorem course_post (o : PostingOptions) (findings : List Finding) (dryRun : Bool) (s : σ)
    (log : List Exchange) : Course host pr o findings dryRun s log := by
  by_cases hne : findings = []
  · subst hne
    exact .empty rfl rfl rfl
  by_cases hauth : dryRun = true ∨ host.isAuthenticated s = true
  · have hauthRecorded : dryRun = true ∨ host.recorded.isAuthenticated (s, log) = true := hauth
    obtain ⟨added, hrecorded, hadded⟩ := existingSignatures_recorded host pr o s log
    cases hscan : existingSignatures host o pr s with
    | mk answer s' =>
        rw [hscan] at hrecorded
        cases answer with
        | error e =>
            exact .unlisted e s' added hscan hadded (post_of_scan_error hne hauth hscan)
              (post_of_scan_error hne hauthRecorded hrecorded)
        | ok known =>
            exact .listed known s' added hscan hadded (post_of_scan_ok hne hauth hscan)
              (post_of_scan_ok hne hauthRecorded hrecorded)
  · rw [not_or, Bool.not_eq_true, Bool.not_eq_true] at hauth
    obtain ⟨rfl, hauth⟩ := hauth
    have hauthRecorded : host.recorded.isAuthenticated (s, log) = false := hauth
    exact .locked rfl hauth (post_of_not_isAuthenticated hne hauth)
      (post_of_not_isAuthenticated hne hauthRecorded)

/-! ## The effect -/

/-- The effect of a posting: of the findings still to be posted the ones in `posted` are
added to the thread, in order, and the ones in `left` are not. -/
structure Posted (host : Host σ) (thread : σ → List (Option String)) (findings : List Finding)
    (dryRun : Bool) (s : σ) (log : List Exchange) (posted left : List Finding)
    (result : Except ReviewError Outcome × σ × List Exchange) : Prop where
  unposted_eq : unposted (thread s) findings = posted ++ left
  thread_eq : thread result.2.1 = thread s ++ posted.map fun f => some f.commentBody
  acceptedDrafts_eq : acceptedDrafts result.2.2 = acceptedDrafts log ++ posted.map draftOf
  reviewsAsked_eq : unposted (thread s) findings = [] → reviewsAsked result.2.2 = reviewsAsked log
  left_eq_nil : ∀ outcome, result.1 = .ok outcome → dryRun = false → left = []
  toPost_eq : ∀ outcome, result.1 = .ok outcome →
    outcome.toPost = (unposted (thread s) findings).length
  skippedDuplicates_eq : ∀ outcome, result.1 = .ok outcome →
    outcome.skippedDuplicates = findings.length - (unposted (thread s) findings).length
  submitted_eq : ∀ outcome, result.1 = .ok outcome → outcome.submitted = posted.length

/-- A posting that asks for no review posts nothing. -/
theorem posted_of_no_review {findings : List Finding} {dryRun : Bool} {s : σ}
    {log added : List Exchange} {result : Except ReviewError Outcome × σ × List Exchange}
    (hthread : thread result.2.1 = thread s)
    (hlog : result.2.2 = log ++ added) (hadded : ∀ x ∈ added, x.drafts? = none)
    (hanswer : ∀ outcome, result.1 = .ok outcome →
      (dryRun = false → unposted (thread s) findings = []) ∧
        outcome.toPost = (unposted (thread s) findings).length ∧
        outcome.skippedDuplicates = findings.length - (unposted (thread s) findings).length ∧
        outcome.submitted = 0) :
    Posted host thread findings dryRun s log [] (unposted (thread s) findings) result where
  unposted_eq := rfl
  thread_eq := by
    rw [hthread, List.map_nil, List.append_nil]
  acceptedDrafts_eq := by
    rw [hlog, acceptedDrafts_append, acceptedDrafts_eq_nil hadded, List.map_nil]
  reviewsAsked_eq := by
    intro _
    rw [hlog, reviewsAsked_append, reviewsAsked_eq_nil hadded, List.append_nil]
  left_eq_nil := fun outcome h => (hanswer outcome h).1
  toPost_eq := fun outcome h => (hanswer outcome h).2.1
  skippedDuplicates_eq := fun outcome h => (hanswer outcome h).2.2.1
  submitted_eq := fun outcome h => (hanswer outcome h).2.2.2

/-- The effect of submitting the new findings, when the known signatures are those that
the thread carries. -/
theorem postNew_spec (hk : host.KeepsThread pr thread) (o : PostingOptions)
    (findings : List Finding) (dryRun : Bool) {known : List String} {s : σ}
    (hknown : ∀ x, x ∈ known ↔ x ∈ carried (thread s)) (log : List Exchange) :
    ∃ posted left, Posted host thread findings dryRun s log posted left
      (postNew host.recorded o pr findings dryRun known (s, log)) := by
  have hnew := newFindings_eq_unposted hknown findings
  by_cases hidle : dryRun = true ∨ newFindings known findings = []
  · rw [postNew_of_idle hidle]
    refine ⟨[], _, posted_of_no_review rfl (List.append_nil log).symm (by simp) ?_⟩
    intro outcome houtcome
    obtain rfl := Except.ok.inj houtcome
    rw [← hnew]
    exact ⟨fun hlive => by simpa [hlive] using hidle, by simp [counted], by simp [counted], rfl⟩
  · rw [not_or, Bool.not_eq_true] at hidle
    obtain ⟨rfl, hne⟩ := hidle
    rw [postNew_of_ne_nil hne]
    obtain ⟨taken, left, hbatches, hsubmitted⟩ :=
      submitBatches_spec hk (newBatches o known findings).length 0
        (counted known findings false) (newBatches o known findings) s log
    -- The batches are the drafts in order, so the taken ones are those of a first part.
    have hdrafts : (newFindings known findings).map draftOf = taken.flatten ++ left.flatten := by
      rw [← List.flatten_append, ← hbatches, flatten_newBatches]
    obtain ⟨posted, rest, hsplit, hposted, hrest⟩ := List.map_eq_append_iff.1 hdrafts
    refine ⟨posted, rest, ?_⟩
    exact {
      unposted_eq := hnew.symm.trans hsplit
      thread_eq := by
        rw [hsubmitted.thread_eq, ← hposted, List.map_map]
        rfl
      acceptedDrafts_eq := by
        rw [hsubmitted.acceptedDrafts_eq, hposted]
      reviewsAsked_eq := fun hnil => absurd (hnew.trans hnil) hne
      left_eq_nil := by
        intro outcome houtcome _
        obtain ⟨rfl, -⟩ := hsubmitted.of_ok houtcome
        simpa using hrest
      toPost_eq := by
        intro outcome houtcome
        obtain ⟨-, rfl⟩ := hsubmitted.of_ok houtcome
        simp [counted, hnew]
      skippedDuplicates_eq := by
        intro outcome houtcome
        obtain ⟨-, rfl⟩ := hsubmitted.of_ok houtcome
        simp [counted, hnew]
      submitted_eq := by
        intro outcome houtcome
        obtain ⟨-, rfl⟩ := hsubmitted.of_ok houtcome
        simp [counted, ← hposted] }

/-- The effect of what follows a scan is the effect of the posting. -/
theorem Posted.of_scan {findings posted left : List Finding} {dryRun : Bool} {s s' : σ}
    {log added : List Exchange} {result : Except ReviewError Outcome × σ × List Exchange}
    (h : Posted host thread findings dryRun s' (log ++ added) posted left result)
    (hthread : thread s' = thread s) (hadded : ∀ x ∈ added, x.drafts? = none) :
    Posted host thread findings dryRun s log posted left result where
  unposted_eq := hthread ▸ h.unposted_eq
  thread_eq := hthread ▸ h.thread_eq
  acceptedDrafts_eq := by
    rw [h.acceptedDrafts_eq, acceptedDrafts_append, acceptedDrafts_eq_nil hadded,
      List.append_nil]
  reviewsAsked_eq := by
    intro hnil
    rw [h.reviewsAsked_eq (hthread ▸ hnil), reviewsAsked_append, reviewsAsked_eq_nil hadded,
      List.append_nil]
  left_eq_nil := h.left_eq_nil
  toPost_eq := hthread ▸ h.toPost_eq
  skippedDuplicates_eq := hthread ▸ h.skippedDuplicates_eq
  submitted_eq := h.submitted_eq

/-- The effect of a posting on a thread within the page limit. -/
theorem post_spec (hk : host.KeepsThread pr thread) (o : PostingOptions)
    (findings : List Finding) (dryRun : Bool) {s : σ}
    (hfits : (thread s).length ≤ o.perPage * o.maxCommentPages) (log : List Exchange) :
    ∃ posted left, Posted host thread findings dryRun s log posted left
      (post host.recorded o pr findings dryRun (s, log)) := by
  have hkeep : (s, log).2 = log ++ [] := (List.append_nil log).symm
  have hthread := thread_existingSignatures hk o s
  cases course_post host pr o findings dryRun s log with
  | empty hnone _ hrecorded =>
      subst hnone
      rw [hrecorded]
      refine ⟨[], _, posted_of_no_review rfl hkeep (by simp) ?_⟩
      intro outcome houtcome
      obtain rfl := Except.ok.inj houtcome
      exact ⟨fun _ => rfl, rfl, rfl, rfl⟩
  | locked _ _ _ hrecorded =>
      rw [hrecorded]
      refine ⟨[], _, posted_of_no_review rfl hkeep (by simp) ?_⟩
      intro outcome houtcome
      cases houtcome
  | unlisted e s' added hscan hadded _ hrecorded =>
      rw [hscan] at hthread
      rw [hrecorded]
      refine ⟨[], _, posted_of_no_review hthread rfl hadded ?_⟩
      intro outcome houtcome
      cases houtcome
  | listed known s' added hscan hadded _ hrecorded =>
      rw [hscan] at hthread
      have hknown : ∀ x, x ∈ known ↔ x ∈ carried (thread s') := by
        intro x
        rw [hthread]
        exact mem_existingSignatures_iff hk (congrArg Prod.fst hscan) hfits x
      rw [hrecorded]
      obtain ⟨posted, left, h⟩ := postNew_spec hk o findings dryRun hknown (log ++ added)
      exact ⟨posted, left, h.of_scan hthread hadded⟩

/-! ## Records and failures of a posting -/

variable (host pr) in
/-- Recording the submission of new findings does not change it. -/
theorem postNew_recorded (o : PostingOptions) (findings : List Finding) (dryRun : Bool)
    (known : List String) (s : σ) (log : List Exchange) :
    (postNew host.recorded o pr findings dryRun known (s, log)).1 =
        (postNew host o pr findings dryRun known s).1 ∧
      (postNew host.recorded o pr findings dryRun known (s, log)).2.1 =
        (postNew host o pr findings dryRun known s).2 := by
  simp only [postNew]
  split
  · exact ⟨rfl, rfl⟩
  · exact submitBatches_recorded _ _ _ _ _ _

variable (host pr) in
/-- Recording a posting does not change it. -/
theorem post_recorded (o : PostingOptions) (findings : List Finding) (dryRun : Bool) (s : σ)
    (log : List Exchange) :
    (post host.recorded o pr findings dryRun (s, log)).1 = (post host o pr findings dryRun s).1 ∧
      (post host.recorded o pr findings dryRun (s, log)).2.1 =
        (post host o pr findings dryRun s).2 := by
  cases course_post host pr o findings dryRun s log with
  | empty _ hpost hrecorded =>
      rw [hpost, hrecorded]
      exact ⟨rfl, rfl⟩
  | locked _ _ hpost hrecorded =>
      rw [hpost, hrecorded]
      exact ⟨rfl, rfl⟩
  | unlisted e s' added _ _ hpost hrecorded =>
      rw [hpost, hrecorded]
      exact ⟨rfl, rfl⟩
  | listed known s' added _ _ hpost hrecorded =>
      rw [hpost, hrecorded]
      exact postNew_recorded host pr o findings dryRun known s' _

/-- What listing a page and what a review preserve, a posting preserves; a dry one does
with what listing preserves. -/
theorem post_invariant {P : σ → Prop} {o : PostingOptions} {dryRun : Bool}
    (hlist : ∀ page s, P s → P (host.listComments pr page o.perPage s).2)
    (hreview : dryRun = false → ∀ drafts s, P s → P (host.createReview pr drafts s).2)
    (findings : List Finding) {s : σ} (hs : P s) :
    P (post host o pr findings dryRun s).2 := by
  have hscanned : P (existingSignatures host o pr s).2 := listPages_invariant hlist _ _ _ hs
  cases course_post host pr o findings dryRun s [] with
  | empty _ hpost _ =>
      rw [hpost]
      exact hs
  | locked _ _ hpost _ =>
      rw [hpost]
      exact hs
  | unlisted e s' _ hscan _ hpost _ =>
      rw [hscan] at hscanned
      rw [hpost]
      exact hscanned
  | listed known s' _ hscan _ hpost _ =>
      rw [hscan] at hscanned
      rw [hpost]
      by_cases hidle : dryRun = true ∨ newFindings known findings = []
      · rw [postNew_of_idle hidle]
        exact hscanned
      · rw [not_or, Bool.not_eq_true] at hidle
        obtain ⟨rfl, hnew⟩ := hidle
        rw [postNew_of_ne_nil hnew]
        exact submitBatches_invariant (hreview rfl) _ _ _ _ hscanned

/-- A posting leaves the credentials as they are. -/
theorem isAuthenticated_post (hk : host.KeepsThread pr thread) (o : PostingOptions)
    (findings : List Finding) (dryRun : Bool) (s : σ) :
    host.isAuthenticated (post host o pr findings dryRun s).2 = host.isAuthenticated s :=
  post_invariant (P := fun t => host.isAuthenticated t = host.isAuthenticated s)
    (fun page t ht => (hk.isAuthenticated_listComments page o.perPage t).trans ht)
    (fun _ drafts t ht => (hk.isAuthenticated_createReview drafts t).trans ht) findings rfl

/-- A posting only adds to the thread, even where its scan misses comments. -/
theorem exists_thread_post_eq (hk : host.KeepsThread pr thread) (o : PostingOptions)
    (findings : List Finding) (dryRun : Bool) (s : σ) :
    ∃ added, thread (post host o pr findings dryRun s).2 = thread s ++ added := by
  apply post_invariant (P := fun t => ∃ added, thread t = thread s ++ added)
  · rintro page t ⟨added, ht⟩
    exact ⟨added, (hk.thread_listComments page o.perPage t).trans ht⟩
  · rintro - drafts t ⟨added, ht⟩
    have haccepted := hk.thread_createReview drafts t
    have hrefused := hk.thread_createReview_of_error drafts t
    cases hanswer : (host.createReview pr drafts t).1 with
    | error e => exact ⟨added, (hrefused e hanswer).trans ht⟩
    | ok u =>
        rw [haccepted hanswer, ht, List.append_assoc]
        exact ⟨_, rfl⟩
  · exact ⟨[], (List.append_nil _).symm⟩

/-- A posting makes no room for more failures. -/
theorem failsAtMost_post (o : PostingOptions) (findings : List Finding) (dryRun : Bool) {n : Nat}
    {s : σ} (hfails : host.FailsAtMost pr n s) :
    host.FailsAtMost pr n (post host o pr findings dryRun s).2 :=
  post_invariant (fun page _ ht => ht.ask (.list page o.perPage))
    (fun _ drafts _ ht => ht.ask (.review drafts)) findings hfails

/-- The effect of a posting on the thread, whether it is recorded or not. -/
theorem thread_post (hk : host.KeepsThread pr thread) (o : PostingOptions)
    (findings : List Finding) (dryRun : Bool) {s : σ}
    (hfits : (thread s).length ≤ o.perPage * o.maxCommentPages) :
    ∃ posted left, unposted (thread s) findings = posted ++ left ∧
      thread (post host o pr findings dryRun s).2 =
        thread s ++ posted.map (fun f => some f.commentBody) ∧
      ∀ outcome, (post host o pr findings dryRun s).1 = .ok outcome → dryRun = false →
        left = [] := by
  obtain ⟨posted, left, heffect⟩ := post_spec hk o findings dryRun hfits []
  obtain ⟨hanswer, hstate⟩ := post_recorded host pr o findings dryRun s []
  have hthread := heffect.thread_eq
  have hleft := heffect.left_eq_nil
  rw [hstate] at hthread
  rw [hanswer] at hleft
  exact ⟨posted, left, heffect.unposted_eq, hthread, hleft⟩

/-- A posting adds at most one comment for each finding. -/
theorem length_thread_post_le (hk : host.KeepsThread pr thread) (o : PostingOptions)
    (findings : List Finding) (dryRun : Bool) {s : σ}
    (hfits : (thread s).length ≤ o.perPage * o.maxCommentPages) :
    (thread (post host o pr findings dryRun s).2).length ≤
      (thread s).length + findings.length := by
  obtain ⟨posted, left, hsplit, hthread, -⟩ := thread_post hk o findings dryRun hfits
  have hle : (posted ++ left).length ≤ findings.length := by
    rw [← hsplit]
    exact (unposted_sublist (thread s) findings).length_le
  rw [List.length_append] at hle
  rw [hthread, List.length_append, List.length_map]
  omega

/-- A posting with credentials that fails met a failure. -/
theorem post_of_error {o : PostingOptions} {findings : List Finding} {dryRun : Bool} {n : Nat}
    {s : σ} {e : ReviewError} (hauth : dryRun = true ∨ host.isAuthenticated s = true)
    (hfails : host.FailsAtMost pr n s) (h : (post host o pr findings dryRun s).1 = .error e) :
    ∃ m, n = m + 1 ∧ host.FailsAtMost pr m (post host o pr findings dryRun s).2 := by
  cases course_post host pr o findings dryRun s [] with
  | empty _ hpost _ =>
      rw [hpost] at h
      cases h
  | locked hlive hlocked _ _ =>
      rw [hlive, hlocked] at hauth
      simp at hauth
  | unlisted e' s' _ hscan _ hpost _ =>
      have hmet := existingSignatures_of_error hfails (congrArg Prod.fst hscan)
      rw [hscan] at hmet
      rw [hpost]
      exact hmet
  | listed known s' _ hscan _ hpost _ =>
      have hscanFails := failsAtMost_existingSignatures o hfails
      rw [hscan] at hscanFails
      rw [hpost] at h ⊢
      simp only [postNew] at h ⊢
      split at h
      · cases h
      · next hlive =>
          rw [if_neg hlive]
          exact submitBatches_of_error hscanFails h

/-- A posting with credentials on a host that does not fail succeeds. -/
theorem exists_post_eq_ok {o : PostingOptions} {findings : List Finding} {dryRun : Bool} {s : σ}
    (hauth : dryRun = true ∨ host.isAuthenticated s = true) (hsteady : host.FailsAtMost pr 0 s) :
    ∃ outcome s', post host o pr findings dryRun s = (.ok outcome, s') := by
  cases hpost : post host o pr findings dryRun s with
  | mk answer s' =>
      cases answer with
      | error e =>
          obtain ⟨m, hm, -⟩ := post_of_error hauth hsteady (congrArg Prod.fst hpost)
          omega
      | ok outcome => exact ⟨outcome, s', rfl⟩

end PatchReview.Posting
