import PatchReview.Proofs.LivePosting

/-!
# What a failed posting leaves behind

A posting fails without credentials, at a page of the list or at a batch.  In the first
two cases the thread is as it was and no review was asked for.  A refused batch is the
last one that was asked for; the batches before it are on the thread, and the error says
how many they were and how many comments they held.

Main results:

- Structure `RefusedBatch`: the state after a refused batch, by the numbers of the error.
- Theorem `refusedBatch_of_submitted`: a submission that fails leaves such a state.
- Theorem `post_error_accounts`: every failed posting is accounted for by its error.
-/

namespace PatchReview.Posting

variable {σ : Type} {host : Host σ} {pr : PullRequestRef} {thread : σ → List (Option String)}

/-- The reviews among some exchanges, with their success. -/
def reviewExchanges (log : List Exchange) : List Exchange :=
  log.filter fun x => x.drafts?.isSome

/-- The reviews of two stretches of requests. -/
theorem reviewExchanges_append (first second : List Exchange) :
    reviewExchanges (first ++ second) = reviewExchanges first ++ reviewExchanges second :=
  List.filter_append first second

/-- Requests for pages are no reviews. -/
theorem reviewExchanges_eq_nil {log : List Exchange} (h : ∀ x ∈ log, x.drafts? = none) :
    reviewExchanges log = [] := by
  rw [reviewExchanges, List.filter_eq_nil_iff]
  intro x hx
  rw [h x hx]
  exact Bool.false_ne_true

/-- Reviews that were taken are reviews. -/
theorem reviewExchanges_takenExchanges (batches : List (List Draft)) :
    reviewExchanges (takenExchanges batches) = takenExchanges batches := by
  rw [reviewExchanges, List.filter_eq_self]
  intro x hx
  obtain ⟨batch, -, rfl⟩ := List.mem_map.1 hx
  rfl

/-- What is left behind when the host refused a batch, by the numbers of the error: of
the drafts to be posted the first `submitted` ones are on the thread, those of the batches
before number `batch`, and no review was asked for after the refused one. -/
structure RefusedBatch (size : Nat) (drafts : List Draft) (before after : List (Option String))
    (log : List Exchange) (batch total submitted : Nat) : Prop where
  thread_eq : after = before ++ (drafts.take submitted).map fun d => some d.body
  submitted_eq : submitted = (batch - 1) * size
  total_eq : total = (drafts.length + size - 1) / size
  one_le_batch : 1 ≤ batch
  batch_le_total : batch ≤ total
  reviews_eq : ∃ taken refused,
    reviewExchanges log = takenExchanges taken ++ [⟨.review refused, false⟩] ∧
      taken.length + 1 = batch ∧ taken.flatten = drafts.take submitted

/-- A submission of drafts in batches that has batches left was refused one. -/
theorem refusedBatch_of_submitted {size total : Nat} {drafts : List Draft} {o : Outcome} {s : σ}
    {log : List Exchange} {taken left : List (List Draft)}
    {result : Except ReviewError Outcome × σ × List Exchange} (hsize : 1 ≤ size)
    (hbatches : Text.chunks size drafts = taken ++ left) (hleft : left ≠ [])
    (hlog : ∀ x ∈ log, x.drafts? = none)
    (h : Submitted host pr thread total 0 o s log taken left result) :
    RefusedBatch size drafts (thread s) (thread result.2.1) result.2.2 (taken.length + 1)
      (Text.chunks size drafts).length taken.flatten.length := by
  have hdrafts : drafts = taken.flatten ++ left.flatten := by
    rw [← List.flatten_append, ← hbatches, Text.flatten_chunks]
  have htake : drafts.take taken.flatten.length = taken.flatten := by
    rw [hdrafts]
    exact List.take_left' rfl
  obtain ⟨refused, later, rfl⟩ := List.exists_cons_of_ne_nil hleft
  exact {
    thread_eq := by
      rw [htake]
      exact h.thread_eq
    submitted_eq := by
      have hsizes : ∀ batch ∈ taken, batch.length = size :=
        fun _ => Text.length_of_chunks_eq_append hsize hbatches hleft
      rw [List.length_flatten, List.map_eq_replicate_iff.2 hsizes, List.sum_replicate_nat]
      rfl
    total_eq := Text.length_chunks hsize drafts
    one_le_batch := Nat.le_add_left 1 _
    batch_le_total := by
      rw [hbatches, List.length_append, List.length_cons]
      omega
    reviews_eq := by
      refine ⟨taken, refused, ?_, rfl, htake.symm⟩
      rw [h.log_eq, reviewExchanges_append, reviewExchanges_append, reviewExchanges_eq_nil hlog,
        reviewExchanges_takenExchanges, List.nil_append]
      rfl }

/-- What follows a successful scan fails only at a batch. -/
theorem postNew_of_error (hk : host.KeepsThread pr thread) {o : PostingOptions}
    (hsize : 1 ≤ o.batchSize) {findings : List Finding} {dryRun : Bool} {known : List String}
    {s : σ} {e : ReviewError} (h : (postNew host o pr findings dryRun known s).1 = .error e)
    {log : List Exchange} (hlog : ∀ x ∈ log, x.drafts? = none) :
    ∃ batch total submitted cause, e = .submitBatch pr batch total submitted cause ∧
      RefusedBatch o.batchSize ((freshFindings known findings).map draftOf) (thread s)
        (thread (postNew host.recorded o pr findings dryRun known (s, log)).2.1)
        (postNew host.recorded o pr findings dryRun known (s, log)).2.2 batch total submitted := by
  by_cases hidle : dryRun = true ∨ newFindings known findings = []
  · rw [postNew_of_idle hidle] at h
    cases h
  rw [not_or, Bool.not_eq_true] at hidle
  obtain ⟨rfl, hnew⟩ := hidle
  rw [postNew_of_ne_nil hnew] at h
  rw [postNew_of_ne_nil hnew, ← newFindings_eq_freshFindings]
  obtain ⟨taken, left, hbatches, hsubmitted⟩ := submitBatches_spec hk
    (newBatches o known findings).length 0 (counted known findings false)
    (newBatches o known findings) s log
  rw [← (@submitBatches_recorded σ host pr _ _ _ _ s log).1] at h
  have hleft : left ≠ [] := by
    intro hnone
    rw [hsubmitted.answer_of_nil hnone] at h
    cases h
  obtain ⟨cause, hcause⟩ := hsubmitted.answer_of_ne_nil hleft
  rw [hcause] at h
  obtain rfl := Except.error.inj h
  refine ⟨taken.length + 1, (newBatches o known findings).length, taken.flatten.length, cause, ?_,
    refusedBatch_of_submitted hsize hbatches hleft hlog hsubmitted⟩
  simp [counted]

/-- A failed posting is accounted for by its error.  Without credentials, or when a page
cannot be listed, the thread is as it was and no review was asked for.  Otherwise a batch
was refused, and the numbers of the error say what is on the thread and what was asked. -/
theorem post_error_accounts (hk : host.KeepsThread pr thread) {o : PostingOptions}
    {findings : List Finding} {dryRun : Bool} {s s' : σ} {e : ReviewError}
    (h : post host o.raised pr findings dryRun s = (.error e, s')) :
    ((e = .missingCredentials pr ∨ ∃ page cause, e = .listComments pr page cause) ∧
        thread s' = thread s ∧
        reviewExchanges (post host.recorded o.raised pr findings dryRun (s, [])).2.2 = []) ∨
      ∃ known batch total submitted cause,
        e = .submitBatch pr batch total submitted cause ∧
        (existingSignatures host o.raised pr s).1 = .ok known ∧
        RefusedBatch o.raised.batchSize ((freshFindings known findings).map draftOf) (thread s)
          (thread s') (post host.recorded o.raised pr findings dryRun (s, [])).2.2
          batch total submitted := by
  have hthread := thread_existingSignatures hk o.raised s
  have hstate := (post_recorded host pr o.raised findings dryRun s []).2
  rw [h] at hstate
  cases course_post host pr o.raised findings dryRun s [] with
  | empty _ hpost _ =>
      rw [hpost] at h
      cases congrArg Prod.fst h
  | locked _ _ hpost hrecorded =>
      rw [hpost] at h
      obtain ⟨rfl, rfl⟩ := h
      rw [hrecorded]
      exact Or.inl ⟨Or.inl rfl, rfl, rfl⟩
  | unlisted e' s₁ added hscan hadded hpost hrecorded =>
      rw [hpost] at h
      obtain ⟨rfl, rfl⟩ := h
      rw [hscan] at hthread
      rw [hrecorded]
      exact Or.inl ⟨Or.inr (eq_listComments_of_error (congrArg Prod.fst hscan)), hthread,
        reviewExchanges_eq_nil hadded⟩
  | listed known s₁ added hscan hadded hpost hrecorded =>
      rw [List.nil_append] at hrecorded
      rw [hpost] at h
      rw [hrecorded] at hstate
      rw [hscan] at hthread
      obtain ⟨batch, total, submitted, cause, he, hrefused⟩ :=
        postNew_of_error hk (one_le_batchSize_raised o) (congrArg Prod.fst h) hadded
      rw [hstate, hthread] at hrefused
      rw [hrecorded]
      exact Or.inr ⟨known, batch, total, submitted, cause, he, congrArg Prod.fst hscan, hrefused⟩

/-- Three findings in batches of two on a host that refuses the second review. -/
theorem post_error_accounts_second_batch :
    let pr : PullRequestRef := ⟨"acme", "widgets", 1⟩
    let s : Thread :=
      { authenticated := true, pull := .error .network, comments := [some "LGTM"]
        failingReview := some (2, .api 502 "Bad Gateway") }
    let o : PostingOptions := { batchSize := 2 }
    let findings : List Finding := [⟨"src/a.ts", 2, "Avoid TODO.", some "no-todo", none⟩,
      ⟨"src/a.ts", 5, "Avoid TODO.", some "no-todo", none⟩,
      ⟨"src/b.ts", 1, "Too long.", none, none⟩]
    ∃ e s', e = .submitBatch pr 2 2 2 (.api 502 "Bad Gateway") ∧
      post Thread.host o.raised pr findings false s = (.error e, s') ∧
      (((e = .missingCredentials pr ∨ ∃ page cause, e = .listComments pr page cause) ∧
          s'.comments = s.comments ∧
          reviewExchanges
            (post Thread.host.recorded o.raised pr findings false (s, [])).2.2 = []) ∨
        ∃ known batch total submitted cause,
          e = .submitBatch pr batch total submitted cause ∧
          (existingSignatures Thread.host o.raised pr s).1 = .ok known ∧
          RefusedBatch o.raised.batchSize ((freshFindings known findings).map draftOf) s.comments
            s'.comments (post Thread.host.recorded o.raised pr findings false (s, [])).2.2
            batch total submitted) := by
  intro pr s o findings
  -- The digests are evaluated: three different signatures make two batches.
  have hanswer : (post Thread.host o.raised pr findings false s).1 =
      .error (.submitBatch pr 2 2 2 (.api 502 "Bad Gateway")) := by
    decide +kernel
  have hpost : post Thread.host o.raised pr findings false s =
      (.error (.submitBatch pr 2 2 2 (.api 502 "Bad Gateway")),
        (post Thread.host o.raised pr findings false s).2) :=
    Prod.ext hanswer rfl
  exact ⟨_, _, rfl, hpost, post_error_accounts (Thread.keepsThread pr) hpost⟩

end PatchReview.Posting
