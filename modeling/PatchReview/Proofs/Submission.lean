import PatchReview.Proofs.Unposted

/-!
# Submitting batches

The findings to be posted are submitted in batches up to the first refusal.  On a
host that keeps a thread the comments of the batches before it are added, in order,
and nothing else.  The host is recorded, so the drafts that it accepted and the
reviews that it was asked for can be named.

Main results:

- Theorem `submitBatches_spec`: the first batches are taken, in order, and the one
  after them is refused if any is left.
- Theorem `submitBatches_invariant`: what a review preserves, a submission preserves.
- Theorem `submitBatches_recorded`: recording a submission does not change it.
- Theorem `submitBatches_of_error`: a submission that fails uses up a failure of the
  host.
- Theorems `submitBatches_recorded_of_steady` and `submitBatches_of_steady`: a host that
  does not fail is asked for everything and takes it.
-/

namespace PatchReview

/-- The record of two stretches of requests. -/
theorem reviewsAsked_append (first second : List Exchange) :
    reviewsAsked (first ++ second) = reviewsAsked first ++ reviewsAsked second := by
  rw [reviewsAsked, List.filterMap_append, reviewsAsked, reviewsAsked]

/-- The accepted drafts of two stretches of requests. -/
theorem acceptedDrafts_append (first second : List Exchange) :
    acceptedDrafts (first ++ second) = acceptedDrafts first ++ acceptedDrafts second := by
  rw [acceptedDrafts, List.filter_append, reviewsAsked_append, List.flatten_append,
    acceptedDrafts, acceptedDrafts]

/-- Requests for pages ask for no review. -/
theorem reviewsAsked_eq_nil {log : List Exchange} (h : ∀ x ∈ log, x.drafts? = none) :
    reviewsAsked log = [] :=
  List.filterMap_eq_nil_iff.2 h

/-- Requests for pages accept no draft. -/
theorem acceptedDrafts_eq_nil {log : List Exchange} (h : ∀ x ∈ log, x.drafts? = none) :
    acceptedDrafts log = [] := by
  rw [acceptedDrafts, reviewsAsked_eq_nil fun x hx => h x (List.mem_of_mem_filter hx),
    List.flatten_nil]

namespace Posting

variable {σ : Type} {host : Host σ} {pr : PullRequestRef} {thread : σ → List (Option String)}

/-! ## Batches -/

/-- The reviews with which batches were taken. -/
def takenExchanges (batches : List (List Draft)) : List Exchange :=
  batches.map fun batch => ⟨.review batch, true⟩

/-- Taken batches are accepted. -/
theorem acceptedDrafts_takenExchanges (batches : List (List Draft)) :
    acceptedDrafts (takenExchanges batches) = batches.flatten := by
  induction batches with
  | nil => rfl
  | cons batch batches ih =>
      have hcons : takenExchanges (batch :: batches) =
          [⟨.review batch, true⟩] ++ takenExchanges batches := rfl
      rw [hcons, acceptedDrafts_append, ih]
      simp [acceptedDrafts, reviewsAsked, Exchange.drafts?]

/-- The reviews that were asked for when batches were taken are the batches. -/
theorem reviewsAsked_takenExchanges (batches : List (List Draft)) :
    reviewsAsked (takenExchanges batches) = batches := by
  rw [reviewsAsked, takenExchanges, List.filterMap_map]
  exact List.filterMap_some

/-- After an accepted batch the others are submitted. -/
theorem submitBatches_cons_of_ok {total done : Nat} {o : Outcome} {batch : List Draft}
    {batches : List (List Draft)} {s s' : σ} {u : Unit}
    (h : host.createReview pr batch s = (.ok u, s')) :
    submitBatches host pr total done o (batch :: batches) s =
      submitBatches host pr total (done + 1)
        { o with submitted := o.submitted + batch.length, batches := o.batches + 1 } batches
        s' := by
  simp only [submitBatches, h]

/-- A refused batch ends the submission. -/
theorem submitBatches_cons_of_error {total done : Nat} {o : Outcome} {batch : List Draft}
    {batches : List (List Draft)} {s s' : σ} {e : HostError}
    (h : host.createReview pr batch s = (.error e, s')) :
    submitBatches host pr total done o (batch :: batches) s =
      (.error (.submitBatch pr (done + 1) total o.submitted e), s') := by
  simp only [submitBatches, h]

/-- What becomes of batches that are submitted: the host takes the first of them and,
if any are left, has refused the next one. -/
structure Submitted (host : Host σ) (pr : PullRequestRef) (thread : σ → List (Option String))
    (total done : Nat) (o : Outcome) (s : σ) (log : List Exchange) (taken left : List (List Draft))
    (result : Except ReviewError Outcome × σ × List Exchange) : Prop where
  thread_eq : thread result.2.1 = thread s ++ taken.flatten.map fun d => some d.body
  log_eq : result.2.2 =
    log ++ takenExchanges taken ++ (left.take 1).map fun batch => ⟨.review batch, false⟩
  answer_of_nil : left = [] → result.1 = .ok { o with
    submitted := o.submitted + taken.flatten.length
    batches := o.batches + taken.length }
  answer_of_ne_nil : left ≠ [] → ∃ e, result.1 =
    .error (.submitBatch pr (done + taken.length + 1) total (o.submitted + taken.flatten.length) e)

namespace Submitted

variable {total done : Nat} {o : Outcome} {s : σ} {log : List Exchange}
  {taken left : List (List Draft)} {result : Except ReviewError Outcome × σ × List Exchange}

/-- A submission that succeeds has no batch left. -/
theorem of_ok (h : Submitted host pr thread total done o s log taken left result)
    {outcome : Outcome} (hok : result.1 = .ok outcome) :
    left = [] ∧ outcome = { o with
      submitted := o.submitted + taken.flatten.length
      batches := o.batches + taken.length } := by
  by_cases hleft : left = []
  · rw [h.answer_of_nil hleft] at hok
    exact ⟨hleft, (Except.ok.inj hok).symm⟩
  · obtain ⟨e, he⟩ := h.answer_of_ne_nil hleft
    rw [he] at hok
    cases hok

/-- The drafts of the batches that were taken are the accepted ones. -/
theorem acceptedDrafts_eq (h : Submitted host pr thread total done o s log taken left result) :
    acceptedDrafts result.2.2 = acceptedDrafts log ++ taken.flatten := by
  have hrefused : acceptedDrafts ((left.take 1).map fun batch => ⟨.review batch, false⟩) = [] := by
    rw [acceptedDrafts, List.filter_eq_nil_iff.2]
    · rfl
    · intro x hx
      obtain ⟨batch, -, rfl⟩ := List.mem_map.1 hx
      exact Bool.false_ne_true
  rw [h.log_eq, acceptedDrafts_append, acceptedDrafts_append, acceptedDrafts_takenExchanges,
    hrefused, List.append_nil]

end Submitted

/-- Batches are taken in order up to the first refusal. -/
theorem submitBatches_spec (hk : host.KeepsThread pr thread) (total done : Nat) (o : Outcome)
    (batches : List (List Draft)) (s : σ) (log : List Exchange) :
    ∃ taken left, batches = taken ++ left ∧
      Submitted host pr thread total done o s log taken left
        (submitBatches host.recorded pr total done o batches (s, log)) := by
  induction batches generalizing done o s log with
  | nil =>
      refine ⟨[], [], rfl, ?_⟩
      constructor <;> simp [submitBatches, takenExchanges]
  | cons batch batches ih =>
      have haccepted := hk.thread_createReview batch s
      have hrefused := hk.thread_createReview_of_error batch s
      cases heq : host.createReview pr batch s with
      | mk answer s' =>
          rw [heq] at haccepted hrefused
          have hrecorded := Host.recorded_createReview log heq
          cases answer with
          | error e =>
              rw [submitBatches_cons_of_error hrecorded]
              refine ⟨[], batch :: batches, rfl, ?_⟩
              exact {
                thread_eq := by simpa using hrefused e rfl
                log_eq := by simp [takenExchanges, Except.isOk, Except.toBool]
                answer_of_nil := by simp
                answer_of_ne_nil := by
                  intro _
                  exact ⟨e, by simp⟩ }
          | ok u =>
              have hgranted : (Except.ok u : Except HostError Unit).isOk = true := rfl
              rw [submitBatches_cons_of_ok hrecorded, hgranted]
              obtain ⟨taken, left, rfl, hrest⟩ := ih (done + 1)
                { o with submitted := o.submitted + batch.length, batches := o.batches + 1 } s'
                (log ++ [⟨.review batch, true⟩])
              refine ⟨batch :: taken, left, rfl, ?_⟩
              exact {
                thread_eq := by
                  rw [hrest.thread_eq, haccepted rfl, List.flatten_cons, List.map_append,
                    List.append_assoc]
                log_eq := by
                  rw [hrest.log_eq]
                  simp [takenExchanges]
                answer_of_nil := by
                  intro hleft
                  rw [hrest.answer_of_nil hleft, List.flatten_cons, List.length_append,
                    List.length_cons, Nat.add_assoc, Nat.add_assoc, Nat.add_comm 1]
                answer_of_ne_nil := by
                  intro hleft
                  obtain ⟨e, he⟩ := hrest.answer_of_ne_nil hleft
                  refine ⟨e, ?_⟩
                  rw [he, List.flatten_cons, List.length_append, List.length_cons,
                    Nat.add_assoc o.submitted, Nat.add_assoc done, Nat.add_comm 1] }

/-- What one review preserves, submitting batches preserves. -/
theorem submitBatches_invariant {P : σ → Prop}
    (hstep : ∀ drafts s, P s → P (host.createReview pr drafts s).2) (total done : Nat)
    (o : Outcome) (batches : List (List Draft)) {s : σ} (hs : P s) :
    P (submitBatches host pr total done o batches s).2 := by
  induction batches generalizing done o s with
  | nil => exact hs
  | cons batch batches ih =>
      have hnext := hstep batch s hs
      simp only [submitBatches]
      split <;> rename_i heq <;> rw [heq] at hnext
      · exact hnext
      · exact ih (done + 1) _ hnext

/-- Recording the submission of batches does not change it. -/
theorem submitBatches_recorded (total done : Nat) (o : Outcome) (batches : List (List Draft))
    (s : σ) (log : List Exchange) :
    (submitBatches host.recorded pr total done o batches (s, log)).1 =
        (submitBatches host pr total done o batches s).1 ∧
      (submitBatches host.recorded pr total done o batches (s, log)).2.1 =
        (submitBatches host pr total done o batches s).2 := by
  induction batches generalizing done o s log with
  | nil => exact ⟨rfl, rfl⟩
  | cons batch batches ih =>
      cases heq : host.createReview pr batch s with
      | mk answer s' =>
          have hrecorded := Host.recorded_createReview log heq
          cases answer with
          | error e =>
              rw [submitBatches_cons_of_error hrecorded, submitBatches_cons_of_error heq]
              exact ⟨rfl, rfl⟩
          | ok _ =>
              rw [submitBatches_cons_of_ok hrecorded, submitBatches_cons_of_ok heq]
              exact ih (done + 1) _ s' _

/-- A submission that fails met a failure. -/
theorem submitBatches_of_error {total done n : Nat} {o : Outcome} {batches : List (List Draft)}
    {s : σ} {e : ReviewError} (hfails : host.FailsAtMost pr n s)
    (h : (submitBatches host pr total done o batches s).1 = .error e) :
    ∃ m, n = m + 1 ∧
      host.FailsAtMost pr m (submitBatches host pr total done o batches s).2 := by
  induction batches generalizing done o s with
  | nil => cases h
  | cons batch batches ih =>
      have hnext := hfails.ask (.review batch)
      have hrefused := hfails.of_refused (.review batch)
      simp only [Host.ask] at hnext hrefused
      cases heq : host.createReview pr batch s with
      | mk answer s' =>
          rw [heq] at hnext hrefused
          cases answer with
          | error e =>
              rw [submitBatches_cons_of_error heq]
              exact hrefused rfl
          | ok _ =>
              rw [submitBatches_cons_of_ok heq] at h ⊢
              exact ih hnext h

/-- A host that does not fail is asked for all batches, in order, and grants each. -/
theorem submitBatches_recorded_of_steady (total done : Nat) (o : Outcome)
    (batches : List (List Draft)) {s : σ} (hsteady : host.FailsAtMost pr 0 s)
    (log : List Exchange) :
    ∃ s', submitBatches host.recorded pr total done o batches (s, log) =
      (.ok { o with
        submitted := o.submitted + batches.flatten.length
        batches := o.batches + batches.length }, s', log ++ takenExchanges batches) := by
  induction batches generalizing done o s log with
  | nil => exact ⟨s, by simp [submitBatches, takenExchanges]⟩
  | cons batch batches ih =>
      have hnext := hsteady.ask (.review batch)
      have hrefused := hsteady.of_refused (.review batch)
      simp only [Host.ask] at hnext hrefused
      cases heq : host.createReview pr batch s with
      | mk answer s' =>
          rw [heq] at hnext hrefused
          have hrecorded := Host.recorded_createReview log heq
          cases answer with
          | error e =>
              obtain ⟨m, hm, -⟩ := hrefused rfl
              omega
          | ok u =>
              obtain ⟨s'', hrest⟩ := ih (done + 1)
                { o with submitted := o.submitted + batch.length, batches := o.batches + 1 } hnext
                (log ++ [⟨.review batch, true⟩])
              refine ⟨s'', ?_⟩
              rw [submitBatches_cons_of_ok hrecorded]
              refine hrest.trans ?_
              rw [List.flatten_cons, List.length_append, List.length_cons, Nat.add_assoc,
                Nat.add_assoc, Nat.add_comm 1, List.append_assoc]
              rfl

/-- On a host that does not fail all batches are taken. -/
theorem submitBatches_of_steady (hk : host.KeepsThread pr thread) (total done : Nat) (o : Outcome)
    (batches : List (List Draft)) {s : σ} (hsteady : host.FailsAtMost pr 0 s) :
    ∃ s', submitBatches host pr total done o batches s =
        (.ok { o with
          submitted := o.submitted + batches.flatten.length
          batches := o.batches + batches.length }, s') ∧
      thread s' = thread s ++ batches.flatten.map fun d => some d.body := by
  obtain ⟨s', hall⟩ := submitBatches_recorded_of_steady total done o batches hsteady []
  obtain ⟨hanswer, hstate⟩ := @submitBatches_recorded σ host pr total done o batches s []
  obtain ⟨taken, left, rfl, htaken⟩ := submitBatches_spec hk total done o batches s []
  have hthread := htaken.thread_eq
  rw [hall] at hanswer hstate htaken hthread
  obtain ⟨rfl, -⟩ := htaken.of_ok rfl
  rw [List.append_nil] at hanswer hstate ⊢
  exact ⟨s', Prod.ext hanswer.symm hstate.symm, hthread⟩

end Posting

end PatchReview
