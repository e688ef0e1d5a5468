import PatchReview.Proofs.Assessment

/-!
# Dry runs

A dry run goes the way of a live run up to the point where the first batch would be
submitted.  So it only reads what the host shows, and what it reports is what a live
run from the same state finds, leaves out and adds.

Main results:

- Theorem `Posting.post_invariant_of_dryRun` and theorem
  `Review.run_invariant_of_dryRun`: what reading preserves, a dry run preserves.
- Theorem `Posting.post_live_of_steady`: what a live posting adds is what a dry one
  finds to post.
- Theorem `Review.dryRun_predicts_live`: a dry review predicts the live one.
-/

namespace PatchReview

variable {σ : Type} {host : Host σ} {pr : PullRequestRef} {thread : σ → List (Option String)}
  {o : PostingOptions}

namespace Posting

/-- What listing a page preserves, a dry posting preserves. -/
theorem post_invariant_of_dryRun {P : σ → Prop}
    (hlist : ∀ page s, P s → P (host.listComments pr page o.perPage s).2)
    (findings : List Finding) {s : σ} (hs : P s) : P (post host o pr findings true s).2 := by
  refine post_invariant hlist ?_ findings hs
  intro hlive
  cases hlive

/-- On a host that does not fail, a live posting of new findings counts what a dry one
counts, and adds as many comments as that finds to post. -/
theorem postNew_live_of_steady (hk : host.KeepsThread pr thread) (findings : List Finding)
    (known : List String) {s : σ} (hsteady : host.FailsAtMost pr 0 s) :
    ∃ dry live s' added,
      postNew host o pr findings true known s = (.ok dry, s) ∧
      postNew host o pr findings false known s = (.ok live, s') ∧
      live = { dry with submitted := live.submitted, batches := live.batches, dryRun := false } ∧
      thread s' = thread s ++ added ∧ added.length = dry.toPost := by
  have hdry : postNew host o pr findings true known s = (.ok (counted known findings true), s) :=
    postNew_of_idle (Or.inl rfl) s
  by_cases hnone : newFindings known findings = []
  · refine ⟨_, _, s, [], hdry, postNew_of_idle (Or.inr hnone) s, rfl, ?_, ?_⟩
    · rw [List.append_nil]
    · rw [counted, hnone]
      rfl
  · obtain ⟨s', hsubmitted, hthread⟩ := submitBatches_of_steady hk
      (newBatches o known findings).length 0 (counted known findings false)
      (newBatches o known findings) hsteady
    rw [flatten_newBatches] at hthread
    refine ⟨_, _, s', _, hdry, (postNew_of_ne_nil hnone s).trans hsubmitted, rfl, hthread, ?_⟩
    rw [List.length_map]
    rfl

/-- On a host that does not fail, a live posting with credentials counts what a dry one
counts, and adds as many comments as that finds to post. -/
theorem post_live_of_steady (hk : host.KeepsThread pr thread) (findings : List Finding) {s : σ}
    (hauth : host.isAuthenticated s = true) (hsteady : host.FailsAtMost pr 0 s) :
    ∃ dry live s₁ s₂ added,
      post host o pr findings true s = (.ok dry, s₁) ∧
      post host o pr findings false s = (.ok live, s₂) ∧
      live = { dry with submitted := live.submitted, batches := live.batches, dryRun := false } ∧
      thread s₂ = thread s ++ added ∧ added.length = dry.toPost := by
  by_cases hne : findings = []
  · subst hne
    exact ⟨_, _, s, s, [], post_nil o true s, post_nil o false s, rfl,
      (List.append_nil _).symm, rfl⟩
  have hafter := failsAtMost_existingSignatures o hsteady
  have hthread := thread_existingSignatures hk o s
  have hscan : ∃ known, (existingSignatures host o pr s).1 = .ok known :=
    exists_existingSignatures_eq_ok hsteady
  obtain ⟨known, hknown⟩ := hscan
  have hscanned : existingSignatures host o pr s = (.ok known, (existingSignatures host o pr s).2) :=
    Prod.ext hknown rfl
  obtain ⟨dry, live, s₂, added, hdry, hlive, hsame, hadded, hlength⟩ :=
    postNew_live_of_steady (o := o) hk findings known hafter
  rw [hthread] at hadded
  exact ⟨dry, live, _, s₂, added, (post_of_scan_ok hne (Or.inl rfl) hscanned).trans hdry,
    (post_of_scan_ok hne (Or.inr hauth) hscanned).trans hlive, hsame, hadded, hlength⟩

end Posting

namespace Review

variable {store : Store} {s s₁ : σ} {pull : PullRequest}

/-- What fetching and listing a page preserve, a dry review preserves. -/
theorem run_invariant_of_dryRun {P : σ → Prop} (hfetch : ∀ s, P s → P (host.fetch pr s).2)
    (hlist : ∀ page s, P s → P (host.listComments pr page o.perPage s).2) (hs : P s) :
    P (run host o store pr true s).value.2 := by
  have hfetched := hfetch s hs
  cases hanswer : host.fetch pr s with
  | mk answer s₁ =>
      rw [hanswer] at hfetched
      cases answer with
      | error e =>
          rw [run_of_fetch_error (Or.inl rfl) hanswer]
          exact hfetched
      | ok pull =>
          have hposted := Posting.post_invariant_of_dryRun hlist
            (assess store pull.files).value.findings hfetched
          rw [value_run_of_fetch_ok (Or.inl rfl) hanswer]
          cases hpost : Posting.post host o pr (assess store pull.files).value.findings true s₁ with
          | mk answer s₂ =>
              rw [hpost] at hposted
              cases answer with
              | error e => exact hposted
              | ok outcome => exact hposted

variable (host pr o store) in
/-- Recording a review does not change it. -/
theorem run_recorded (dryRun : Bool) (s : σ) (log : List Exchange) :
    (run host.recorded o store pr dryRun (s, log)).value.1 =
        (run host o store pr dryRun s).value.1 ∧
      (run host.recorded o store pr dryRun (s, log)).value.2.1 =
        (run host o store pr dryRun s).value.2 := by
  by_cases hauth : dryRun = true ∨ host.isAuthenticated s = true
  · have hauthRecorded : dryRun = true ∨ host.recorded.isAuthenticated (s, log) = true := hauth
    cases hfetch : host.fetch pr s with
    | mk answer s₁ =>
        have hrecorded : host.recorded.fetch pr (s, log) = (answer, s₁, log) := by
          simp only [Host.recorded, hfetch]
        cases answer with
        | error e =>
            rw [run_of_fetch_error hauthRecorded hrecorded, run_of_fetch_error hauth hfetch]
            exact ⟨rfl, rfl⟩
        | ok pull =>
            obtain ⟨hanswer, hstate⟩ := Posting.post_recorded host pr o
              (assess store pull.files).value.findings dryRun s₁ log
            rw [value_run_of_fetch_ok hauthRecorded hrecorded, value_run_of_fetch_ok hauth hfetch]
            cases hpost :
                Posting.post host o pr (assess store pull.files).value.findings dryRun s₁ with
            | mk answer s₂ =>
                cases hpostRecorded : Posting.post host.recorded o pr
                    (assess store pull.files).value.findings dryRun (s₁, log) with
                | mk answerRecorded t =>
                    rw [hpost, hpostRecorded] at hanswer hstate
                    subst hanswer hstate
                    cases answerRecorded with
                    | error e => exact ⟨rfl, rfl⟩
                    | ok outcome => exact ⟨rfl, rfl⟩
  · rw [not_or, Bool.not_eq_true, Bool.not_eq_true] at hauth
    obtain ⟨rfl, hauth⟩ := hauth
    have hauthRecorded : host.recorded.isAuthenticated (s, log) = false := hauth
    rw [run_of_not_isAuthenticated hauthRecorded, run_of_not_isAuthenticated hauth]
    exact ⟨rfl, rfl⟩

/-- A dry review leaves the thread as it is. -/
theorem thread_run_of_dryRun (hk : host.KeepsThread pr thread) :
    thread (run host o store pr true s).value.2 = thread s :=
  run_invariant_of_dryRun (P := fun t => thread t = thread s)
    (fun t ht => (hk.thread_fetch t).trans ht)
    (fun page t ht => (hk.thread_listComments page o.perPage t).trans ht) rfl

/-- A dry review asks for no review. -/
theorem reviewsAsked_run_of_dryRun (log : List Exchange) :
    reviewsAsked (run host.recorded o store pr true (s, log)).value.2.2 = reviewsAsked log := by
  apply run_invariant_of_dryRun
    (P := fun t : σ × List Exchange => reviewsAsked t.2 = reviewsAsked log)
  · intro t ht
    exact ht
  · intro page t ht
    rw [Host.recorded_listComments t.2 rfl, reviewsAsked_append, ht]
    exact List.append_nil _
  · rfl

/-- On a host that does not fail, a dry review predicts the live one: the reports differ in
what was submitted only, the dry one asks for no review and leaves the thread as it is,
and the live one adds as many comments as the dry one finds to post. -/
theorem dryRun_predicts_live (hk : host.KeepsThread pr thread)
    (hauth : host.isAuthenticated s = true) (hfetch : host.fetch pr s = (.ok pull, s₁))
    (hsteady : host.FailsAtMost pr 0 s₁) :
    ∃ dry live sDry sLive log added,
      (run host o store pr true s).value = (.ok dry, sDry) ∧
      (run host o store pr false s).value = (.ok live, sLive) ∧
      live = { dry with outcome := { dry.outcome with
        submitted := live.outcome.submitted
        batches := live.outcome.batches
        dryRun := false } } ∧
      (run host.recorded o store pr true (s, [])).value = (.ok dry, sDry, log) ∧
      reviewsAsked log = [] ∧
      thread sDry = thread s ∧
      thread sLive = thread s ++ added ∧ added.length = dry.outcome.toPost := by
  have hkept := hk.isAuthenticated_fetch s
  have hthread := hk.thread_fetch s
  rw [hfetch] at hkept hthread
  obtain ⟨dry, live, s₂, s₃, added, hdry, hlive, hsame, hadded, hlength⟩ :=
    Posting.post_live_of_steady (o := o) hk (assess store pull.files).value.findings
      (hkept.trans hauth) hsteady
  have hdryRun : (run host o store pr true s).value =
      (.ok (reportOn store pr pull (assess store pull.files).value dry), s₂) := by
    rw [value_run_of_fetch_ok (Or.inl rfl) hfetch, hdry]
  have hliveRun : (run host o store pr false s).value =
      (.ok (reportOn store pr pull (assess store pull.files).value live), s₃) := by
    rw [value_run_of_fetch_ok (Or.inr hauth) hfetch, hlive]
  have hunchanged : thread (run host o store pr true s).value.2 = thread s :=
    thread_run_of_dryRun hk
  have hnone : reviewsAsked (run host.recorded o store pr true (s, [])).value.2.2 = [] :=
    reviewsAsked_run_of_dryRun []
  obtain ⟨hanswer, hstate⟩ := run_recorded host pr o store true s []
  rw [hdryRun] at hunchanged hanswer hstate
  refine ⟨_, _, s₂, s₃, _, added, hdryRun, hliveRun, ?_,
    Prod.ext hanswer (Prod.ext hstate rfl), hnone, hunchanged, ?_, hlength⟩
  · exact congrArg (reportOn store pr pull (assess store pull.files).value) hsame
  · rw [hadded, hthread]

/-- Two findings on a thread that has a comment, in batches of one. -/
theorem dryRun_predicts_live_two_findings :
    let todo : Clause := { id := "no-todo", pattern := "TODO", message := "Avoid TODO."
                           severity := .warning }
    let store : Store := ⟨[(Document.new "todo" "No TODO" .warning).withClause todo]⟩
    let pr : PullRequestRef := ⟨"acme", "widgets", 1⟩
    let pull : PullRequest :=
      { number := 1, title := "Parser", body := "", state := "open"
        files := [{ filename := "src/a.ts", status := "modified"
                    patch := some "@@ -1 +1,3 @@\n context\n+a() // TODO\n+b() // TODO" }] }
    let s : Thread := { authenticated := true, pull := .ok pull, comments := [some "LGTM"] }
    let o : PostingOptions := { batchSize := 1 }
    ∃ dry live sDry sLive log added,
      (run Thread.host o store pr true s).value = (.ok dry, sDry) ∧
      (run Thread.host o store pr false s).value = (.ok live, sLive) ∧
      live = { dry with outcome := { dry.outcome with
        submitted := live.outcome.submitted
        batches := live.outcome.batches
        dryRun := false } } ∧
      (run Thread.host.recorded o store pr true (s, [])).value = (.ok dry, sDry, log) ∧
      reviewsAsked log = [] ∧
      sDry.comments = s.comments ∧
      sLive.comments = s.comments ++ added ∧ added.length = dry.outcome.toPost := by
  intro todo store pr pull s o
  have hsteady : Thread.host.FailsAtMost pr 0 (s.record (.fetch pr)) :=
    Thread.failsAtMost_zero rfl rfl
  exact dryRun_predicts_live (Thread.keepsThread pr) rfl rfl hsteady

end Review

end PatchReview
