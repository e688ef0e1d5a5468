import PatchReview.Proofs.PostEffect

/-!
# What a live posting submits

On a host that does not fail, a live posting submits its findings except those whose
signature stands on a listed comment or on an earlier finding.  They go out in batches
of the same size, only the last may be smaller, and the outcome counts what was done.

Main results:

- Definition `freshFindings`: the findings to be posted, told from each other by place.
- Theorem `newFindings_eq_freshFindings`: these are the findings that posting keeps.
- Structure `SubmitsFresh`: the reviews of a posting and the numbers of its outcome.
- Theorem `exists_submitsFresh`: every live posting on a host that does not fail is of
  that kind.
-/

namespace PatchReview.Posting

variable {σ : Type} {host : Host σ} {pr : PullRequestRef}

/-! ## Fresh findings -/

/-- The findings whose signature is neither known nor that of an earlier finding, in
order. -/
def freshFindings (known : List String) (findings : List Finding) : List Finding :=
  (findings.zipIdx.filter fun f =>
    f.1.signature ∉ known ∧ f.1.signature ∉ (findings.take f.2).map Finding.signature).map Prod.fst

/-- The scan for new findings behind some findings whose signatures are known to it. -/
theorem newFindings_eq_filter_zipIdx {known known' : List String} (earlier rest : List Finding)
    (h : ∀ x, x ∈ known' ↔ x ∈ known ∨ x ∈ earlier.map Finding.signature) :
    newFindings known' rest =
      ((rest.zipIdx earlier.length).filter fun f =>
        f.1.signature ∉ known ∧
          f.1.signature ∉ ((earlier ++ rest).take f.2).map Finding.signature).map Prod.fst := by
  induction rest generalizing earlier known' with
  | nil => rfl
  | cons f rest ih =>
      have hbefore : (earlier ++ f :: rest).take earlier.length = earlier := List.take_left' rfl
      have hsplit : earlier ++ f :: rest = (earlier ++ [f]) ++ rest := by
        rw [List.append_assoc, List.singleton_append]
      have hnext : ∀ x, x ∈ (earlier ++ [f]).map Finding.signature ↔
          x ∈ earlier.map Finding.signature ∨ x = f.signature := by
        intro x
        rw [List.map_append, List.mem_append, List.map_singleton, List.mem_singleton]
      have hlength : (earlier ++ [f]).length = earlier.length + 1 := List.length_append
      rw [newFindings, List.zipIdx_cons]
      by_cases hf : f.signature ∈ known'
      · have hknown : ∀ x, x ∈ known' ↔ x ∈ known ∨ x ∈ (earlier ++ [f]).map Finding.signature := by
          intro x
          rw [hnext, ← or_assoc, ← h]
          exact ⟨Or.inl, fun hx => hx.elim id fun hx => hx ▸ hf⟩
        have hrest := ih (earlier ++ [f]) hknown
        rw [← hsplit, hlength] at hrest
        rw [if_pos hf, List.filter_cons_of_neg, hrest]
        rw [hbefore, decide_eq_true_iff, ← not_or, ← h]
        exact not_not_intro hf
      · have hknown : ∀ x, x ∈ f.signature :: known' ↔
            x ∈ known ∨ x ∈ (earlier ++ [f]).map Finding.signature := by
          intro x
          rw [List.mem_cons, hnext, ← or_assoc, ← h, or_comm]
        have hrest := ih (earlier ++ [f]) hknown
        rw [← hsplit, hlength] at hrest
        rw [if_neg hf, List.filter_cons_of_pos, List.map_cons, hrest]
        rw [hbefore, decide_eq_true_iff, ← not_or, ← h]
        exact hf

/-- Posting keeps the fresh findings. -/
theorem newFindings_eq_freshFindings (known : List String) (findings : List Finding) :
    newFindings known findings = freshFindings known findings :=
  newFindings_eq_filter_zipIdx [] findings (by simp)

/-- Of two findings with one signature the later one is not fresh, and one whose signature
is known is not either. -/
example (f g h : Finding) (hfg : f.signature ≠ g.signature) (hh : h.signature = f.signature) :
    freshFindings [g.signature] [f, g, h] = [f] := by
  simp [freshFindings, hfg, hh]

/-! ## A live posting -/

/-- A raised batch size is not zero. -/
theorem one_le_batchSize_raised (o : PostingOptions) : 1 ≤ o.raised.batchSize :=
  Nat.le_max_right _ _

/-- What a live posting submits: the drafts of its reviews, and the numbers of its
outcome, given the signatures that the scan found. -/
structure SubmitsFresh (o : PostingOptions) (findings : List Finding) (known : List String)
    (reviews : List (List Draft)) (outcome : Outcome) : Prop where
  /-- The drafts are those of the fresh findings, in order. -/
  drafts_eq : reviews.flatten = (freshFindings known findings).map fun f =>
    { path := f.path, position := f.position, body := f.commentBody }
  /-- A review that another one follows has the full size. -/
  length_of_mem_dropLast : ∀ drafts ∈ reviews.dropLast, drafts.length = o.batchSize
  /-- The last review is not empty and not larger. -/
  length_of_mem_getLast? : ∀ drafts ∈ reviews.getLast?,
    1 ≤ drafts.length ∧ drafts.length ≤ o.batchSize
  existing_eq : outcome.existing = known.length
  skippedDuplicates_add_toPost : outcome.skippedDuplicates + outcome.toPost = findings.length
  toPost_eq : outcome.toPost = reviews.flatten.length
  submitted_eq : outcome.submitted = outcome.toPost
  batches_eq : outcome.batches = reviews.length
  batches_eq_div : outcome.batches = (outcome.toPost + o.batchSize - 1) / o.batchSize
  dryRun_eq : outcome.dryRun = false

/-- Drafts of fresh findings in batches, all counted. -/
theorem submitsFresh_chunks (o : PostingOptions) (hsize : 1 ≤ o.batchSize)
    (findings : List Finding) (known : List String) :
    SubmitsFresh o findings known (newBatches o known findings)
      { counted known findings false with
        submitted := ((newFindings known findings).map draftOf).length
        batches := (newBatches o known findings).length } where
  drafts_eq := by
    rw [flatten_newBatches, newFindings_eq_freshFindings]
    rfl
  length_of_mem_dropLast := by
    intro drafts hdrafts
    have hne : newBatches o known findings ≠ [] := by
      intro hnil
      rw [hnil] at hdrafts
      cases hdrafts
    exact Text.length_of_chunks_eq_append hsize (List.dropLast_append_getLast hne).symm
      (List.cons_ne_nil _ _) hdrafts
  length_of_mem_getLast? := by
    intro drafts hdrafts
    exact Text.length_of_mem_chunks hsize (List.mem_of_getLast? hdrafts)
  existing_eq := rfl
  skippedDuplicates_add_toPost := by
    have hle := (newFindings_sublist known findings).length_le
    simp only [counted, List.length_map]
    omega
  toPost_eq := by
    rw [flatten_newBatches]
    rfl
  submitted_eq := rfl
  batches_eq := rfl
  batches_eq_div := Text.length_chunks hsize _
  dryRun_eq := rfl

/-- A live posting on a host that does not fail submits its new findings, all of them. -/
theorem postNew_recorded_of_steady (o : PostingOptions) (findings : List Finding)
    (known : List String) {s : σ} (hsteady : host.FailsAtMost pr 0 s) (log : List Exchange) :
    ∃ s', postNew host.recorded o pr findings false known (s, log) =
      (.ok { counted known findings false with
        submitted := ((newFindings known findings).map draftOf).length
        batches := (newBatches o known findings).length }, s',
        log ++ takenExchanges (newBatches o known findings)) := by
  by_cases hnone : newFindings known findings = []
  · refine ⟨s, ?_⟩
    rw [postNew_of_idle (Or.inr hnone), hnone]
    simp [counted, hnone, newBatches, Text.chunks, takenExchanges]
  · obtain ⟨s', hall⟩ := submitBatches_recorded_of_steady
      (newBatches o known findings).length 0 (counted known findings false)
      (newBatches o known findings) hsteady log
    refine ⟨s', ?_⟩
    rw [postNew_of_ne_nil hnone, hall, flatten_newBatches]
    simp [counted]

/-- A live posting with credentials on a host that does not fail succeeds and submits
what is fresh, batch by batch. -/
theorem exists_submitsFresh {o : PostingOptions} {findings : List Finding} {s : σ}
    (hne : findings ≠ []) (hauth : host.isAuthenticated s = true)
    (hsteady : host.FailsAtMost pr 0 s) :
    ∃ known outcome s' log,
      (existingSignatures host o.raised pr s).1 = .ok known ∧ known.Nodup ∧
      post host o.raised pr findings false s = (.ok outcome, s') ∧
      post host.recorded o.raised pr findings false (s, []) = (.ok outcome, s', log) ∧
      SubmitsFresh o.raised findings known (reviewsAsked log) outcome := by
  obtain ⟨known, hknown⟩ := exists_existingSignatures_eq_ok (o := o.raised) hsteady
  obtain ⟨added, hscan, hadded⟩ := existingSignatures_recorded host pr o.raised s []
  rw [hknown, List.nil_append] at hscan
  have hafter := failsAtMost_existingSignatures o.raised hsteady
  obtain ⟨s', hposted⟩ := postNew_recorded_of_steady o.raised findings known hafter added
  have hauthRecorded : host.recorded.isAuthenticated (s, []) = true := hauth
  have hrecorded := (post_of_scan_ok hne (Or.inr hauthRecorded) hscan).trans hposted
  obtain ⟨hanswer, hstate⟩ := post_recorded host pr o.raised findings false s []
  rw [hrecorded] at hanswer hstate
  refine ⟨known, _, s', _, hknown, nodup_of_listPages List.nodup_nil hknown,
    Prod.ext hanswer.symm hstate.symm, hrecorded, ?_⟩
  rw [reviewsAsked_append, reviewsAsked_eq_nil hadded, List.nil_append, reviewsAsked_takenExchanges]
  exact submitsFresh_chunks o.raised (one_le_batchSize_raised o) findings known

/-- Three findings, one of them twice, with sizes of zero on a thread that has comments. -/
theorem exists_submitsFresh_of_zero_sizes :
    let pr : PullRequestRef := ⟨"acme", "widgets", 1⟩
    let s : Thread :=
      { authenticated := true, pull := .error .network, comments := [some "LGTM", none] }
    let o : PostingOptions := { batchSize := 0, perPage := 0 }
    let findings : List Finding := [⟨"src/a.ts", 2, "Avoid TODO.", some "no-todo", none⟩,
      ⟨"src/b.ts", 1, "Too long.", none, none⟩,
      ⟨"src/a.ts", 2, "Avoid TODO.", some "no-todo", some .warning⟩]
    findings ≠ [] ∧ Thread.host.isAuthenticated s = true ∧ Thread.host.FailsAtMost pr 0 s ∧
      ∃ known outcome s' log,
        (existingSignatures Thread.host o.raised pr s).1 = .ok known ∧ known.Nodup ∧
        post Thread.host o.raised pr findings false s = (.ok outcome, s') ∧
        post Thread.host.recorded o.raised pr findings false (s, []) = (.ok outcome, s', log) ∧
        SubmitsFresh o.raised findings known (reviewsAsked log) outcome := by
  intro pr s o findings
  have hne : findings ≠ [] := List.cons_ne_nil _ _
  have hsteady : Thread.host.FailsAtMost pr 0 s := Thread.failsAtMost_zero rfl rfl
  exact ⟨hne, rfl, hsteady, exists_submitsFresh hne rfl hsteady⟩

end PatchReview.Posting
