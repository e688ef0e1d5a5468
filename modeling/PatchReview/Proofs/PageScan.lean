import PatchReview.Proofs.CommentScan

/-!
# Scanning page by page

A scan asks for one page after the other and stops behind a page that is not full, or
at the page limit.  This module says which pages it asks for and what it finds, on a
host that serves its comments in pages.  The last page of a thread may be full; then the
scan cannot know that it was the last one, and asks for one more.

Main results:

- Definition `Host.ServesPages`: a host that serves its comments in pages.
- Theorem `Posting.listPages_of_servesPages`: the pages that are asked for from some
  page on, and what they add.
- Theorem `Posting.existingSignatures_of_servesPages`: a whole scan asks for every page
  once, in order, and misses no comment within the page limit.
-/

namespace PatchReview

variable {σ : Type} {host : Host σ} {pr : PullRequestRef} {perPage : Nat}
  {comments : List (Option String)} {s : σ}

/-- The state of a host after pages of one size were listed. -/
def Host.afterPages (host : Host σ) (pr : PullRequestRef) (perPage : Nat) : List Nat → σ → σ
  | [], s => s
  | page :: pages, s => host.afterPages pr perPage pages (host.listComments pr page perPage s).2

/-- From a state on, a host serves comments in pages of one size: whatever pages were
listed before, a page is listed and holds the comments of that page. -/
def Host.ServesPages (host : Host σ) (pr : PullRequestRef) (perPage : Nat)
    (comments : List (Option String)) (s : σ) : Prop :=
  ∀ pages page, ∃ listed,
    (host.listComments pr (page + 1) perPage (host.afterPages pr perPage pages s)).1 = .ok listed ∧
      listed.map (·.body) = (comments.drop (page * perPage)).take perPage

/-- A page that is asked for is listed, and the others are still served. -/
theorem Host.ServesPages.exists_listComments_eq (h : host.ServesPages pr perPage comments s)
    (page : Nat) :
    ∃ listed s', host.listComments pr (page + 1) perPage s = (.ok listed, s') ∧
      listed.map (·.body) = (comments.drop (page * perPage)).take perPage ∧
      host.ServesPages pr perPage comments s' := by
  obtain ⟨listed, hlisted, hbodies⟩ := h [] page
  refine ⟨listed, (host.listComments pr (page + 1) perPage s).2, Prod.ext hlisted rfl, hbodies, ?_⟩
  intro pages
  exact h ((page + 1) :: pages)

/-- A host that keeps a thread and does not fail serves it in pages. -/
theorem Host.KeepsThread.servesPages {thread : σ → List (Option String)}
    (hk : host.KeepsThread pr thread) (hsteady : host.FailsAtMost pr 0 s) :
    host.ServesPages pr perPage (thread s) s := by
  intro pages
  induction pages generalizing s with
  | nil =>
      intro page
      cases hanswer : (host.listComments pr (page + 1) perPage s).1 with
      | error e =>
          have hrefused : (host.ask pr s (.list (page + 1) perPage)).1 = false := by
            simp only [Host.ask, hanswer]
            rfl
          obtain ⟨m, hm, -⟩ := hsteady.of_refused _ hrefused
          omega
      | ok listed => exact ⟨listed, hanswer, hk.bodies_listComments page perPage s listed hanswer⟩
  | cons first pages ih =>
      have hrest := ih (hsteady.ask (.list first perPage))
      simp only [Host.ask, hk.thread_listComments] at hrest
      exact hrest

namespace Posting

/-- The requests for some pages from a first one on, all granted. -/
def listedPages (perPage first count : Nat) : List Exchange :=
  (List.range' first count).map fun page => ⟨.list page perPage, true⟩

/-- The remaining pages are asked for up to a short one or the page limit, and add the
signatures on their comments. -/
theorem listPages_of_servesPages (hsize : 1 ≤ perPage) (count page : Nat) (known : List String)
    {s : σ} (h : host.ServesPages pr perPage comments s) (log : List Exchange) :
    ∃ s', listPages host.recorded pr perPage count (page + 1) known (s, log) =
      (.ok (addNew known (carried ((comments.drop (page * perPage)).take (count * perPage)))), s',
        log ++ listedPages perPage (page + 1)
          (min count ((comments.length - page * perPage) / perPage + 1))) := by
  induction count generalizing page known s log with
  | zero => exact ⟨s, by simp [listPages, listedPages, carried, addNew]⟩
  | succ count ih =>
      obtain ⟨listed, s', hlist, hbodies, hserves⟩ := h.exists_listComments_eq page
      have hrecorded := Host.recorded_listComments log hlist
      have hknown : addSignatures known listed =
          addNew known (carried ((comments.drop (page * perPage)).take perPage)) := by
        rw [addSignatures_eq, hbodies]
      have hlength : listed.length = min perPage (comments.length - page * perPage) := by
        rw [← List.length_drop, ← List.length_take, ← hbodies, List.length_map]
      simp only [listPages, hrecorded]
      by_cases hshort : listed.length < perPage
      · have hend : (comments.drop (page * perPage)).length < perPage := by
          rw [List.length_drop]
          omega
        have hlast : min (count + 1) ((comments.length - page * perPage) / perPage + 1) = 1 := by
          rw [← List.length_drop, Nat.div_eq_of_lt hend]
          omega
        rw [if_pos hshort, hknown, take_pages_of_short count hend, hlast]
        exact ⟨s', rfl⟩
      · -- The page is full, so dividing what is left by the size counts one page more.
        have hcount : min (count + 1) ((comments.length - page * perPage) / perPage + 1) =
            min count ((comments.length - (page + 1) * perPage) / perPage + 1) + 1 := by
          have hrest : comments.length - page * perPage =
              comments.length - (page + 1) * perPage + perPage := by
            rw [Nat.add_mul, Nat.one_mul]
            omega
          rw [hrest, Nat.add_div_right _ hsize]
          omega
        obtain ⟨s'', hrest⟩ := ih (page + 1) (addSignatures known listed) hserves
          (log ++ [⟨.list (page + 1) perPage, true⟩])
        refine ⟨s'', ?_⟩
        rw [if_neg hshort, hcount]
        refine hrest.trans ?_
        rw [hknown, addNew_carried_pages, List.append_assoc]
        rfl

/-- The signatures on the first comments, by the comments. -/
theorem mem_carried_take (comments : List (Option String)) (n : Nat) (x : String) :
    x ∈ carried (comments.take n) ↔
      ∃ i text, i < n ∧ comments[i]? = some (some text) ∧ Signature.extract text = some x := by
  rw [carried, List.mem_filterMap]
  constructor
  · rintro ⟨body, hbody, hx⟩
    obtain ⟨i, hi⟩ := List.mem_iff_getElem?.1 hbody
    rw [List.getElem?_take] at hi
    split at hi
    · next hlt =>
        obtain ⟨text, rfl, htext⟩ := Option.bind_eq_some_iff.1 hx
        exact ⟨i, text, hlt, hi, htext⟩
    · cases hi
  · rintro ⟨i, text, hlt, hi, htext⟩
    refine ⟨some text, List.mem_iff_getElem?.2 ⟨i, ?_⟩, htext⟩
    rw [List.getElem?_take, if_pos hlt, hi]

/-- A scan asks for the first pages, each once and in order, as many as the comments fill
and one more, but no more than the page limit; and it finds the signatures on the comments
within the limit, each once. -/
theorem existingSignatures_of_servesPages {o : PostingOptions} (hsize : 1 ≤ o.perPage)
    (h : host.ServesPages pr o.perPage comments s) :
    ∃ known s', existingSignatures host o pr s = (.ok known, s') ∧
      existingSignatures host.recorded o pr (s, []) =
        (.ok known, s',
          (List.range' 1 (min o.maxCommentPages (comments.length / o.perPage + 1))).map
            fun page => ⟨.list page o.perPage, true⟩) ∧
      known.Nodup ∧
      ∀ x, x ∈ known ↔ ∃ i text, i < min comments.length (o.maxCommentPages * o.perPage) ∧
        comments[i]? = some (some text) ∧ Signature.extract text = some x := by
  obtain ⟨s', hscan⟩ := listPages_of_servesPages hsize o.maxCommentPages 0 [] h []
  rw [Nat.zero_mul, Nat.sub_zero, List.drop_zero, List.nil_append] at hscan
  obtain ⟨added, hrecorded, -⟩ := existingSignatures_recorded host pr o s []
  have hplain := hrecorded.symm.trans hscan
  have hanswer := congrArg Prod.fst hplain
  have hstate := congrArg (fun result => result.2.1) hplain
  refine ⟨_, s', Prod.ext hanswer hstate, hscan, nodup_addNew List.nodup_nil _, ?_⟩
  intro x
  rw [mem_addNew, mem_carried_take]
  constructor
  · rintro (hnil | ⟨i, text, hlt, hi, htext⟩)
    · cases hnil
    · have hlength : i < comments.length := (List.getElem?_eq_some_iff.1 hi).1
      exact ⟨i, text, Nat.lt_min.2 ⟨hlength, hlt⟩, hi, htext⟩
  · rintro ⟨i, text, hlt, hi, htext⟩
    exact Or.inr ⟨i, text, (Nat.lt_min.1 hlt).2, hi, htext⟩

/-- Four comments in pages of two: the second page is full, so a third one is asked for. -/
theorem existingSignatures_of_servesPages_full_page :
    let pr : PullRequestRef := ⟨"acme", "widgets", 1⟩
    let comments := [some "LGTM", none, some "a <!-- mcp:sig=0123ABCD -->", some "Done."]
    let s : Thread := { authenticated := false, pull := .error .network, comments := comments }
    let o : PostingOptions := { perPage := 2, maxCommentPages := 10 }
    1 ≤ o.perPage ∧ Thread.host.ServesPages pr o.perPage comments s ∧
      min o.maxCommentPages (comments.length / o.perPage + 1) = 3 ∧
      ∃ known s', existingSignatures Thread.host o pr s = (.ok known, s') ∧
        existingSignatures Thread.host.recorded o pr (s, []) =
          (.ok known, s',
            (List.range' 1 (min o.maxCommentPages (comments.length / o.perPage + 1))).map
              fun page => ⟨.list page o.perPage, true⟩) ∧
        known.Nodup ∧
        ∀ x, x ∈ known ↔ ∃ i text, i < min comments.length (o.maxCommentPages * o.perPage) ∧
          comments[i]? = some (some text) ∧ Signature.extract text = some x := by
  intro pr comments s o
  have hsteady : Thread.host.FailsAtMost pr 0 s := Thread.failsAtMost_zero rfl rfl
  have hserves : Thread.host.ServesPages pr o.perPage comments s :=
    (Thread.keepsThread pr).servesPages hsteady
  exact ⟨by decide, hserves, by decide, existingSignatures_of_servesPages (by decide) hserves⟩

end Posting

end PatchReview
