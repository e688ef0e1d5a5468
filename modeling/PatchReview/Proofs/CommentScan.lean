import PatchReview.Review.Posting
import PatchReview.Proofs.KeptThread
import PatchReview.Proofs.Trailer

/-!
# Scanning the comments of a thread

Before anything is posted the comments of a pull request are listed page by page.
On a host that keeps a thread the scan finds the signatures of all comments that
the page limit lets it reach, whether it stops at a short page or at the limit, and
it changes nothing.

Main results:

- Theorem `listPages_invariant`: what one page of the list preserves, the whole
  scan preserves.
- Theorem `existingSignatures_eq`: what a successful scan finds.
- Theorem `mem_existingSignatures_iff`: a scan of a thread within the limit misses
  no comment.
- Theorem `existingSignatures_of_error`: a scan that fails uses up a failure.
-/

namespace PatchReview

/-- The signatures that comments carry, in the order of the comments. -/
def carried (comments : List (Option String)) : List String :=
  comments.filterMap (·.bind Signature.extract)

/-- A comment adds the signature it carries, if it carries one. -/
theorem carried_cons (body : Option String) (comments : List (Option String)) :
    carried (body :: comments) = (body.bind Signature.extract).toList ++ carried comments := by
  rw [carried, List.filterMap_cons]
  cases body.bind Signature.extract with
  | none => rfl
  | some s => rfl

/-- The signatures of two stretches of a thread. -/
theorem carried_append (first second : List (Option String)) :
    carried (first ++ second) = carried first ++ carried second := by
  rw [carried, List.filterMap_append, carried, carried]

/-- Comments made for findings carry what they are read back with. -/
theorem carried_map_commentBody (findings : List Finding) :
    carried (findings.map fun f => some f.commentBody) =
      findings.map Finding.readSignature := by
  induction findings with
  | nil => rfl
  | cons f findings ih =>
      rw [List.map_cons, carried_cons, ih, Option.bind_some, Finding.extract_commentBody]
      rfl

namespace Posting

variable {σ : Type} {host : Host σ} {pr : PullRequestRef} {thread : σ → List (Option String)}

/-- Add signatures to those that are known, each once. -/
def addNew (known : List String) : List String → List String
  | [] => known
  | s :: rest => if s ∈ known then addNew known rest else addNew (known ++ [s]) rest

/-- Two stretches of signatures are added one after the other. -/
theorem addNew_append (known first second : List String) :
    addNew known (first ++ second) = addNew (addNew known first) second := by
  induction first generalizing known with
  | nil => rfl
  | cons s first ih =>
      simp only [List.cons_append, addNew]
      split
      · exact ih known
      · exact ih (known ++ [s])

/-- Adding signatures adds just these. -/
theorem mem_addNew {known new : List String} {x : String} :
    x ∈ addNew known new ↔ x ∈ known ∨ x ∈ new := by
  induction new generalizing known with
  | nil => simp [addNew]
  | cons s new ih =>
      simp only [addNew]
      split
      · next hs =>
          rw [ih, List.mem_cons]
          constructor
          · rintro (hx | hx)
            · exact Or.inl hx
            · exact Or.inr (Or.inr hx)
          · rintro (hx | rfl | hx)
            · exact Or.inl hx
            · exact Or.inl hs
            · exact Or.inr hx
      · rw [ih, List.mem_append, List.mem_singleton, List.mem_cons, or_assoc]

/-- A page adds the signatures that its comments carry. -/
theorem addSignatures_eq (known : List String) (comments : List ReviewComment) :
    addSignatures known comments = addNew known (carried (comments.map (·.body))) := by
  induction comments generalizing known with
  | nil => rfl
  | cons comment comments ih =>
      rw [addSignatures, List.map_cons, carried_cons]
      cases comment.body.bind Signature.extract with
      | none => exact ih known
      | some s =>
          simp only [Option.toList_some, List.cons_append, List.nil_append, addNew]
          split
          · exact ih known
          · exact ih (known ++ [s])

/-- Signatures that are added to distinct ones are distinct. -/
theorem nodup_addNew {known : List String} (h : known.Nodup) (new : List String) :
    (addNew known new).Nodup := by
  induction new generalizing known with
  | nil => exact h
  | cons s new ih =>
      simp only [addNew]
      split
      · exact ih h
      · next hs =>
          apply ih
          rw [List.nodup_append]
          refine ⟨h, List.nodup_cons.2 ⟨List.not_mem_nil, List.nodup_nil⟩, ?_⟩
          rintro a ha b hb rfl
          exact hs (List.mem_singleton.1 hb ▸ ha)

/-- The comments of a page and those of the pages behind it. -/
theorem addNew_carried_pages (known : List String) (comments : List (Option String))
    (perPage count page : Nat) :
    addNew (addNew known (carried ((comments.drop (page * perPage)).take perPage)))
        (carried ((comments.drop ((page + 1) * perPage)).take (count * perPage))) =
      addNew known (carried ((comments.drop (page * perPage)).take ((count + 1) * perPage))) := by
  have hdrop : comments.drop ((page + 1) * perPage) =
      (comments.drop (page * perPage)).drop perPage := by
    rw [List.drop_drop, Nat.add_mul, Nat.one_mul]
  have hcount : (count + 1) * perPage = perPage + count * perPage := by
    rw [Nat.add_mul, Nat.one_mul, Nat.add_comm]
  rw [hdrop, hcount, List.take_add, carried_append, addNew_append]

/-- Behind a short page there are no comments. -/
theorem take_pages_of_short {comments : List (Option String)} {perPage page : Nat} (count : Nat)
    (h : (comments.drop (page * perPage)).length < perPage) :
    (comments.drop (page * perPage)).take ((count + 1) * perPage) =
      (comments.drop (page * perPage)).take perPage := by
  have hle : perPage ≤ (count + 1) * perPage := Nat.le_mul_of_pos_left _ (by omega)
  rw [List.take_of_length_le (by omega), List.take_of_length_le (by omega)]

/-! ## One scan -/

/-- What listing one page preserves, listing the remaining pages preserves. -/
theorem listPages_invariant {P : σ → Prop} {perPage : Nat}
    (hstep : ∀ page s, P s → P (host.listComments pr page perPage s).2)
    (count page : Nat) (known : List String) {s : σ} (hs : P s) :
    P (listPages host pr perPage count page known s).2 := by
  induction count generalizing page known s with
  | zero => exact hs
  | succ count ih =>
      have hnext := hstep page s hs
      simp only [listPages]
      split <;> rename_i heq <;> rw [heq] at hnext
      · exact hnext
      · split
        · exact hnext
        · exact ih (page + 1) _ hnext

/-- The scan leaves the thread as it is. -/
theorem thread_existingSignatures (hk : host.KeepsThread pr thread) (o : PostingOptions) (s : σ) :
    thread (existingSignatures host o pr s).2 = thread s :=
  listPages_invariant (fun page t ht => (hk.thread_listComments page o.perPage t).trans ht)
    o.maxCommentPages 1 [] rfl

/-- What the remaining pages add: the signatures on the comments from the current page
on, as far as the number of pages reaches. -/
theorem listPages_eq (hk : host.KeepsThread pr thread) {perPage count : Nat} (page : Nat)
    {known found : List String} {s : σ}
    (h : (listPages host pr perPage count (page + 1) known s).1 = .ok found) :
    found = addNew known
      (carried (((thread s).drop (page * perPage)).take (count * perPage))) := by
  induction count generalizing page known s with
  | zero =>
      rw [Nat.zero_mul, List.take_zero]
      exact (Except.ok.inj h).symm
  | succ count ih =>
      have hthread := hk.thread_listComments (page + 1) perPage s
      have hbodies := hk.bodies_listComments page perPage s
      simp only [listPages] at h
      split at h <;> rename_i heq
      · cases h
      · rename_i comments s'
        rw [heq] at hthread hbodies
        have hpage := hbodies comments rfl
        have hknown : addSignatures known comments =
            addNew known (carried (((thread s).drop (page * perPage)).take perPage)) := by
          rw [addSignatures_eq, hpage]
        split at h
        · next hshort =>
            have hend : ((thread s).drop (page * perPage)).length < perPage := by
              have hlength := congrArg List.length hpage
              rw [List.length_map, List.length_take] at hlength
              omega
            rw [take_pages_of_short count hend, ← hknown]
            exact (Except.ok.inj h).symm
        · have hrest := ih (page + 1) h
          rwa [hthread, hknown, addNew_carried_pages] at hrest

/-- A successful scan finds the signatures on the comments within the page limit. -/
theorem existingSignatures_eq (hk : host.KeepsThread pr thread) {o : PostingOptions}
    {found : List String} {s : σ} (h : (existingSignatures host o pr s).1 = .ok found) :
    found = addNew [] (carried ((thread s).take (o.maxCommentPages * o.perPage))) := by
  have hfound := listPages_eq hk 0 h
  rwa [Nat.zero_mul, List.drop_zero] at hfound

/-- A successful scan of a thread within the page limit misses no comment. -/
theorem mem_existingSignatures_iff (hk : host.KeepsThread pr thread) {o : PostingOptions}
    {found : List String} {s : σ} (h : (existingSignatures host o pr s).1 = .ok found)
    (hfits : (thread s).length ≤ o.perPage * o.maxCommentPages) (x : String) :
    x ∈ found ↔ x ∈ carried (thread s) := by
  rw [Nat.mul_comm] at hfits
  rw [existingSignatures_eq hk h, List.take_of_length_le hfits, mem_addNew]
  simp

/-- A scan finds every signature once. -/
theorem nodup_of_listPages {perPage count page : Nat} {known found : List String} {s : σ}
    (hknown : known.Nodup) (h : (listPages host pr perPage count page known s).1 = .ok found) :
    found.Nodup := by
  induction count generalizing page known s with
  | zero =>
      obtain rfl := Except.ok.inj h
      exact hknown
  | succ count ih =>
      simp only [listPages] at h
      split at h
      · cases h
      · next comments s' _ =>
          have hadded : (addSignatures known comments).Nodup := by
            rw [addSignatures_eq]
            exact nodup_addNew hknown _
          split at h
          · obtain rfl := Except.ok.inj h
            exact hadded
          · exact ih hadded h

/-! ## Failures and records of a scan -/

/-- A scan fails at a page of the list. -/
theorem eq_listComments_of_error {perPage count page : Nat} {known : List String} {s : σ}
    {e : ReviewError} (h : (listPages host pr perPage count page known s).1 = .error e) :
    ∃ failing cause, e = .listComments pr failing cause := by
  induction count generalizing page known s with
  | zero => cases h
  | succ count ih =>
      simp only [listPages] at h
      split at h
      · obtain rfl := Except.error.inj h
        exact ⟨page, _, rfl⟩
      · split at h
        · cases h
        · exact ih h

/-- A scan that fails met a failure. -/
theorem listPages_of_error {perPage count page n : Nat} {known : List String} {s : σ}
    {e : ReviewError} (hfails : host.FailsAtMost pr n s)
    (h : (listPages host pr perPage count page known s).1 = .error e) :
    ∃ m, n = m + 1 ∧ host.FailsAtMost pr m (listPages host pr perPage count page known s).2 := by
  induction count generalizing page known s with
  | zero => cases h
  | succ count ih =>
      have hnext := hfails.ask (.list page perPage)
      have hrefused := hfails.of_refused (.list page perPage)
      simp only [Host.ask] at hnext hrefused
      simp only [listPages] at h ⊢
      cases heq : host.listComments pr page perPage s with
      | mk answer s' =>
          rw [heq] at hnext hrefused
          simp only [heq] at h ⊢
          cases answer with
          | error e => exact hrefused rfl
          | ok comments =>
              by_cases hshort : comments.length < perPage
              · simp only [if_pos hshort] at h
                cases h
              · simp only [if_neg hshort] at h ⊢
                exact ih hnext h

/-- A scan of the comments that fails met a failure. -/
theorem existingSignatures_of_error {o : PostingOptions} {n : Nat} {s : σ} {e : ReviewError}
    (hfails : host.FailsAtMost pr n s) (h : (existingSignatures host o pr s).1 = .error e) :
    ∃ m, n = m + 1 ∧ host.FailsAtMost pr m (existingSignatures host o pr s).2 :=
  listPages_of_error hfails h

/-- On a host that does not fail a scan succeeds. -/
theorem exists_existingSignatures_eq_ok {o : PostingOptions} {s : σ}
    (hsteady : host.FailsAtMost pr 0 s) :
    ∃ known, (existingSignatures host o pr s).1 = .ok known := by
  cases hscan : (existingSignatures host o pr s).1 with
  | error e =>
      obtain ⟨m, hm, -⟩ := existingSignatures_of_error hsteady hscan
      omega
  | ok known => exact ⟨known, rfl⟩

/-- A scan makes no room for more failures. -/
theorem failsAtMost_existingSignatures (o : PostingOptions) {n : Nat} {s : σ}
    (hfails : host.FailsAtMost pr n s) :
    host.FailsAtMost pr n (existingSignatures host o pr s).2 :=
  listPages_invariant (fun page _ ht => ht.ask (.list page o.perPage)) _ _ _ hfails

/-- Recording a scan does not change it, and shows that it asks for no review. -/
theorem listPages_recorded (perPage count page : Nat) (known : List String) (s : σ)
    (log : List Exchange) :
    ∃ added, listPages host.recorded pr perPage count page known (s, log) =
        ((listPages host pr perPage count page known s).1,
          (listPages host pr perPage count page known s).2, log ++ added) ∧
      ∀ x ∈ added, x.drafts? = none := by
  induction count generalizing page known s log with
  | zero => exact ⟨[], by simp [listPages], by simp⟩
  | succ count ih =>
      cases heq : host.listComments pr page perPage s with
      | mk answer s' =>
          have hrecorded := Host.recorded_listComments log heq
          simp only [listPages, heq, hrecorded]
          cases answer with
          | error e => exact ⟨_, rfl, by simp [Exchange.drafts?]⟩
          | ok comments =>
              by_cases hshort : comments.length < perPage
              · simp only [if_pos hshort]
                exact ⟨_, rfl, by simp [Exchange.drafts?]⟩
              · simp only [if_neg hshort]
                obtain ⟨added, hrest, hadded⟩ := ih (page + 1) (addSignatures known comments) s'
                  (log ++ [⟨.list page perPage, true⟩])
                refine ⟨⟨.list page perPage, true⟩ :: added, ?_, ?_⟩
                · exact hrest.trans (by rw [List.append_assoc]; rfl)
                · intro x hx
                  rcases List.mem_cons.1 hx with rfl | hx
                  · rfl
                  · exact hadded x hx

variable (host pr) in
/-- Recording the scan does not change it, and shows that it asks for no review. -/
theorem existingSignatures_recorded (o : PostingOptions) (s : σ) (log : List Exchange) :
    ∃ added, existingSignatures host.recorded o pr (s, log) =
        ((existingSignatures host o pr s).1, (existingSignatures host o pr s).2, log ++ added) ∧
      ∀ x ∈ added, x.drafts? = none :=
  listPages_recorded o.perPage o.maxCommentPages 1 [] s log

end Posting

end PatchReview
