import PatchReview.Cli.Review
import PatchReview.Proofs.Assessment
import PatchReview.Proofs.Conversation

/-!
# The requests of a review

A review over a network asks for the pull request and the pages of its files, then, if
the rules found something, for the pages of the comments, and then for one review after
the other.  It stops at the first fault, with an error that says what was asked.

Main results:

- Definition `plan`: the questions of a review that meets no fault.
- Structure `KeepsTo`: a part of a review that keeps to a plan.
- Theorem `keepsTo_run`: every review keeps to such a plan.
- Theorem `requests_of_runReview`: what a review that is named by a text sends.
-/

namespace PatchReview.Http

/-- The questions of a review that meets no fault: the pull request, `k` pages of its
files, `m` pages of the comments on it, and a review for each batch. -/
def plan (k m : Nat) (batches : List (List Draft)) : List Question :=
  (.pull :: (List.range' 1 k).map .files)
    ++ ((List.range' 1 m).map .comments ++ batches.map .review)

/-- The error of a review whose last question has a fault, if `total` batches were to be
posted. -/
def errorAfter (pr : PullRequestRef) (total : Nat) (asked : List Question) (cause : HostError) :
    Option ReviewError :=
  asked.getLast?.map fun
    | .pull => .fetch pr cause
    | .files _ => .fetch pr cause
    | .comments page => .listComments pr page cause
    | .review _ =>
      .submitBatch pr (asked.filterMap Question.drafts?).length total
        (asked.dropLast.filterMap Question.drafts?).flatten.length cause

/-- A part of a review that keeps to a plan: it asks the planned questions in order, up to
the first fault, and fails with the error for that; without a fault it asks them all and
succeeds. -/
structure KeepsTo (c : Client) (pr : PullRequestRef) (perPage : Nat) (planned : List Question)
    (total : Nat) (l : Link) (result : Except ReviewError α × Link) (asked : List Question)
    (fault : Option HostError) : Prop where
  isPrefix : asked <+: planned
  conversation : Conversation c pr perPage l asked fault result.2
  failure_eq : failure? result.1 = fault.bind (errorAfter pr total asked)
  eq_of_answered : fault = none → asked = planned

variable {c : Client} {pr : PullRequestRef} {perPage total : Nat}

/-- Questions before that ask for no review do not change the error. -/
theorem errorAfter_append {first second : List Question} (hfirst : ∀ q ∈ first, q.drafts? = none)
    (hsecond : second ≠ []) (cause : HostError) :
    errorAfter pr total (first ++ second) cause = errorAfter pr total second cause := by
  have hnone : first.filterMap Question.drafts? = [] := List.filterMap_eq_nil_iff.2 hfirst
  rw [errorAfter, List.getLast?_append_of_ne_nil _ hsecond, List.dropLast_append_of_ne_nil hsecond,
    List.filterMap_append, List.filterMap_append, hnone, List.nil_append, List.nil_append]
  rfl

namespace KeepsTo

variable {planned asked : List Question} {fault : Option HostError} {l l₁ : Link}

/-- A part of a review that succeeds meets no fault. -/
theorem eq_none_of_ok {result : Except ReviewError α × Link} {a : α}
    (h : KeepsTo c pr perPage planned total l result asked fault) (hok : result.1 = .ok a) :
    fault = none := by
  have hfailure := h.failure_eq
  rw [hok] at hfailure
  cases hfault : fault with
  | none => rfl
  | some e =>
      subst hfault
      have hasked := h.conversation.ne_nil
      rw [Option.bind_some, errorAfter, List.getLast?_eq_some_getLast hasked] at hfailure
      cases hfailure

/-- Two parts of a review keep to the plan that is made up of both. -/
theorem append {result : Except ReviewError α × Link} {first : List Question}
    (hfirst : Conversation c pr perPage l first none l₁) (hnone : ∀ q ∈ first, q.drafts? = none)
    (h : KeepsTo c pr perPage planned total l₁ result asked fault) :
    KeepsTo c pr perPage (first ++ planned) total l result (first ++ asked) fault where
  isPrefix := (List.prefix_append_right_inj first).2 h.isPrefix
  conversation := hfirst.append h.conversation
  failure_eq := by
    rw [h.failure_eq]
    cases fault with
    | none => rfl
    | some e => exact (errorAfter_append hnone h.conversation.ne_nil e).symm
  eq_of_answered := by
    intro hanswered
    rw [h.eq_of_answered hanswered]

/-- A result that is worked on without a further question keeps to the same plan. -/
theorem map {result : Except ReviewError α × Link} {result' : Except ReviewError β × Link}
    (h : KeepsTo c pr perPage planned total l result asked fault)
    (hfailure : failure? result'.1 = failure? result.1) (hlink : result'.2 = result.2) :
    KeepsTo c pr perPage planned total l result' asked fault where
  isPrefix := h.isPrefix
  conversation := hlink ▸ h.conversation
  failure_eq := hfailure.trans h.failure_eq
  eq_of_answered := h.eq_of_answered

/-- A part of a review that asks nothing and succeeds keeps to the empty plan. -/
theorem nil (a : α) (l : Link) :
    KeepsTo c pr perPage [] total l (.ok a, l) [] none where
  isPrefix := List.prefix_refl []
  conversation := .nil l
  failure_eq := rfl
  eq_of_answered := fun _ => rfl

end KeepsTo

/-! ## Posting -/

variable (c pr perPage) in
/-- Listing the remaining pages of comments keeps to the plan to ask for them in order. -/
theorem keepsTo_listPages (count page : Nat) (known : List String) (l : Link) :
    ∃ m ≤ count, ∃ fault, KeepsTo c pr perPage ((List.range' page m).map .comments) total l
      (Posting.listPages c.host pr perPage count page known l)
      ((List.range' page m).map .comments) fault := by
  induction count generalizing page known l with
  | zero => exact ⟨0, Nat.le_refl 0, none, .nil known l⟩
  | succ count ih =>
      have hpage : Conversation c pr perPage l [.comments page]
          (failure? (c.host.listComments pr page perPage l).1)
          (c.host.listComments pr page perPage l).2 := Client.conversation_get rfl (fun _ => rfl) l
      simp only [Posting.listPages]
      cases hcomments : c.host.listComments pr page perPage l with
      | mk answer l₁ =>
          rw [hcomments] at hpage
          cases answer with
          | error e =>
              refine ⟨1, by omega, some e, ?_⟩
              exact {
                isPrefix := List.prefix_refl _
                conversation := hpage
                failure_eq := rfl
                eq_of_answered := fun _ => rfl }
          | ok comments =>
              by_cases hshort : comments.length < perPage
              · simp only [if_pos hshort]
                refine ⟨1, by omega, none, ?_⟩
                exact (KeepsTo.nil _ l₁).append hpage (by simp [Question.drafts?])
              · simp only [if_neg hshort]
                obtain ⟨m, hm, fault, hrest⟩ :=
                  ih (page + 1) (Posting.addSignatures known comments) l₁
                exact ⟨m + 1, by omega, fault, hrest.append hpage (by simp [Question.drafts?])⟩

variable (c pr perPage) in
/-- Batches are submitted in order up to the first fault, and the error counts them. -/
theorem conversation_submitBatches (total done : Nat) (o : Outcome) (batches : List (List Draft))
    (l : Link) :
    ∃ taken fault, taken <+: batches ∧
      Conversation c pr perPage l (taken.map .review) fault
        (Posting.submitBatches c.host pr total done o batches l).2 ∧
      failure? (Posting.submitBatches c.host pr total done o batches l).1 =
        fault.map (.submitBatch pr (done + taken.length) total
          (o.submitted + taken.dropLast.flatten.length)) ∧
      (fault = none → taken = batches) := by
  induction batches generalizing done o l with
  | nil => exact ⟨[], none, List.prefix_refl [], .nil l, rfl, fun _ => rfl⟩
  | cons batch batches ih =>
      have hbatch := Client.conversation_createReview c pr perPage batch l
      cases hreview : c.createReview pr batch l with
      | mk answer l₁ =>
          rw [hreview] at hbatch
          have hcreate : c.host.createReview pr batch l = (answer, l₁) := hreview
          cases answer with
          | error e =>
              rw [Posting.submitBatches_cons_of_error hcreate]
              exact ⟨[batch], some e, by simp, hbatch, rfl, nofun⟩
          | ok _ =>
              rw [Posting.submitBatches_cons_of_ok hcreate]
              obtain ⟨taken, fault, hprefix, hrest, hfailure, hall⟩ := ih (done + 1)
                { o with submitted := o.submitted + batch.length, batches := o.batches + 1 } l₁
              refine ⟨batch :: taken, fault, (List.prefix_cons_inj batch).2 hprefix,
                hbatch.append hrest, ?_, fun hnone => by rw [hall hnone]⟩
              rw [hfailure]
              cases fault with
              | none => rfl
              | some e =>
                  have htaken : taken ≠ [] := by
                    simpa using hrest.ne_nil
                  simp only [Option.map_some, List.length_cons, List.dropLast_cons_of_ne_nil htaken,
                    List.flatten_cons, List.length_append]
                  rw [Nat.add_assoc done, Nat.add_comm 1, Nat.add_assoc o.submitted]

variable (c pr perPage) in
/-- Submitting batches keeps to the plan to ask for a review for each. -/
theorem keepsTo_submitBatches {o : Outcome} (hzero : o.submitted = 0)
    (batches : List (List Draft)) (l : Link) :
    ∃ asked fault, KeepsTo c pr perPage (batches.map .review) batches.length l
      (Posting.submitBatches c.host pr batches.length 0 o batches l) asked fault := by
  obtain ⟨taken, fault, hprefix, hconversation, hfailure, hall⟩ :=
    conversation_submitBatches c pr perPage batches.length 0 o batches l
  have hdrafts : ∀ batches : List (List Draft),
      (batches.map Question.review).filterMap Question.drafts? = batches := by
    intro batches
    rw [List.filterMap_map]
    exact List.filterMap_some
  refine ⟨taken.map .review, fault, ?_⟩
  exact {
    isPrefix := hprefix.map _
    conversation := hconversation
    failure_eq := by
      rw [hfailure, hzero]
      cases fault with
      | none => rfl
      | some e =>
          have htaken : taken ≠ [] := by
            simpa using hconversation.ne_nil
          rw [Option.map_some, Option.bind_some, errorAfter, ← List.map_dropLast, hdrafts, hdrafts,
            List.getLast?_map, List.getLast?_eq_some_getLast htaken, Nat.zero_add, Nat.zero_add]
          rfl
    eq_of_answered := fun hnone => by rw [hall hnone] }

variable (c pr) in
/-- A posting with credentials keeps to a plan of pages of comments and of reviews; a dry
one plans no review, and one without findings nothing at all. -/
theorem keepsTo_post (o : PostingOptions) (findings : List Finding) {dryRun : Bool}
    (hauth : dryRun = true ∨ c.isAuthenticated = true) (l : Link) :
    ∃ m batches asked fault, m ≤ o.maxCommentPages ∧ (dryRun = true → batches = []) ∧
      (findings = [] → m = 0 ∧ batches = []) ∧
      KeepsTo c pr o.perPage ((List.range' 1 m).map .comments ++ batches.map .review)
        batches.length l (Posting.post c.host o pr findings dryRun l) asked fault := by
  by_cases hne : findings = []
  · subst hne
    exact ⟨0, [], [], none, Nat.zero_le _, fun _ => rfl, fun _ => ⟨rfl, rfl⟩, .nil _ l⟩
  have hscan : ∃ m ≤ o.maxCommentPages, ∃ fault,
      KeepsTo c pr o.perPage ((List.range' 1 m).map .comments) 0 l
        (Posting.existingSignatures c.host o pr l) ((List.range' 1 m).map .comments) fault :=
    keepsTo_listPages c pr o.perPage o.maxCommentPages 1 [] l
  obtain ⟨m, hm, fault, h⟩ := hscan
  cases hanswer : Posting.existingSignatures c.host o pr l with
  | mk answer l₁ =>
      rw [hanswer] at h
      cases answer with
      | error e =>
          rw [Posting.post_of_scan_error hne hauth hanswer]
          refine ⟨m, [], (List.range' 1 m).map .comments, fault, hm, fun _ => rfl,
            fun hnil => absurd hnil hne, ?_⟩
          rw [List.map_nil, List.append_nil]
          exact h.map rfl rfl
      | ok known =>
          have hcomments : ∀ q ∈ (List.range' 1 m).map Question.comments, q.drafts? = none :=
            List.forall_mem_map.2 fun _ _ => rfl
          have hconversation := h.conversation
          rw [h.eq_none_of_ok rfl] at hconversation
          rw [Posting.post_of_scan_ok hne hauth hanswer]
          by_cases hidle : dryRun = true ∨ Posting.newFindings known findings = []
          · rw [Posting.postNew_of_idle hidle]
            refine ⟨m, [], (List.range' 1 m).map .comments ++ [], none, hm, fun _ => rfl,
              fun hnil => absurd hnil hne, ?_⟩
            exact (KeepsTo.nil _ l₁).append hconversation hcomments
          · rw [not_or, Bool.not_eq_true] at hidle
            obtain ⟨rfl, hnew⟩ := hidle
            rw [Posting.postNew_of_ne_nil hnew]
            have hzero : (Posting.counted known findings false).submitted = 0 := rfl
            obtain ⟨asked, fault, hsubmitted⟩ := keepsTo_submitBatches c pr o.perPage hzero
              (Posting.newBatches o known findings) l₁
            exact ⟨m, _, (List.range' 1 m).map .comments ++ asked, fault, hm, nofun,
              fun hnil => absurd hnil hne, hsubmitted.append hconversation hcomments⟩

/-! ## The review -/

/-- A fault while a pull request is fetched is reported as such. -/
theorem errorAfter_fetch (k : Nat) (cause : HostError) :
    errorAfter pr total (.pull :: (List.range' 1 k).map .files) cause =
      some (.fetch pr cause) := by
  cases k with
  | zero => rfl
  | succ k =>
      rw [List.range'_concat, List.map_append, ← List.cons_append, errorAfter,
        List.map_cons, List.map_nil, List.getLast?_concat]
      rfl

variable (c pr) in
/-- A review with credentials keeps to its plan; there is something to ask after the pull
request is fetched only if the rules found something in it. -/
theorem keepsTo_run (o : PostingOptions) (store : Store) {dryRun : Bool}
    (hauth : dryRun = true ∨ c.isAuthenticated = true) (l : Link) :
    ∃ k m batches asked fault, k ≤ Client.maxFilePages ∧ m ≤ o.maxCommentPages ∧
      (dryRun = true → batches = []) ∧
      (m ≠ 0 ∨ batches ≠ [] → ∃ pull l₁, c.fetch pr l = (.ok pull, l₁) ∧
        (Review.assess store pull.files).value.findings ≠ []) ∧
      KeepsTo c pr o.perPage (plan k m batches) batches.length l
        (Review.run c.host o store pr dryRun l).value asked fault := by
  obtain ⟨k, hk, hfetch⟩ := Client.conversation_fetch c pr o.perPage l
  have hquestions : ∀ q ∈ Question.pull :: (List.range' 1 k).map Question.files,
      q.drafts? = none :=
    List.forall_mem_cons.2 ⟨rfl, List.forall_mem_map.2 fun _ _ => rfl⟩
  cases hanswer : c.fetch pr l with
  | mk answer l₁ =>
      rw [hanswer] at hfetch
      have hhost : c.host.fetch pr l = (answer, l₁) := hanswer
      cases answer with
      | error e =>
          rw [Review.run_of_fetch_error hauth hhost]
          refine ⟨k, 0, [], .pull :: (List.range' 1 k).map .files, some e, hk, Nat.zero_le _,
            fun _ => rfl, by simp, ?_⟩
          exact {
            isPrefix := List.prefix_append _ _
            conversation := hfetch
            failure_eq := by
              rw [Option.bind_some, errorAfter_fetch]
              rfl
            eq_of_answered := nofun }
      | ok pull =>
          obtain ⟨m, batches, asked, fault, hm, hdry, hnothing, hposted⟩ :=
            keepsTo_post c pr o (Review.assess store pull.files).value.findings hauth l₁
          rw [Review.value_run_of_fetch_ok hauth hhost]
          refine ⟨k, m, batches, (.pull :: (List.range' 1 k).map .files) ++ asked, fault, hk, hm,
            hdry, ?_, ?_⟩
          · intro hasked
            refine ⟨pull, l₁, rfl, ?_⟩
            intro hnil
            obtain ⟨rfl, rfl⟩ := hnothing hnil
            simp at hasked
          · refine (hposted.append hfetch hquestions).map ?_ ?_ <;>
              cases Posting.post c.host o pr (Review.assess store pull.files).value.findings dryRun
                l₁ with
              | mk answer l₂ => cases answer <;> rfl

end PatchReview.Http

namespace PatchReview.Cli

open Config (Settings)
open Http

/-- A review is orderly if it sends the requests for the questions of a plan, in order, up
to the first fault, and reports that fault. -/
structure Orderly (s : Settings) (store : Store) (pr : PullRequestRef) (l : Link)
    (result : Except RunError Report × Link) (k m : Nat) (batches : List (List Draft))
    (asked : List Question) (fault : Option HostError) : Prop where
  /-- At most thirty pages of files are asked for. -/
  files_le : k ≤ 30
  /-- At most as many pages of comments are asked for as the settings allow. -/
  comments_le : m ≤ s.posting.maxCommentPages
  /-- Comments are listed and posted only if the rules found something. -/
  found : m ≠ 0 ∨ batches ≠ [] → ∃ pull l₁, (clientOf s).fetch pr l = (.ok pull, l₁) ∧
    (Review.assess store pull.files).value.findings ≠ []
  /-- The questions are asked in the order of the plan. -/
  isPrefix : asked <+: plan k m batches
  /-- Every answer is followed by the next question, and the first fault by none. -/
  conversation : Conversation (clientOf s) pr s.posting.raised.perPage l asked fault result.2
  /-- What is sent are the requests for the questions, and nothing else. -/
  sent_eq : result.2.sent =
    l.sent ++ (clientOf s).requestsFor pr s.posting.raised.perPage l asked
  /-- A dry run posts nothing. -/
  get_of_dryRun : s.dryRun = true →
    ∀ r ∈ (clientOf s).requestsFor pr s.posting.raised.perPage l asked, r.method = .get
  /-- A fault is reported with the question that it is about. -/
  answer_of_fault : ∀ e, fault = some e → ∃ err,
    errorAfter pr batches.length asked e = some err ∧ result.1 = .error (.review err)
  /-- Without a fault the whole plan is asked, and there is a report. -/
  answer_of_answered : fault = none → asked = plan k m batches ∧ ∃ report, result.1 = .ok report

variable {s : Settings} {pr : PullRequestRef} {text : String}

/-- The client has a token unless it is missing or blank. -/
theorem isAuthenticated_clientOf (s : Settings) :
    (clientOf s).isAuthenticated = true ↔
      ∃ token ∈ s.host.token, Text.trim token.toList ≠ [] := by
  rw [clientOf, Client.new, Client.isAuthenticated, Option.isSome_iff_exists]
  simp

/-- A plan without reviews asks for none. -/
theorem drafts?_eq_none_of_mem_plan {k m : Nat} {q : Question} (h : q ∈ plan k m []) :
    q.drafts? = none := by
  rw [plan, List.map_nil, List.append_nil, List.mem_append] at h
  rcases h with h | h
  · rcases List.mem_cons.1 h with rfl | h
    · rfl
    · obtain ⟨page, -, rfl⟩ := List.mem_map.1 h
      rfl
  · obtain ⟨page, -, rfl⟩ := List.mem_map.1 h
    rfl

/-- A text that names no pull request is an error. -/
theorem runReview_of_eq_none (root : Files.Node) (l : Link)
    (hnone : PullRequestRef.ofText? text s.host.defaultOwner s.host.defaultRepo = none) :
    runReview root s text l = pure (.error (.reference text), l) := by
  delta runReview
  rw [hnone]

/-- A review of a pull request that a text names ends as the review ends. -/
theorem value_runReview (root : Files.Node) (l : Link)
    (hpr : PullRequestRef.ofText? text s.host.defaultOwner s.host.defaultRepo = some pr) :
    (runReview root s text l).value =
      ((Review.run (clientOf s).host s.posting.raised (loadRules root s).value pr s.dryRun
          l).value.1.mapError .review,
        (Review.run (clientOf s).host s.posting.raised (loadRules root s).value pr s.dryRun
          l).value.2) := by
  delta runReview
  rw [hpr]
  rfl

/-- A review with credentials, or a dry one, is orderly. -/
theorem orderly_runReview (root : Files.Node) (l : Link)
    (hpr : PullRequestRef.ofText? text s.host.defaultOwner s.host.defaultRepo = some pr)
    (hauth : s.dryRun = true ∨ (clientOf s).isAuthenticated = true) :
    ∃ k m batches asked fault, Orderly s (loadRules root s).value pr l
      (runReview root s text l).value k m batches asked fault := by
  obtain ⟨k, m, batches, asked, fault, hk, hm, hdry, hfound, h⟩ :=
    keepsTo_run (clientOf s) pr s.posting.raised (loadRules root s).value hauth l
  have hfailure := h.failure_eq
  rw [value_runReview root l hpr]
  refine ⟨k, m, batches, asked, fault, ?_⟩
  exact {
    files_le := hk
    comments_le := hm
    found := hfound
    isPrefix := h.isPrefix
    conversation := h.conversation
    sent_eq := h.conversation.sent_eq
    get_of_dryRun := by
      intro hdryRun r hr
      refine Client.method_of_mem_requestsFor ?_ hr
      intro q hq
      have hplanned := h.isPrefix.subset hq
      rw [hdry hdryRun] at hplanned
      exact drafts?_eq_none_of_mem_plan hplanned
    answer_of_fault := by
      rintro e rfl
      cases hanswer : (Review.run (clientOf s).host s.posting.raised (loadRules root s).value pr
          s.dryRun l).value.1 with
      | error err =>
          rw [hanswer] at hfailure
          exact ⟨err, hfailure.symm, rfl⟩
      | ok report =>
          cases h.eq_none_of_ok hanswer
    answer_of_answered := by
      rintro rfl
      refine ⟨h.eq_of_answered rfl, ?_⟩
      cases hanswer : (Review.run (clientOf s).host s.posting.raised (loadRules root s).value pr
          s.dryRun l).value.1 with
      | error err =>
          rw [hanswer] at hfailure
          cases hfailure
      | ok report => exact ⟨report, rfl⟩ }

/-- A review sends nothing if the text names no pull request, or if it is live and the token
is missing or blank.  Otherwise it is orderly. -/
theorem requests_of_runReview (root : Files.Node) (s : Settings) (text : String) (l : Link) :
    (PullRequestRef.ofText? text s.host.defaultOwner s.host.defaultRepo = none →
      (runReview root s text l).value = (.error (.reference text), l)) ∧
    ∀ pr, PullRequestRef.ofText? text s.host.defaultOwner s.host.defaultRepo = some pr →
      (s.dryRun = false → (∀ token ∈ s.host.token, Text.trim token.toList = []) →
        (runReview root s text l).value = (.error (.review (.missingCredentials pr)), l)) ∧
      (s.dryRun = true ∨ (∃ token ∈ s.host.token, Text.trim token.toList ≠ []) →
        ∃ k m batches asked fault, Orderly s (loadRules root s).value pr l
          (runReview root s text l).value k m batches asked fault) := by
  refine ⟨?_, ?_⟩
  · intro hnone
    rw [runReview_of_eq_none root l hnone]
    rfl
  intro pr hpr
  refine ⟨?_, ?_⟩
  · intro hlive hblank
    have hauth : (clientOf s).host.isAuthenticated l = false := by
      by_contra hauth
      rw [Bool.not_eq_false] at hauth
      obtain ⟨token, htoken, hne⟩ := (isAuthenticated_clientOf s).1 hauth
      exact hne (hblank token htoken)
    rw [value_runReview root l hpr, hlive, Review.run_of_not_isAuthenticated hauth]
    rfl
  · intro hauth
    rw [← isAuthenticated_clientOf] at hauth
    exact orderly_runReview root l hpr hauth

/-- A live review with a token whose connection breaks at the second request. -/
theorem requests_of_runReview_dropped :
    let s : Settings := { dryRun := false, host := { token := some "secret" } }
    let pr : PullRequestRef := ⟨"acme", "widgets", 7⟩
    let l : Link :=
      { replies := [some ⟨200, "[7, \"Parser\", null, \"open\"]"⟩, none, some .exhausted] }
    PullRequestRef.ofText? "acme/widgets#7" s.host.defaultOwner s.host.defaultRepo = some pr ∧
      Text.trim "secret".toList ≠ [] ∧
      ∃ k m batches asked fault, Orderly s (loadRules .empty s).value pr l
        (runReview .empty s "acme/widgets#7" l).value k m batches asked fault := by
  intro s pr l
  have hpr : PullRequestRef.ofText? "acme/widgets#7" s.host.defaultOwner s.host.defaultRepo =
      some pr := by decide
  have htoken : Text.trim "secret".toList ≠ [] := by decide
  exact ⟨hpr, htoken, ((requests_of_runReview .empty s "acme/widgets#7" l).2 pr hpr).2
    (Or.inr ⟨"secret", rfl, htoken⟩)⟩

end PatchReview.Cli
