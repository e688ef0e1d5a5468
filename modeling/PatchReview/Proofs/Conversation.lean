import PatchReview.Http.Client

/-!
# Conversations with the code host

A client asks the code host questions about a pull request.  A question is sent as one
request; what comes back answers it, or is a fault.  In a conversation questions are
asked one after the other as long as they are answered, and the first fault ends it.

Main results:

- Definition `Conversation`: what a conversation is.
- Theorem `Conversation.sent_eq`: the requests that it sends are those for its
  questions, in order.
- Theorem `Client.conversation_fetch`: fetching a pull request asks for it and then for
  the pages of its files.
-/

namespace PatchReview

/-- Why there is no result, if there is none. -/
def failure? : Except ε α → Option ε
  | .ok _ => none
  | .error e => some e

namespace Http

/-! ## Questions -/

/-- A question to the code host about a pull request. -/
inductive Question where
  /-- The pull request itself. -/
  | pull
  /-- A page of its changed files. -/
  | files (page : Nat)
  /-- A page of the comments on it. -/
  | comments (page : Nat)
  /-- A review with some comments. -/
  | review (drafts : List Draft)
  deriving DecidableEq, Repr

namespace Question

/-- The drafts of a review, if the question is one. -/
def drafts? : Question → Option (List Draft)
  | .review drafts => some drafts
  | _ => none

/-- Whether the content of an answer can be read.  That of an accepted review is not
looked at. -/
def isReadable : Question → String → Bool
  | .pull, content => ((Json.ofText? content).bind PullRequestHead.ofJson?).isSome
  | .files _, content => ((Json.ofText? content).bind (Json.list? ChangedFile.ofJson?)).isSome
  | .comments _, content => ((Json.ofText? content).bind (Json.list? ReviewComment.ofJson?)).isSome
  | .review _, _ => true

/-- What is wrong with what came back to a question: nothing came back, the request was
refused, or the answer cannot be read. -/
def fault? (q : Question) : Option Response → Option HostError
  | none => some .network
  | some r =>
    if !r.isSuccess then some (Client.refusal r)
    else if q.isReadable r.content then none
    else some .network

end Question

namespace Client

variable (c : Client) (pr : PullRequestRef) (perPage : Nat)

/-- The request for a question, unless it cannot be sent; comments are listed with
`perPage` of them on a page. -/
def requestFor? : Question → Option Request
  | .pull => c.request? .get (c.pullUrl pr) none
  | .files page => c.request? .get (c.pageUrl pr "files" page filesPerPage) none
  | .comments page => c.request? .get (c.pageUrl pr "comments" page perPage) none
  | .review drafts => c.request? .post (c.pullUrl pr ++ "/reviews") (some (reviewBody drafts))

/-- Ask a question: send its request.  Nothing comes back if it cannot be sent. -/
def ask (q : Question) (l : Link) : Option Response × Link :=
  match c.requestFor? pr perPage q with
  | none => (none, l)
  | some request => l.send request

/-- The requests that are sent for some questions; none if the server cannot be reached. -/
def requestsFor (l : Link) (asked : List Question) : List Request :=
  if l.reachable then asked.filterMap (c.requestFor? pr perPage) else []

end Client

/-! ## Conversations -/

/-- Questions that are asked one after the other: an answer is followed by the next
question, and a fault ends the conversation. -/
inductive Conversation (c : Client) (pr : PullRequestRef) (perPage : Nat) :
    Link → List Question → Option HostError → Link → Prop where
  | nil (l : Link) : Conversation c pr perPage l [] none l
  | stop {q : Question} {reply : Option Response} {e : HostError} {l l' : Link}
      (hask : c.ask pr perPage q l = (reply, l')) (hfault : q.fault? reply = some e) :
      Conversation c pr perPage l [q] (some e) l'
  | next {q : Question} {reply : Option Response} {rest : List Question}
      {fault : Option HostError} {l l₁ l' : Link}
      (hask : c.ask pr perPage q l = (reply, l₁)) (hanswer : q.fault? reply = none)
      (hrest : Conversation c pr perPage l₁ rest fault l') :
      Conversation c pr perPage l (q :: rest) fault l'

variable {c : Client} {pr : PullRequestRef} {perPage : Nat}

/-- The methods of the requests: only a review is posted. -/
theorem Client.method_requestFor? {q : Question} {request : Request}
    (h : c.requestFor? pr perPage q = some request) :
    request.method = if q.drafts?.isSome then .post else .get := by
  cases q <;> simp only [Client.requestFor?, Client.request?] at h <;> split at h <;>
    simp only [Option.map_eq_some_iff, reduceCtorEq] at h <;> obtain ⟨target, -, rfl⟩ := h <;> rfl

/-- Questions that ask for no review are sent with the method that only reads. -/
theorem Client.method_of_mem_requestsFor {asked : List Question} {l : Link} {r : Request}
    (hnone : ∀ q ∈ asked, q.drafts? = none) (hr : r ∈ c.requestsFor pr perPage l asked) :
    r.method = .get := by
  unfold Client.requestsFor at hr
  split at hr
  · obtain ⟨q, hq, hrequest⟩ := List.mem_filterMap.1 hr
    rw [Client.method_requestFor? hrequest, hnone q hq]
    rfl
  · cases hr

variable (c pr perPage) in
/-- One question is sent as one request, if at all. -/
theorem Client.sent_ask (q : Question) (l : Link) :
    (c.ask pr perPage q l).2.sent =
      l.sent ++ if l.reachable then (c.requestFor? pr perPage q).toList else [] := by
  unfold Client.ask
  cases c.requestFor? pr perPage q with
  | none => simp
  | some request =>
      rw [Link.sent_send]
      cases l.reachable <;> simp

variable (c pr perPage) in
/-- A question does not change whether the server can be reached. -/
theorem Client.reachable_ask (q : Question) (l : Link) :
    (c.ask pr perPage q l).2.reachable = l.reachable := by
  unfold Client.ask
  cases c.requestFor? pr perPage q with
  | none => rfl
  | some request => exact Link.reachable_send request l

namespace Conversation

variable (c pr perPage) in
/-- One question is a conversation. -/
theorem single (q : Question) (l : Link) :
    Conversation c pr perPage l [q] (q.fault? (c.ask pr perPage q l).1)
      (c.ask pr perPage q l).2 := by
  cases h : q.fault? (c.ask pr perPage q l).1 with
  | none => exact next rfl h (nil _)
  | some e => exact stop rfl h

/-- A conversation without a fault can go on. -/
theorem append {first second : List Question} {fault : Option HostError} {l l₁ l' : Link}
    (h : Conversation c pr perPage l first none l₁)
    (h' : Conversation c pr perPage l₁ second fault l') :
    Conversation c pr perPage l (first ++ second) fault l' := by
  generalize hnone : (none : Option HostError) = answered at h
  induction h with
  | nil l => exact h'
  | stop hask hfault => cases hnone
  | next hask hanswer hrest ih => exact next hask hanswer (ih h' hnone)

/-- A fault is one of the last question. -/
theorem ne_nil {asked : List Question} {e : HostError} {l l' : Link}
    (h : Conversation c pr perPage l asked (some e) l') : asked ≠ [] := by
  intro hnil
  subst hnil
  cases h

/-- The requests that a conversation sends are those for its questions, in order. -/
theorem sent_eq {asked : List Question} {fault : Option HostError} {l l' : Link}
    (h : Conversation c pr perPage l asked fault l') :
    l'.sent = l.sent ++ c.requestsFor pr perPage l asked := by
  unfold Client.requestsFor
  induction h with
  | nil l => simp
  | @stop q reply e l l' hask hfault =>
      have hsent := c.sent_ask pr perPage q l
      rw [hask] at hsent
      rw [hsent, List.filterMap_cons]
      cases c.requestFor? pr perPage q <;> simp
  | @next q reply rest fault l l₁ l' hask hanswer hrest ih =>
      have hsent := c.sent_ask pr perPage q l
      have hreachable := c.reachable_ask pr perPage q l
      rw [hask] at hsent hreachable
      rw [ih, hsent, hreachable, List.append_assoc, List.filterMap_cons]
      cases l.reachable <;> cases c.requestFor? pr perPage q <;> simp

end Conversation

/-! ## The questions of the client -/

namespace Client

/-- What comes back to a question decides what is made of it. -/
theorem exchange_eq {q : Question} {method : Method} {url : String} {body : Option Json}
    (hrequest : c.requestFor? pr perPage q = c.request? method url body) (l : Link) :
    c.exchange method url body l =
      (match (c.ask pr perPage q l).1 with
        | none => .error .network
        | some r => if r.isSuccess then .ok r.content else .error (refusal r),
        (c.ask pr perPage q l).2) := by
  unfold exchange ask
  rw [hrequest]
  cases c.request? method url body with
  | none => rfl
  | some request =>
      dsimp only
      cases l.send request with
      | mk reply l' =>
          cases reply with
          | none => rfl
          | some r =>
              dsimp only
              split <;> rfl

/-- Reading the answer to a question is a conversation of one turn. -/
theorem conversation_get {q : Question} {decode : Json → Option α} {url : String}
    (hrequest : c.requestFor? pr perPage q = c.request? .get url none)
    (hread : ∀ content, q.isReadable content = ((Json.ofText? content).bind decode).isSome)
    (l : Link) :
    Conversation c pr perPage l [q] (failure? (c.get decode url l).1) (c.get decode url l).2 := by
  have hturn := Conversation.single c pr perPage q l
  have hexchange := exchange_eq hrequest l
  have hget : failure? (c.get decode url l).1 = q.fault? (c.ask pr perPage q l).1 ∧
      (c.get decode url l).2 = (c.ask pr perPage q l).2 := by
    unfold get
    rw [hexchange]
    cases c.ask pr perPage q l with
    | mk reply l' =>
        cases reply with
        | none => exact ⟨rfl, rfl⟩
        | some r =>
            by_cases hsuccess : r.isSuccess = true
            · have hreadable := hread r.content
              cases hvalue : (Json.ofText? r.content).bind decode with
              | none =>
                  rw [hvalue] at hreadable
                  simp [Question.fault?, failure?, hsuccess, hreadable, hvalue]
              | some a =>
                  rw [hvalue] at hreadable
                  simp [Question.fault?, failure?, hsuccess, hreadable, hvalue]
            · simp [Question.fault?, failure?, hsuccess]
  rw [hget.1, hget.2]
  exact hturn

variable (c pr perPage) in
/-- Asking for a review is a conversation of one turn. -/
theorem conversation_createReview (drafts : List Draft) (l : Link) :
    Conversation c pr perPage l [.review drafts] (failure? (c.createReview pr drafts l).1)
      (c.createReview pr drafts l).2 := by
  have hturn := Conversation.single c pr perPage (.review drafts) l
  have hrequest : c.requestFor? pr perPage (.review drafts) =
      c.request? .post (c.pullUrl pr ++ "/reviews") (some (reviewBody drafts)) := rfl
  have hexchange := exchange_eq hrequest l
  have hcreate : failure? (c.createReview pr drafts l).1 =
        (Question.review drafts).fault? (c.ask pr perPage (.review drafts) l).1 ∧
      (c.createReview pr drafts l).2 = (c.ask pr perPage (.review drafts) l).2 := by
    unfold createReview
    rw [hexchange]
    cases c.ask pr perPage (.review drafts) l with
    | mk reply l' =>
        cases reply with
        | none => exact ⟨rfl, rfl⟩
        | some r =>
            by_cases hsuccess : r.isSuccess = true <;>
              simp [Question.fault?, Question.isReadable, failure?, hsuccess]
  rw [hcreate.1, hcreate.2]
  exact hturn

variable (c pr perPage) in
/-- Listing the remaining pages of files asks for them in order. -/
theorem conversation_listPages (count page : Nat) (l : Link) :
    ∃ k ≤ count, Conversation c pr perPage l ((List.range' page k).map .files)
      (failure? (c.listPages pr count page l).1) (c.listPages pr count page l).2 := by
  induction count generalizing page l with
  | zero => exact ⟨0, Nat.le_refl 0, .nil l⟩
  | succ count ih =>
      have hpage : Conversation c pr perPage l [.files page]
          (failure? (c.listFiles pr page filesPerPage l).1)
          (c.listFiles pr page filesPerPage l).2 := conversation_get rfl (fun _ => rfl) l
      simp only [listPages]
      cases hfiles : c.listFiles pr page filesPerPage l with
      | mk answer l₁ =>
          rw [hfiles] at hpage
          cases answer with
          | error e => exact ⟨1, by omega, hpage⟩
          | ok files =>
              by_cases hshort : files.length < filesPerPage
              · simp only [if_pos hshort]
                exact ⟨1, by omega, hpage⟩
              · simp only [if_neg hshort]
                obtain ⟨k, hk, hrest⟩ := ih (page + 1) l₁
                refine ⟨k + 1, by omega, ?_⟩
                cases hmore : c.listPages pr count (page + 1) l₁ with
                | mk answer l₂ =>
                    rw [hmore] at hrest
                    cases answer with
                    | error e => exact hpage.append hrest
                    | ok more => exact hpage.append hrest

variable (c pr perPage) in
/-- Fetching a pull request asks for it, and then for the pages of its files. -/
theorem conversation_fetch (l : Link) :
    ∃ k ≤ maxFilePages, Conversation c pr perPage l (.pull :: (List.range' 1 k).map .files)
      (failure? (c.fetch pr l).1) (c.fetch pr l).2 := by
  have hhead : Conversation c pr perPage l [.pull] (failure? (c.pullRequest pr l).1)
      (c.pullRequest pr l).2 := conversation_get rfl (fun _ => rfl) l
  unfold fetch
  cases hpull : c.pullRequest pr l with
  | mk answer l₁ =>
      rw [hpull] at hhead
      cases answer with
      | error e => exact ⟨0, Nat.zero_le _, hhead⟩
      | ok head =>
          obtain ⟨k, hk, hpages⟩ := conversation_listPages c pr perPage maxFilePages 1 l₁
          refine ⟨k, hk, ?_⟩
          dsimp only
          cases hfiles : c.listPages pr maxFilePages 1 l₁ with
          | mk answer l₂ =>
              rw [hfiles] at hpages
              cases answer with
              | error e => exact hhead.append hpages
              | ok files => exact hhead.append hpages

end Client

end Http

end PatchReview
