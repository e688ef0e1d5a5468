import PatchReview.Proofs.Conversation
import PatchReview.Proofs.ReferenceSpellings
import PatchReview.Proofs.TargetPaths

/-!
# Requests address the pull request that they name

Each request of a client is about one pull request, and the names of its repository stand in
the path of the target.  The target has these names, and it tells the pull request from every
other, unless a name is followed as in a directory.

Main definitions:

- `BaseAddress`: addresses of an interface, with a plain path or none.
- `Call`: the calls of a client, with the requests that they send.
- `Addresses`: targets with the names of a repository in their path.

Main results:

- Theorem `BaseAddress.exists_target?_pull`: the target of an address below that of a pull
  request.
- Theorem `BaseAddress.not_hasDots_of_path_eq`: a path with all names is that of a pull request
  whose names are not followed.
- Theorem `BaseAddress.eq_of_path_eq`: it is that of no other pull request.
- Theorem `BaseAddress.exists_target?_page`: the target of a page of a list has the list, the
  length of a page and the number of the page.
- Theorem `Call.sent_after`: the requests of a call ask for parts of one pull request.
- Theorem `Call.targets_fetch`: the targets of all requests that fetch a pull request.
- Theorem `Call.requests_address_iff`: when the requests of a call have the names of the
  repository in their path, and which pull requests share no target with others.
-/

namespace PatchReview

/-- A name of the repository is followed as in a directory. -/
def PullRequestRef.HasDots (pr : PullRequestRef) : Prop :=
  (pr.owner = "." ∨ pr.owner = "..") ∨ pr.repo = "." ∨ pr.repo = ".."

instance (pr : PullRequestRef) : Decidable pr.HasDots :=
  inferInstanceAs (Decidable (_ ∨ _))

namespace Http

open Text

/-! ## Parts of a pull request -/

/-- The parts of a pull request that a client asks for: what stands behind its address. -/
def allParts : List (List (List Char)) :=
  [[], ["files".toList], ["comments".toList], ["reviews".toList]]

/-- The words that name parts are plain segments. -/
theorem isPlainSegment_of_mem_allParts {part : List (List Char)} (h : part ∈ allParts) :
    ∀ segment ∈ part, IsPlainSegment segment := by
  have hall : ∀ part ∈ allParts, ∀ segment ∈ part, IsPlainSegment segment := by decide
  exact hall part h

/-- A part is the pull request itself or is named by a word. -/
theorem part_cases {part : List (List Char)} (h : part ∈ allParts) :
    part = [] ∨ ∃ word, part = [word] ∧ 's' ∈ word := by
  simp only [allParts, List.mem_cons, List.not_mem_nil, or_false] at h
  rcases h with rfl | rfl | rfl | rfl
  · exact .inl rfl
  · exact .inr ⟨_, rfl, by decide⟩
  · exact .inr ⟨_, rfl, by decide⟩
  · exact .inr ⟨_, rfl, by decide⟩

/-! ## Addresses of an interface -/

/-- An address of an interface: a scheme, a server, plain segments, and slashes at its end. -/
structure BaseAddress where
  /-- Whether the connection is encrypted. -/
  secure : Bool
  /-- The name of the server. -/
  server : List Char
  /-- The segments of the path. -/
  segments : List (List Char)
  /-- The number of slashes at the end. -/
  slashes : Nat
  isServer : IsServer server
  plain : ∀ segment ∈ segments, IsPlainSegment segment
  last_ne : ∀ segment ∈ segments.getLast?, segment ≠ []

namespace BaseAddress

variable (base : BaseAddress)

/-- The scheme of an address. -/
def scheme : List Char :=
  if base.secure then "https://".toList else "http://".toList

/-- An address without the slashes at its end. -/
def text : List Char :=
  base.scheme ++ (base.server ++ pathText base.segments)

/-- An address as it is given to a client. -/
def url : String :=
  String.ofList (base.text ++ List.replicate base.slashes '/')

/-- What follows the scheme of an address. -/
theorem afterScheme_append (rest : List Char) : afterScheme (base.scheme ++ rest) = some rest := by
  rw [Client.afterScheme_eq_some_iff, scheme]
  by_cases hsecure : base.secure = true
  · rw [if_pos hsecure]
    exact .inr rfl
  · rw [if_neg hsecure]
    exact .inl rfl

/-- Without the slashes at its end, an address does not end in a slash. -/
theorem ne_of_mem_getLast?_text : ∀ c ∈ base.text.getLast?, c ≠ '/' := by
  intro c hc
  rw [text, ← List.append_assoc] at hc
  cases hlast : base.segments.getLast? with
  | none =>
      rw [List.getLast?_eq_none_iff.1 hlast, pathText, List.flatMap_nil, List.append_nil,
        List.getLast?_append_of_ne_nil _ base.isServer.ne_nil] at hc
      have hend := (base.isServer.chars c (List.mem_of_getLast? hc)).1
      rintro rfl
      cases hend
  | some segment =>
      rcases List.getLast?_eq_some_iff.1 hlast with ⟨front, hsegments⟩
      have hpath : pathText base.segments = pathText front ++ ['/'] ++ segment := by
        rw [hsegments, pathText_append]
        simp [pathText]
      rw [hpath, ← List.append_assoc,
        List.getLast?_append_of_ne_nil _ (base.last_ne segment hlast)] at hc
      have hmem : segment ∈ base.segments := List.mem_of_getLast? hlast
      exact ((base.plain segment hmem).chars c (List.mem_of_getLast? hc)).1

/-- A client takes the slashes off the end of an address. -/
theorem apiUrl_new (token : Option String) :
    (Client.new base.url token).apiUrl = String.ofList base.text := by
  have hslashes : ∀ c ∈ List.replicate base.slashes '/', (c == '/') = true := by
    intro c hc
    simpa using (List.mem_replicate.1 hc).2
  have htext : ∀ c ∈ base.text.reverse.head?, (c == '/') = false := by
    intro c hc
    rw [List.head?_reverse] at hc
    simpa using base.ne_of_mem_getLast?_text c hc
  have hdrop : (Client.new base.url token).apiUrl = Client.dropSlashes base.url := rfl
  rw [hdrop, Client.dropSlashes, url, String.toList_ofList, List.reverse_append,
    List.reverse_replicate, (span_append hslashes htext).2, List.reverse_reverse]

/-! ## Paths of pull requests -/

/-- The segments in the address of a pull request. -/
def pullSegments (pr : PullRequestRef) : List (List Char) :=
  base.segments ++ ["repos".toList, percentEncode pr.owner.toList, percentEncode pr.repo.toList,
    "pulls".toList, Nat.toDigits 10 pr.number]

/-- What is left of the segments up to the names of the repository when they are followed. -/
def reached (pr : PullRequestRef) : List (List Char) :=
  ([percentEncode pr.owner.toList, percentEncode pr.repo.toList].foldl follow
    ("repos".toList :: base.segments.reverse)).reverse

/-- The path of the target of a part of a pull request. -/
def path (pr : PullRequestRef) (part : List (List Char)) : List (List Char) :=
  base.reached pr ++ ("pulls".toList :: Nat.toDigits 10 pr.number :: part)

theorem toList_pullUrl (token : Option String) (pr : PullRequestRef) :
    ((Client.new base.url token).pullUrl pr).toList =
      base.scheme ++ (base.server ++ pathText (base.pullSegments pr)) := by
  rw [Client.pullUrl, apiUrl_new, pullSegments, pathText_append]
  simp [text, pathText]

/-- A number is a plain segment. -/
theorem isPlainSegment_toDigits (n : Nat) : IsPlainSegment (Nat.toDigits 10 n) := by
  have hencode : percentEncode (Nat.toDigits 10 n) = Nat.toDigits 10 n := by
    apply percentEncode_eq_self
    intro c hc
    simp [isUnreserved, Char.isAlphanum, isDigit_of_mem_toDigits hc]
  have hne : ∀ {name : String}, '.' ∈ name.toList → String.ofList (Nat.toDigits 10 n) ≠ name := by
    rintro name hmem rfl
    rw [String.toList_ofList] at hmem
    exact notMem_toDigits (by decide) n hmem
  have hplain := isPlainSegment_percentEncode (hne (by decide)) (hne (by decide))
  rwa [String.toList_ofList, hencode] at hplain

variable {pr : PullRequestRef} {part : List (List Char)}

/-- The path of a target is that of the address, with the names of the repository followed. -/
theorem followSegments_pullSegments (hpart : ∀ segment ∈ part, IsPlainSegment segment) :
    followSegments [] (base.pullSegments pr ++ part) = base.path pr part := by
  have hsegments : base.pullSegments pr ++ part = (base.segments ++ ["repos".toList] ++
      [percentEncode pr.owner.toList, percentEncode pr.repo.toList]) ++
      ("pulls".toList :: Nat.toDigits 10 pr.number :: part) := by
    simp [pullSegments]
  have hfront : ∀ segment ∈ base.segments ++ ["repos".toList], IsPlainSegment segment := by
    intro segment hsegment
    rcases List.mem_append.1 hsegment with hmem | hmem
    · exact base.plain segment hmem
    · rw [List.mem_singleton.1 hmem]
      decide
  have hback : ∀ segment ∈ "pulls".toList :: Nat.toDigits 10 pr.number :: part,
      IsPlainSegment segment := by
    intro segment hsegment
    rcases List.mem_cons.1 hsegment with rfl | hmem
    · decide
    · rcases List.mem_cons.1 hmem with rfl | hmem
      · exact isPlainSegment_toDigits _
      · exact hpart segment hmem
  rw [hsegments, followSegments_append (List.cons_ne_nil _ _), List.foldl_append,
    foldl_follow_plain hfront, followSegments_plain hback, path, reached]
  simp

/-- Below the address of a pull request, an address has the path of its part as target, and its
query. -/
theorem exists_target?_pull (token : Option String) (pr : PullRequestRef) {query : List Char}
    (hpart : ∀ segment ∈ part, IsPlainSegment segment) (hquery : IsQuery query) :
    ∃ target, target? ((Client.new base.url token).pullUrl pr ++
        String.ofList (pathText part ++ query)) = some target ∧
      segmentsOf target = base.path pr part ∧
      queryOf target = String.ofList (hide isHiddenInQuery query) := by
  have hplain : ∀ segment ∈ base.pullSegments pr ++ part, HasPlainChars segment := by
    intro segment hsegment
    rcases List.mem_append.1 hsegment with hmem | hmem
    · rcases List.mem_append.1 hmem with hmem | hmem
      · exact (base.plain segment hmem).chars
      · simp only [List.mem_cons, List.not_mem_nil, or_false] at hmem
        rcases hmem with rfl | rfl | rfl | rfl | rfl
        · exact IsPlainSegment.chars (by decide)
        · exact hasPlainChars_percentEncode _
        · exact hasPlainChars_percentEncode _
        · exact IsPlainSegment.chars (by decide)
        · exact (isPlainSegment_toDigits _).chars
    · exact (hpart segment hmem).chars
  have hne : base.pullSegments pr ++ part ≠ [] := by simp [pullSegments]
  rw [← base.followSegments_pullSegments hpart]
  apply exists_target?_path base.isServer hplain hne hquery
  rw [String.toList_append, toList_pullUrl, String.toList_ofList, List.append_assoc,
    afterScheme_append, pathText_append]
  simp

/-! ## Names in a path -/

/-- Without points for names, the path has all segments of the address. -/
theorem reached_of_not_hasDots (h : ¬ pr.HasDots) :
    base.reached pr = base.segments ++ ["repos".toList, percentEncode pr.owner.toList,
      percentEncode pr.repo.toList] := by
  simp only [PullRequestRef.HasDots, not_or] at h
  have howner := isPlainSegment_percentEncode h.1.1 h.1.2
  have hrepo := isPlainSegment_percentEncode h.2.1 h.2.2
  simp [reached, follow_plain howner, follow_plain hrepo]

/-- With points for a name, it has less. -/
theorem length_reached_le (h : pr.HasDots) :
    (base.reached pr).length ≤ base.segments.length + 2 := by
  have hdots : ∀ {name : String}, name = "." ∨ name = ".." →
      isHere (percentEncode name.toList) = true ∨ isAbove (percentEncode name.toList) = true := by
    intro name hname
    rwa [isHere_percentEncode_iff, isAbove_percentEncode_iff]
  have hfirst := length_follow_le_succ (percentEncode pr.owner.toList)
    ("repos".toList :: base.segments.reverse)
  have hsecond := length_follow_le_succ (percentEncode pr.repo.toList)
    (follow ("repos".toList :: base.segments.reverse) (percentEncode pr.owner.toList))
  rw [List.length_cons, List.length_reverse] at hfirst
  rw [reached, List.length_reverse, List.foldl_cons, List.foldl_cons, List.foldl_nil]
  rcases h with howner | hrepo
  · have hless := length_follow_le (hdots howner) ("repos".toList :: base.segments.reverse)
    rw [List.length_cons, List.length_reverse] at hless
    omega
  · have hless := length_follow_le (hdots hrepo)
      (follow ("repos".toList :: base.segments.reverse) (percentEncode pr.owner.toList))
    omega

section

variable {part' : List (List Char)} {owner repo : List Char} {n : Nat}
  (hpart : part ∈ allParts) (hpart' : part' ∈ allParts)
  (h : base.path pr part = base.segments ++
    ["repos".toList, owner, repo, "pulls".toList, Nat.toDigits 10 n] ++ part')
include hpart hpart' h

/-- A path with two names and a number is long enough only if no name is followed as in a
directory, or else a word would stand in the place of the number. -/
theorem not_hasDots_of_path_eq : ¬ pr.HasDots := by
  intro hdots
  have hless := base.length_reached_le hdots
  have hlength := congrArg List.length h
  have hlast := congrArg List.getLast? h
  simp only [path, List.length_append, List.length_cons, List.length_nil] at hlength
  rcases part_cases hpart with rfl | ⟨word, rfl, hs⟩
  · simp only [List.length_nil] at hlength
    omega
  · rcases part_cases hpart' with rfl | ⟨word', rfl, -⟩
    · have hword : word = Nat.toDigits 10 n := by simpa [path] using hlast
      rw [hword] at hs
      exact notMem_toDigits (by decide) n hs
    · simp only [List.length_cons, List.length_nil] at hlength
      omega

/-- Such a path is that of one pull request only. -/
theorem eq_of_path_eq :
    percentEncode pr.owner.toList = owner ∧ percentEncode pr.repo.toList = repo ∧
      pr.number = n := by
  have hdots := base.not_hasDots_of_path_eq hpart hpart' h
  rw [path, base.reached_of_not_hasDots hdots, List.append_assoc, List.append_assoc,
    List.append_cancel_left_eq] at h
  simp only [List.cons_append, List.nil_append, List.cons.injEq, true_and] at h
  rcases h with ⟨howner, hrepo, hdigits, -⟩
  have hread := congrArg readDigits hdigits
  rw [readDigits_toDigits, readDigits_toDigits] at hread
  exact ⟨howner, hrepo, Option.some.inj hread⟩

end

end BaseAddress

/-! ## What a client asks for -/

/-- What is asked for below the address of a pull request. -/
structure Ask where
  /-- Whether something is to be changed. -/
  method : Method
  /-- The part of the pull request. -/
  part : List (List Char)
  /-- The query. -/
  query : List Char := []
  /-- The body of the request. -/
  body : Option Json := none

/-- The query for a page of a list. -/
def pageQuery (page perPage : Nat) : List Char :=
  '?' :: ("per_page=".toList ++ Nat.toDigits 10 perPage ++ "&page=".toList ++
    Nat.toDigits 10 page)

theorem isQuery_pageQuery (page perPage : Nat) : IsQuery (pageQuery page perPage) where
  head c hc := by
    rw [pageQuery, List.head?_cons] at hc
    exact (Option.some.inj hc).symm
  hash := by
    have hnumber := notMem_toDigits (c := '#') (by decide)
    simp [pageQuery, hnumber]

theorem isQuery_nil : IsQuery [] where
  head := nofun
  hash := nofun

theorem ofList_pageQuery (page perPage : Nat) :
    String.ofList (pageQuery page perPage) =
      "?per_page=" ++ toString perPage ++ "&page=" ++ toString page := by
  rw [← String.toList_inj]
  simp [pageQuery]

/-- Digits are written in a query as they are. -/
theorem isHiddenInQuery_of_isDigit {c : Char} (h : c.isDigit = true) :
    isHiddenInQuery c = false := by
  have hbounds : 48 ≤ c.toNat ∧ c.toNat ≤ 57 := by
    simpa [Char.isDigit, UInt32.le_iff_toNat_le] using h
  have hmarks : ∀ d : Char, d.isDigit = false → c ≠ d := by
    rintro d hd rfl
    rw [h] at hd
    cases hd
  have hblank : ¬ c ≤ ' ' := by
    change ¬ c.toNat ≤ 32
    omega
  have hlast : ¬ '~' < c := by
    change ¬ 126 < c.toNat
    omega
  simp [isHiddenInQuery, hblank, hlast, hmarks]

/-- The query for a page is written as it is. -/
theorem hide_pageQuery (page perPage : Nat) :
    hide isHiddenInQuery (pageQuery page perPage) = pageQuery page perPage := by
  have hdigits : ∀ n, hide isHiddenInQuery (Nat.toDigits 10 n) = Nat.toDigits 10 n := fun n =>
    hide_eq_self fun c hc => isHiddenInQuery_of_isDigit (isDigit_of_mem_toDigits hc)
  have hwords : hide isHiddenInQuery "?per_page=".toList = "?per_page=".toList ∧
      hide isHiddenInQuery "&page=".toList = "&page=".toList := by decide
  have hquery : pageQuery page perPage = "?per_page=".toList ++ Nat.toDigits 10 perPage ++
      "&page=".toList ++ Nat.toDigits 10 page := rfl
  rw [hquery, hide_append, hide_append, hide_append, hdigits, hdigits, hwords.1, hwords.2]

namespace Ask

/-- The pull request itself. -/
def pull : Ask where
  method := .get
  part := []

/-- A page of a list. -/
def page (list : String) (page perPage : Nat) : Ask where
  method := .get
  part := [list.toList]
  query := pageQuery page perPage

/-- A review with some comments. -/
def review (drafts : List Draft) : Ask where
  method := .post
  part := ["reviews".toList]
  body := some (Client.reviewBody drafts)

end Ask

namespace Client

variable (c : Client) (pr : PullRequestRef)

/-- The address of what is asked for. -/
def addressOf (a : Ask) : String :=
  c.pullUrl pr ++ String.ofList (pathText a.part ++ a.query)

/-- The request for what is asked for, unless it cannot be sent. -/
def requestOf? (a : Ask) : Option Request :=
  c.request? a.method (c.addressOf pr a) a.body

/-- The requests for several asks; none if the server cannot be reached. -/
def requestsOf (l : Link) (asks : List Ask) : List Request :=
  if l.reachable then asks.filterMap (c.requestOf? pr) else []

theorem addressOf_pull : c.addressOf pr .pull = c.pullUrl pr := by
  simp [addressOf, Ask.pull, pathText]

theorem addressOf_page (list : String) (page perPage : Nat) :
    c.addressOf pr (.page list page perPage) = c.pageUrl pr list page perPage := by
  rw [← String.toList_inj]
  simp [addressOf, Ask.page, pageUrl, pageQuery, pathText]

theorem addressOf_review (drafts : List Draft) :
    c.addressOf pr (.review drafts) = c.pullUrl pr ++ "/reviews" := by
  rw [← String.toList_inj]
  simp [addressOf, Ask.review, pathText]

/-- The token of a client can be sent if the one that it is given can. -/
theorem isHeaderText_new (url : String) {token : Option String}
    (h : ∀ t ∈ token, isHeaderText t = true) :
    (new url token).token.elim true isHeaderText = true := by
  cases token with
  | none => rfl
  | some t =>
      by_cases hblank : Text.trim t.toList = []
      · simp [new, Option.filter, hblank]
      · simpa [new, Option.filter, hblank] using h t rfl

/-- One ask is sent as one request, if at all. -/
theorem sent_exchange (a : Ask) (l : Link) :
    (c.exchange a.method (c.addressOf pr a) a.body l).2.sent = l.sent ++ c.requestsOf pr l [a] := by
  have hone : c.requestsOf pr l [a] =
      if l.reachable then (c.requestOf? pr a).toList else [] := by
    unfold requestsOf
    cases hrequest : c.requestOf? pr a <;> simp [hrequest]
  rw [hone, requestOf?, exchange]
  cases c.request? a.method (c.addressOf pr a) a.body with
  | none => simp
  | some request =>
      dsimp only
      have hsent := Link.sent_send request l
      cases hsend : l.send request with
      | mk reply l' =>
          rw [hsend] at hsent
          have hlink : l'.sent = l.sent ++ if l.reachable then [request] else [] := by
            rw [hsent]
            cases l.reachable <;> simp
          cases reply with
          | none => exact hlink
          | some r =>
              dsimp only
              split <;> exact hlink

/-- Reading the answer sends nothing. -/
theorem link_get (decode : Json → Option α) (url : String) (l : Link) :
    (c.get decode url l).2 = (c.exchange .get url none l).2 := by
  unfold get
  cases c.exchange .get url none l with
  | mk answer l' =>
      cases answer with
      | error e => rfl
      | ok content =>
          dsimp only
          cases (Json.ofText? content).bind decode <;> rfl

/-- Fetching a pull request asks for it, and then for pages of its files. -/
theorem exists_sent_fetch (l : Link) :
    ∃ k ≤ maxFilePages, (c.fetch pr l).2.sent = l.sent ++ c.requestsOf pr l
      (.pull :: (List.range' 1 k).map fun page => .page "files" page filesPerPage) := by
  rcases c.conversation_fetch pr 0 l with ⟨k, hk, hfetch⟩
  have hpull : c.requestFor? pr 0 .pull = c.requestOf? pr .pull := by
    rw [requestOf?, addressOf_pull]
    rfl
  have hpage : ∀ page, c.requestFor? pr 0 (.files page) =
      c.requestOf? pr (.page "files" page filesPerPage) := by
    intro page
    rw [requestOf?, addressOf_page]
    rfl
  refine ⟨k, hk, ?_⟩
  rw [hfetch.sent_eq, requestsFor, requestsOf]
  simp only [List.filterMap_cons, List.filterMap_map, Function.comp_def, hpull, hpage]

end Client

/-! ## Targets of requests -/

namespace BaseAddress

variable (base : BaseAddress) {token : Option String} {pr : PullRequestRef} {a : Ask}

/-- The target of a page of a list has the list in its path, behind the pull request, and the
length of the pages and the number of the page in its query. -/
theorem exists_target?_page (token : Option String) (pr : PullRequestRef) {list : String}
    (hlist : IsPlainSegment list.toList) (page perPage : Nat) :
    ∃ target, target? ((Client.new base.url token).pageUrl pr list page perPage) = some target ∧
      segmentsOf target = base.path pr [list.toList] ∧
      queryOf target = "?per_page=" ++ toString perPage ++ "&page=" ++ toString page := by
  rcases base.exists_target?_pull token pr (List.forall_mem_singleton.2 hlist)
    (isQuery_pageQuery page perPage) with ⟨target, htarget, hpath, hquery⟩
  refine ⟨target, ?_, hpath, ?_⟩
  · rw [← Client.addressOf_page]
    exact htarget
  · rw [hquery, hide_pageQuery, ofList_pageQuery]

section

variable (hpart : ∀ segment ∈ a.part, IsPlainSegment segment) (hquery : IsQuery a.query)
include hpart hquery

/-- A request for a part of a pull request has the path and the query of what is asked for. -/
theorem target_of_requestOf? {r : Request}
    (h : (Client.new base.url token).requestOf? pr a = some r) :
    segmentsOf r.target = base.path pr a.part ∧
      queryOf r.target = String.ofList (hide isHiddenInQuery a.query) := by
  rcases base.exists_target?_pull token pr hpart hquery with ⟨target, htarget, hread⟩
  rw [Client.requestOf?, Client.request?, Client.addressOf, htarget] at h
  split at h
  · cases h
  · cases h
    exact hread

variable (pr) in
/-- It can be sent if the token can be sent. -/
theorem exists_requestOf? (htoken : ∀ t ∈ token, Client.isHeaderText t = true) :
    ∃ r, (Client.new base.url token).requestOf? pr a = some r := by
  rcases base.exists_target?_pull token pr hpart hquery with ⟨target, htarget, -⟩
  rw [Client.requestOf?, Client.request?, Client.addressOf, htarget,
    Client.isHeaderText_new base.url htoken]
  exact ⟨_, rfl⟩

end

end BaseAddress

/-! ## Calls -/

/-- The calls of a client about one pull request. -/
inductive Call where
  | pullRequest
  | listFiles (page perPage : Nat)
  | fetch
  | listComments (page perPage : Nat)
  | createReview (drafts : List Draft)

namespace Call

/-- The link after a call. -/
def after (c : Client) (pr : PullRequestRef) (l : Link) : Call → Link
  | .pullRequest => (c.pullRequest pr l).2
  | .listFiles page perPage => (c.listFiles pr page perPage l).2
  | .fetch => (c.fetch pr l).2
  | .listComments page perPage => (c.listComments pr page perPage l).2
  | .createReview drafts => (c.createReview pr drafts l).2

/-- The requests that a call sends. -/
def requests (call : Call) (c : Client) (pr : PullRequestRef) (l : Link) : List Request :=
  (call.after c pr l).sent.drop l.sent.length

/-- The parts of a pull request that a call asks for. -/
def parts : Call → List (List (List Char))
  | .pullRequest => [[]]
  | .listFiles _ _ => [["files".toList]]
  | .fetch => [[], ["files".toList]]
  | .listComments _ _ => [["comments".toList]]
  | .createReview _ => [["reviews".toList]]

theorem mem_allParts {call : Call} {part : List (List Char)} (h : part ∈ call.parts) :
    part ∈ allParts := by
  cases call <;> simp only [parts, allParts, List.mem_cons, List.not_mem_nil, or_false] at h ⊢ <;>
    tauto

/-- A call asks for its parts of the pull request, at least for one. -/
theorem sent_after (call : Call) (c : Client) (pr : PullRequestRef) (l : Link) :
    ∃ asks : List Ask, asks ≠ [] ∧ (∀ a ∈ asks, a.part ∈ call.parts ∧ IsQuery a.query) ∧
      (call.after c pr l).sent = l.sent ++ c.requestsOf pr l asks := by
  cases call with
  | pullRequest =>
      refine ⟨[.pull], by simp, by simp [parts, Ask.pull, isQuery_nil], ?_⟩
      rw [after, Client.pullRequest, Client.link_get, ← Client.addressOf_pull]
      exact c.sent_exchange pr .pull l
  | listFiles page perPage =>
      refine ⟨[.page "files" page perPage], by simp,
        by simp [parts, Ask.page, isQuery_pageQuery], ?_⟩
      rw [after, Client.listFiles, Client.link_get, ← Client.addressOf_page]
      exact c.sent_exchange pr (.page "files" page perPage) l
  | fetch =>
      rcases c.exists_sent_fetch pr l with ⟨k, -, hsent⟩
      refine ⟨_, List.cons_ne_nil _ _, ?_, hsent⟩
      intro a ha
      rcases List.mem_cons.1 ha with rfl | ha
      · simp [parts, Ask.pull, isQuery_nil]
      · rcases List.mem_map.1 ha with ⟨page, -, rfl⟩
        simp [parts, Ask.page, isQuery_pageQuery]
  | listComments page perPage =>
      refine ⟨[.page "comments" page perPage], by simp,
        by simp [parts, Ask.page, isQuery_pageQuery], ?_⟩
      rw [after, Client.listComments, Client.link_get, ← Client.addressOf_page]
      exact c.sent_exchange pr (.page "comments" page perPage) l
  | createReview drafts =>
      refine ⟨[.review drafts], by simp, by simp [parts, Ask.review, isQuery_nil], ?_⟩
      have hlink : (c.createReview pr drafts l).2 = (c.exchange .post
          (c.addressOf pr (.review drafts)) (some (Client.reviewBody drafts)) l).2 := by
        rw [Client.createReview, Client.addressOf_review]
        cases c.exchange .post (c.pullUrl pr ++ "/reviews") (some (Client.reviewBody drafts)) l with
        | mk answer l' => cases answer <;> rfl
      rw [after, hlink]
      exact c.sent_exchange pr (.review drafts) l

/-- The requests of a call, for what it asks. -/
theorem exists_requests_eq (call : Call) (c : Client) (pr : PullRequestRef) (l : Link) :
    ∃ asks : List Ask, asks ≠ [] ∧ (∀ a ∈ asks, a.part ∈ call.parts ∧ IsQuery a.query) ∧
      call.requests c pr l = c.requestsOf pr l asks := by
  rcases call.sent_after c pr l with ⟨asks, hne, hasks, hsent⟩
  refine ⟨asks, hne, hasks, ?_⟩
  rw [requests, hsent, List.drop_left]

variable {call : Call} {base : BaseAddress} {token : Option String} {pr : PullRequestRef} {l : Link}

/-- A client can ask if its token can be sent. -/
theorem requests_ne_nil (hreach : l.reachable = true)
    (htoken : ∀ t ∈ token, Client.isHeaderText t = true) :
    call.requests (Client.new base.url token) pr l ≠ [] := by
  rcases call.exists_requests_eq (Client.new base.url token) pr l with ⟨asks, hne, hasks, hsent⟩
  rcases List.exists_cons_of_ne_nil hne with ⟨a, more, rfl⟩
  rcases hasks a List.mem_cons_self with ⟨hpart, hquery⟩
  have hplain := isPlainSegment_of_mem_allParts (mem_allParts hpart)
  rcases base.exists_requestOf? pr hplain hquery htoken with ⟨r, hrequest⟩
  rw [hsent, Client.requestsOf, if_pos hreach, List.filterMap_cons_some hrequest]
  exact List.cons_ne_nil _ _

/-- The path of a request is that of a part of its pull request. -/
theorem exists_path_of_mem {r : Request}
    (hr : r ∈ call.requests (Client.new base.url token) pr l) :
    ∃ part ∈ call.parts, segmentsOf r.target = base.path pr part := by
  rcases call.exists_requests_eq (Client.new base.url token) pr l with ⟨asks, -, hasks, hsent⟩
  rw [hsent, Client.requestsOf] at hr
  split at hr
  · rcases List.mem_filterMap.1 hr with ⟨a, ha, hrequest⟩
    rcases hasks a ha with ⟨hpart, hquery⟩
    have hplain := isPlainSegment_of_mem_allParts (mem_allParts hpart)
    exact ⟨a.part, hpart, (base.target_of_requestOf? hplain hquery hrequest).1⟩
  · cases hr

/-- Fetching a pull request sends a request for it, and then one for each page of its files
from the first on.  All have the path of the pull request in their targets, and those for pages
also the word for files, the length of a page and the number of the page. -/
theorem targets_fetch (hreach : l.reachable = true)
    (htoken : ∀ t ∈ token, Client.isHeaderText t = true) :
    ∃ k ≤ Client.maxFilePages, ∃ pull pages,
      Call.fetch.requests (Client.new base.url token) pr l = pull :: pages ∧
      segmentsOf pull.target = base.path pr [] ∧ queryOf pull.target = "" ∧
      pages.map (fun r => (segmentsOf r.target, queryOf r.target)) =
        (List.range' 1 k).map fun page =>
          (base.path pr ["files".toList], "?per_page=100&page=" ++ toString page) := by
  rcases (Client.new base.url token).exists_sent_fetch pr l with ⟨k, hk, hsent⟩
  have hfiles : ∀ segment ∈ ["files".toList], IsPlainSegment segment := by decide
  have hnone : ∀ segment ∈ Ask.pull.part, IsPlainSegment segment := by simp [Ask.pull]
  have hlength : "?per_page=" ++ toString Client.filesPerPage ++ "&page=" =
      "?per_page=100&page=" := by decide
  rcases base.exists_requestOf? pr hnone isQuery_nil htoken with ⟨pull, hpull⟩
  rcases base.target_of_requestOf? hnone isQuery_nil hpull with ⟨hpath, hquery⟩
  choose request hrequest using fun page => base.exists_requestOf? pr
    (a := .page "files" page Client.filesPerPage) hfiles (isQuery_pageQuery page _) htoken
  refine ⟨k, hk, pull, (List.range' 1 k).map request, ?_, hpath, hquery, ?_⟩
  · rw [requests, after, hsent, List.drop_left, Client.requestsOf, if_pos hreach,
      List.filterMap_cons_some hpull, List.filterMap_map]
    simp [hrequest]
  · rw [List.map_map]
    apply List.map_congr_left
    intro page _
    rcases base.target_of_requestOf? hfiles (isQuery_pageQuery page _) (hrequest page) with
      ⟨hpath, hquery⟩
    rw [Function.comp_apply, hpath, hquery, Ask.page, hide_pageQuery, ofList_pageQuery, hlength]

/-! ## Addressed requests -/

/-- A target has the names of a repository in its path, behind the path of the interface, and
then the number and the part of the pull request. -/
def Addresses (base : BaseAddress) (pr : PullRequestRef) (part : List (List Char))
    (target : String) : Prop :=
  ∃ owner repo, segmentsOf target = base.segments ++
      ["repos".toList, owner, repo, "pulls".toList, Nat.toDigits 10 pr.number] ++ part ∧
    percentDecode? owner = some pr.owner ∧ percentDecode? repo = some pr.repo

/-- Each call sends a request if the server can be reached and the token can be sent.  The target
of a request has the names of the repository in its path exactly if no name is followed as in a
directory, and then no request about another pull request has this target. -/
theorem requests_address_iff (base : BaseAddress) (token : Option String) (call : Call)
    (pr : PullRequestRef) (l : Link) :
    (l.reachable = true → (∀ t ∈ token, Client.isHeaderText t = true) →
        call.requests (Client.new base.url token) pr l ≠ []) ∧
      ∀ r ∈ call.requests (Client.new base.url token) pr l,
        ((∃ part ∈ call.parts, Addresses base pr part r.target) ↔ ¬ pr.HasDots) ∧
          (¬ pr.HasDots → ∀ (call' : Call) (pr' : PullRequestRef) (l' : Link),
            ∀ r' ∈ call'.requests (Client.new base.url token) pr' l',
              r'.target = r.target → pr' = pr) := by
  refine ⟨requests_ne_nil, fun r hr => ?_⟩
  rcases exists_path_of_mem hr with ⟨part, hpart, hpath⟩
  have hnames : ¬ pr.HasDots → segmentsOf r.target = base.segments ++
      ["repos".toList, percentEncode pr.owner.toList, percentEncode pr.repo.toList,
        "pulls".toList, Nat.toDigits 10 pr.number] ++ part := by
    intro hdots
    rw [hpath, BaseAddress.path, base.reached_of_not_hasDots hdots]
    simp
  refine ⟨⟨?_, ?_⟩, ?_⟩
  · rintro ⟨part', hpart', owner, repo, haddress, -⟩
    rw [hpath] at haddress
    exact base.not_hasDots_of_path_eq (mem_allParts hpart) (mem_allParts hpart') haddress
  · intro hdots
    exact ⟨part, hpart, _, _, hnames hdots, percentDecode?_percentEncode pr.owner,
      percentDecode?_percentEncode pr.repo⟩
  · intro hdots call' pr' l' r' hr' htarget
    rcases exists_path_of_mem hr' with ⟨part', hpart', hpath'⟩
    rw [htarget, hnames hdots] at hpath'
    rcases base.eq_of_path_eq (mem_allParts hpart') (mem_allParts hpart) hpath'.symm with
      ⟨howner, hrepo, hnumber⟩
    cases pr'
    cases pr
    rw [PullRequestRef.mk.injEq]
    exact ⟨eq_of_percentEncode_eq howner, eq_of_percentEncode_eq hrepo, hnumber⟩

/-- The address of an interface on this machine. -/
def localBase : BaseAddress where
  secure := false
  server := "localhost:8080".toList
  segments := ["api".toList, "v3".toList]
  slashes := 1
  isServer := by decide
  plain := by decide
  last_ne := by
    intro segment hsegment
    cases hsegment
    exact List.cons_ne_nil _ _

/-- The first request for a repository with a hash sign in its name. -/
theorem requests_address_iff_hash :
    let c := Client.new localBase.url (some "secret")
    let pr : PullRequestRef := ⟨"acme", "c#", 7⟩
    let l : Link := {}
    l.reachable = true ∧ (∀ t ∈ some "secret", Client.isHeaderText t = true) ∧ ¬ pr.HasDots ∧
      ∃ r ∈ Call.fetch.requests c pr l,
        ((∃ part ∈ Call.fetch.parts, Addresses localBase pr part r.target) ↔ ¬ pr.HasDots) ∧
          ∀ (call' : Call) (pr' : PullRequestRef) (l' : Link),
            ∀ r' ∈ call'.requests c pr' l', r'.target = r.target → pr' = pr := by
  intro c pr l
  have hreach : l.reachable = true := rfl
  have htoken : ∀ t ∈ some "secret", Client.isHeaderText t = true := by
    rintro t ⟨⟩
    decide
  have hdots : ¬ pr.HasDots := by decide
  have hrequests := requests_address_iff localBase (some "secret") .fetch pr l
  rcases List.exists_mem_of_ne_nil _ (hrequests.1 hreach htoken) with ⟨r, hr⟩
  rcases hrequests.2 r hr with ⟨haddress, hother⟩
  exact ⟨hreach, htoken, hdots, r, hr, haddress, hother hdots⟩

/-- An owner that is a point is lost on the way, and another pull request has the same target. -/
theorem not_address_point :
    let c := Client.new localBase.url none
    let target := "/api/v3/repos/widgets/pulls/7"
    PullRequestRef.ofText? "./widgets#7" none none = some ⟨".", "widgets", 7⟩ ∧
      PullRequestRef.ofText? "widgets/.#7" none none = some ⟨"widgets", ".", 7⟩ ∧
      (Call.pullRequest.requests c ⟨".", "widgets", 7⟩ {}).map (·.target) = [target] ∧
      (Call.pullRequest.requests c ⟨"widgets", ".", 7⟩ {}).map (·.target) = [target] ∧
      ¬ Addresses localBase ⟨".", "widgets", 7⟩ [] target := by
  intro c target
  refine ⟨by decide, by decide, by decide +kernel, by decide +kernel, ?_⟩
  rintro ⟨owner, repo, hpath, -⟩
  have hlength := congrArg List.length hpath
  have htarget : (segmentsOf target).length = 6 := by decide
  rw [htarget] at hlength
  simp [localBase] at hlength

end Call

end Http

end PatchReview
