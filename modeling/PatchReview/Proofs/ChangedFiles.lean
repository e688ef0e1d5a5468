import PatchReview.Http.Client

/-!
# The changed files of a pull request

A client asks for a pull request and then for its changed files, page by page, up to a page
that is not full or the page limit.  A server is a list of replies, one for each request; this
module says for every such list what is asked for and what comes of it.

Main definitions:

- `Link.reply` and `Link.after`: the replies that are still to come, and a link after some
  requests.
- `Client.readReply`: what a reply says.
- `Client.lastPage`: the last page that is asked for, by what the pages hold.

Main results:

- Theorem `Client.listPages_full`: full pages are put in front of what follows them.
- Theorem `Client.fetch_of_replies`: the files are those of all pages, in order; the first
  reply that fails is the answer, and nothing is asked after it.
-/

namespace PatchReview

namespace Http

/-! ## Replies to come -/

namespace Link

/-- What comes back to a later request; `i` requests are sent before it. -/
def reply (l : Link) (i : Nat) : Option Response :=
  l.replies[i]?.getD (some .exhausted)

/-- The link after some requests. -/
def after (l : Link) (requests : List Request) : Link :=
  { l with replies := l.replies.drop requests.length, sent := l.sent ++ requests }

@[simp]
theorem reachable_after (l : Link) (requests : List Request) :
    (l.after requests).reachable = l.reachable :=
  rfl

@[simp]
theorem after_nil (l : Link) : l.after [] = l := by
  simp [after]

@[simp]
theorem after_after (l : Link) (first second : List Request) :
    (l.after first).after second = l.after (first ++ second) := by
  simp [after]

@[simp]
theorem reply_after (l : Link) (requests : List Request) (i : Nat) :
    (l.after requests).reply i = l.reply (requests.length + i) := by
  simp [after, reply]

/-- A request takes the next reply. -/
theorem send_eq {l : Link} (hreach : l.reachable = true) (r : Request) :
    l.send r = (l.reply 0, l.after [r]) := by
  unfold send
  cases hreplies : l.replies <;> simp [reply, after, hreach, hreplies]

end Link

namespace Client

variable {c : Client} {pr : PullRequestRef} {l : Link}

/-! ## What a reply says -/

/-- What a reply says: the value in an answer that grants the request, or why there is none.
Without an answer, or if it cannot be read, the network is at fault. -/
def readReply (decode : Json → Option α) : Option Response → Except HostError α
  | none => .error .network
  | some r =>
    if r.isSuccess then ((Json.ofText? r.content).bind decode).elim (.error .network) .ok
    else .error (refusal r)

/-- A reply that grants the request says what can be read in it. -/
theorem readReply_of_success {decode : Json → Option α} {r : Response} {a : α}
    (hsuccess : r.isSuccess = true) (hread : (Json.ofText? r.content).bind decode = some a) :
    readReply decode (some r) = .ok a := by
  simp [readReply, hsuccess, hread]

/-- The pull request in a reply. -/
def readHead : Option Response → Except HostError PullRequestHead :=
  readReply PullRequestHead.ofJson?

/-- The page of changed files in a reply. -/
def readPage : Option Response → Except HostError (List ChangedFile) :=
  readReply (Json.list? ChangedFile.ofJson?)

/-- An address is asked for by one request, and the answer is what the next reply says. -/
theorem get_eq (hreach : l.reachable = true) {url : String} {r : Request}
    (hrequest : c.request? .get url none = some r) (decode : Json → Option α) :
    c.get decode url l = (readReply decode (l.reply 0), l.after [r]) := by
  unfold get exchange
  rw [hrequest]
  simp only [Link.send_eq hreach]
  cases l.reply 0 with
  | none => rfl
  | some r =>
      by_cases hsuccess : r.isSuccess = true
      · simp only [if_pos hsuccess, readReply]
        cases (Json.ofText? r.content).bind decode <;> rfl
      · simp only [if_neg hsuccess, readReply]

/-! ## Requests that can be sent -/

/-- What follows the scheme of an address. -/
theorem afterScheme_eq_some_iff {url rest : List Char} :
    afterScheme url = some rest ↔
      url = "http://".toList ++ rest ∨ url = "https://".toList ++ rest := by
  rw [afterScheme, Option.or_eq_some_iff, Text.dropLeading_eq_some_iff,
    Text.dropLeading_eq_some_iff]
  constructor
  · rintro (hhttp | ⟨-, hhttps⟩)
    · exact .inl hhttp
    · exact .inr hhttps
  · rintro (rfl | rfl)
    · exact .inl rfl
    · exact .inr ⟨rfl, rfl⟩

/-- An address has a target if it names a server. -/
theorem exists_target?_iff {url : String} :
    (∃ target, target? url = some target) ↔
      ∃ rest, afterScheme url.toList = some rest ∧ rest.takeWhile (!endsServer ·) ≠ [] := by
  unfold target?
  cases afterScheme url.toList with
  | none => simp
  | some rest => by_cases hserver : rest.takeWhile (!endsServer ·) = [] <;> simp [hserver]

/-- A longer address names the server that a shorter one names. -/
theorem exists_target?_append {url : String} (h : ∃ target, target? url = some target)
    (more : String) : ∃ target, target? (url ++ more) = some target := by
  obtain ⟨rest, hrest, hserver⟩ := exists_target?_iff.1 h
  refine exists_target?_iff.2 ⟨rest ++ more.toList, ?_, ?_⟩
  · rw [afterScheme_eq_some_iff] at hrest ⊢
    rw [String.toList_append]
    rcases hrest with hrest | hrest <;> simp [hrest]
  · cases rest with
    | nil => exact absurd rfl hserver
    | cons d rest =>
        by_cases hd : (!endsServer d) = true
        · simp [hd]
        · simp [hd] at hserver

/-- A client that can ask for a pull request can ask for every page of its files. -/
theorem exists_pageRequest {pull : Request}
    (hpull : c.request? .get (c.pullUrl pr) none = some pull) (list : String) (perPage : Nat) :
    ∃ request : Nat → Request, ∀ page,
      c.request? .get (c.pageUrl pr list page perPage) none = some (request page) := by
  have hsent : ∀ page, ∃ r, c.request? .get (c.pageUrl pr list page perPage) none = some r := by
    intro page
    unfold request? at hpull ⊢
    split at hpull
    · cases hpull
    · next htoken =>
      obtain ⟨target, htarget, -⟩ := Option.map_eq_some_iff.1 hpull
      obtain ⟨longer, hlonger⟩ := exists_target?_append ⟨target, htarget⟩
        ("/" ++ list ++ "?per_page=" ++ toString perPage ++ "&page=" ++ toString page)
      have hurl : c.pageUrl pr list page perPage = c.pullUrl pr ++
          ("/" ++ list ++ "?per_page=" ++ toString perPage ++ "&page=" ++ toString page) := by
        simp only [pageUrl, String.append_assoc]
      rw [if_neg htoken, hurl, hlonger]
      exact ⟨_, rfl⟩
  exact Classical.skolem.1 hsent

/-! ## Pages -/

/-- The last page of files that is asked for: the first one with fewer than a hundred files,
or the thirtieth. -/
def lastPage (pages : Nat → List ChangedFile) : Nat :=
  ((List.range' 1 30).find? fun page => (pages page).length < 100).getD 30

/-- The last page is the thirtieth, behind full ones, or the first that is not full. -/
theorem lastPage_cases (pages : Nat → List ChangedFile) :
    (lastPage pages = 30 ∧ ∀ i < 30, 100 ≤ (pages (1 + i)).length) ∨
      ∃ full < 30, lastPage pages = full + 1 ∧ (pages (1 + full)).length < 100 ∧
        ∀ i < full, 100 ≤ (pages (1 + i)).length := by
  unfold lastPage
  cases hfind : (List.range' 1 30).find? fun page => (pages page).length < 100 with
  | none =>
      rw [List.find?_eq_none] at hfind
      refine .inl ⟨rfl, fun i hi => ?_⟩
      simpa using hfind (1 + i) (List.mem_range'_1.2 (by omega))
  | some last =>
      obtain ⟨hshort, hmem, hbefore⟩ := List.find?_range'_eq_some.1 hfind
      obtain ⟨hone, hlast⟩ := List.mem_range'_1.1 hmem
      obtain ⟨full, rfl⟩ := Nat.exists_eq_add_of_le hone
      refine .inr ⟨full, by omega, Nat.add_comm 1 full, by simpa using hshort, fun i hi => ?_⟩
      simpa using hbefore (1 + i) (by omega) (by omega)

/-- A page of files is asked for by one request, and it is what the next reply says. -/
theorem listFiles_eq (hreach : l.reachable = true) {page : Nat} {r : Request}
    (hrequest : c.request? .get (c.pageUrl pr "files" page 100) none = some r) :
    c.listFiles pr page filesPerPage l = (readPage (l.reply 0), l.after [r]) :=
  get_eq hreach hrequest _

/-- Full pages are put in front of what comes of the pages that follow them. -/
theorem listPages_full {files : Nat → Request}
    (hfiles : ∀ page, c.request? .get (c.pageUrl pr "files" page 100) none = some (files page))
    (pages : Nat → List ChangedFile) (full count page : Nat) (hreach : l.reachable = true)
    (hfull : ∀ i < full, readPage (l.reply i) = .ok (pages (page + i)) ∧
      100 ≤ (pages (page + i)).length) :
    c.listPages pr (full + count) page l =
      ((c.listPages pr count (page + full)
            (l.after ((List.range' page full).map files))).1.map
          ((List.range' page full).flatMap pages ++ ·),
        (c.listPages pr count (page + full) (l.after ((List.range' page full).map files))).2) := by
  induction full generalizing page l with
  | zero =>
      rw [Nat.zero_add, Nat.add_zero, List.range'_zero, List.map_nil, Link.after_nil]
      cases c.listPages pr count page l with
      | mk answer l' => cases answer <;> rfl
  | succ full ih =>
      obtain ⟨hpage, hlength⟩ := hfull 0 (Nat.succ_pos full)
      have hlong : ¬ (pages (page + 0)).length < filesPerPage := Nat.not_lt.2 hlength
      have hrest := ih (page + 1) (l := l.after [files page]) hreach fun i hi => by
        have hnext := hfull (i + 1) (by omega)
        rwa [Link.reply_after, List.length_singleton, Nat.add_comm 1 i, Nat.add_assoc page 1 i,
          Nat.add_comm 1 i]
      rw [Link.after_after, List.singleton_append, Nat.add_assoc page 1 full,
        Nat.add_comm 1 full] at hrest
      rw [Nat.add_right_comm full 1 count, listPages, listFiles_eq hreach (hfiles page), hpage]
      dsimp only
      rw [if_neg hlong, hrest, List.range'_succ, List.map_cons, List.flatMap_cons]
      cases c.listPages pr count (page + (full + 1))
          (l.after (files page :: (List.range' (page + 1) full).map files)) with
      | mk answer l' =>
          cases answer with
          | error e => rfl
          | ok more =>
              simp only [Except.map, List.append_assoc]
              rfl

/-- The page behind the first ones is what the reply behind theirs says. -/
theorem listFiles_after {files : Nat → Request}
    (hfiles : ∀ page, c.request? .get (c.pageUrl pr "files" page 100) none = some (files page))
    (hreach : l.reachable = true) (full : Nat) :
    c.listFiles pr (1 + full) filesPerPage (l.after ((List.range' 1 full).map files)) =
      (readPage (l.reply full), l.after ((List.range' 1 (full + 1)).map files)) := by
  have hreach' : (l.after ((List.range' 1 full).map files)).reachable = true := hreach
  rw [listFiles_eq hreach' (hfiles _), Link.reply_after, Link.after_after, List.range'_concat]
  simp

/-- The pages up to the last one make up the files. -/
theorem listPages_of_answered {files : Nat → Request}
    (hfiles : ∀ page, c.request? .get (c.pageUrl pr "files" page 100) none = some (files page))
    {pages : Nat → List ChangedFile} (hreach : l.reachable = true)
    (hpages : ∀ i < lastPage pages, readPage (l.reply i) = .ok (pages (1 + i))) :
    c.listPages pr maxFilePages 1 l =
      (.ok ((List.range' 1 (lastPage pages)).flatMap pages),
        l.after ((List.range' 1 (lastPage pages)).map files)) := by
  rcases lastPage_cases pages with ⟨hlast, hfull⟩ | ⟨full, hlt, hlast, hshort, hfull⟩ <;>
    rw [hlast] at hpages ⊢
  · have hscan := listPages_full hfiles pages 30 0 1 hreach
      fun i hi => ⟨hpages i hi, hfull i hi⟩
    rw [maxFilePages, hscan, listPages]
    simp only [Except.map, List.append_nil]
  · obtain ⟨more, hcount⟩ : ∃ more, maxFilePages = full + (more + 1) :=
      ⟨29 - full, by rw [maxFilePages]; omega⟩
    have hscan := listPages_full hfiles pages full (more + 1) 1 hreach
      fun i hi => ⟨hpages i (by omega), hfull i hi⟩
    rw [hcount, hscan, listPages, listFiles_after hfiles hreach, hpages full (Nat.lt_succ_self full)]
    have hless : (pages (1 + full)).length < filesPerPage := hshort
    dsimp only
    rw [if_pos hless, List.range'_concat]
    simp [Except.map]

/-- The first page that fails behind full ones is the answer. -/
theorem listPages_of_refused {files : Nat → Request}
    (hfiles : ∀ page, c.request? .get (c.pageUrl pr "files" page 100) none = some (files page))
    {pages : Nat → List ChangedFile} {full : Nat} (hlt : full < 30) (hreach : l.reachable = true)
    (hfull : ∀ i < full, readPage (l.reply i) = .ok (pages (1 + i)) ∧
      100 ≤ (pages (1 + i)).length)
    {e : HostError} (hfault : readPage (l.reply full) = .error e) :
    c.listPages pr maxFilePages 1 l =
      (.error e, l.after ((List.range' 1 (full + 1)).map files)) := by
  obtain ⟨more, hcount⟩ : ∃ more, maxFilePages = full + (more + 1) :=
    ⟨29 - full, by rw [maxFilePages]; omega⟩
  rw [hcount, listPages_full hfiles pages full (more + 1) 1 hreach hfull, listPages,
    listFiles_after hfiles hreach, hfault]
  rfl

/-! ## The whole pull request -/

/-- A client asks for a pull request and then for its files, a hundred on a page, each page
once and in order up to the first one with fewer files or the thirtieth; the files are those
of the pages in that order.  If the pull request or a page fails, that failure is the answer
and nothing more is asked. -/
theorem fetch_of_replies (hreach : l.reachable = true) {pull : Request}
    (hpull : c.request? .get (c.pullUrl pr) none = some pull) :
    ∃ files : Nat → Request,
      (∀ page, c.request? .get (c.pageUrl pr "files" page 100) none = some (files page)) ∧
      (∀ e, readHead (l.reply 0) = .error e → c.fetch pr l = (.error e, l.after [pull])) ∧
      ∀ head, readHead (l.reply 0) = .ok head → ∀ pages : Nat → List ChangedFile,
        ((∀ page ∈ List.range' 1 (lastPage pages), readPage (l.reply page) = .ok (pages page)) →
          c.fetch pr l =
            (.ok {
              number := head.number
              title := head.title
              body := head.body.getD ""
              state := head.state
              files := (List.range' 1 (lastPage pages)).flatMap pages },
              l.after (pull :: (List.range' 1 (lastPage pages)).map files))) ∧
        ∀ full < 30, ∀ e,
          (∀ page ∈ List.range' 1 full,
            readPage (l.reply page) = .ok (pages page) ∧ 100 ≤ (pages page).length) →
          readPage (l.reply (full + 1)) = .error e →
          c.fetch pr l = (.error e, l.after (pull :: (List.range' 1 (full + 1)).map files)) := by
  obtain ⟨files, hfiles⟩ := exists_pageRequest hpull "files" 100
  have hhead : c.pullRequest pr l = (readHead (l.reply 0), l.after [pull]) := get_eq hreach hpull _
  refine ⟨files, hfiles, ?_, ?_⟩
  · intro e he
    rw [fetch, hhead, he]
  · intro head he pages
    refine ⟨fun hpages => ?_, fun full hlt e hfull hfault => ?_⟩
    · have hlist := listPages_of_answered (l := l.after [pull]) hfiles hreach fun i hi => by
        rw [Link.reply_after, List.length_singleton]
        exact hpages (1 + i) (List.mem_range'_1.2 (by omega))
      rw [fetch, hhead, he]
      dsimp only
      rw [hlist, Link.after_after, List.singleton_append]
    · have hlist := listPages_of_refused (l := l.after [pull]) hfiles hlt hreach
        (fun i hi => by
          rw [Link.reply_after, List.length_singleton]
          exact hfull (1 + i) (List.mem_range'_1.2 (by omega)))
        (by rwa [Link.reply_after, List.length_singleton, Nat.add_comm])
      rw [fetch, hhead, he]
      dsimp only
      rw [hlist, Link.after_after, List.singleton_append]

/-- A hundred files on the first page and one on the second, and nothing after that. -/
theorem fetch_of_replies_full_page :
    let c : Client := ⟨"http://localhost", none⟩
    let pr : PullRequestRef := ⟨"acme", "widgets", 7⟩
    let first : List ChangedFile := List.replicate 100 { filename := "a", status := "added" }
    let second : List ChangedFile := [{ filename := "b", status := "removed" }]
    let firstText := '[' :: ((List.replicate 99 "[\"a\",\"added\"],".toList).flatten ++
      "[\"a\",\"added\"]]".toList)
    let l : Link := {
      replies := [some ⟨200, "[7, \"Parser\", null, \"open\"]"⟩, some ⟨200, String.ofList firstText⟩,
        some ⟨200, "[[\"b\", \"removed\"]]"⟩, none] }
    l.reachable = true ∧ ∃ (pull : Request) (files : Nat → Request),
      c.request? .get (c.pullUrl pr) none = some pull ∧
      (∀ page, c.request? .get (c.pageUrl pr "files" page 100) none = some (files page)) ∧
      c.fetch pr l =
        (.ok { number := 7, title := "Parser", body := "", state := "open", files := first ++ second },
          l.after [pull, files 1, files 2]) := by
  intro c pr first second firstText l
  have hreach : l.reachable = true := rfl
  obtain ⟨pull, hpull⟩ : ∃ pull, c.request? .get (c.pullUrl pr) none = some pull :=
    Option.isSome_iff_exists.1 (by decide +kernel)
  have hhead : readHead (l.reply 0) = .ok ⟨7, "Parser", none, "open"⟩ :=
    readReply_of_success rfl (by decide +kernel)
  have hfirst : readPage (l.reply 1) = .ok first :=
    readReply_of_success rfl ((Json.bind_ofText?_ofList firstText _).trans (by decide +kernel))
  have hsecond : readPage (l.reply 2) = .ok second :=
    readReply_of_success rfl (by decide +kernel)
  let pages : Nat → List ChangedFile := fun page => if page = 1 then first else second
  have hlast : lastPage pages = 2 := by decide
  obtain ⟨files, hfiles, -, hrest⟩ := fetch_of_replies hreach hpull
  have hfetch := (hrest _ hhead pages).1 (by
    rw [hlast]
    exact List.forall_mem_cons.2 ⟨hfirst, List.forall_mem_cons.2 ⟨hsecond, nofun⟩⟩)
  rw [hlast] at hfetch
  exact ⟨hreach, pull, files, hpull, hfiles, hfetch⟩

end Client

end Http

end PatchReview
