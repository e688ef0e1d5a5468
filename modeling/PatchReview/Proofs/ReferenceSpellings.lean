import PatchReview.Proofs.MarkupScalars
import PatchReview.Review.PullRequestRef

/-!
# Spellings of a reference

A reference to a pull request can be written as the address of its page, as
`owner/repo#number`, and as a number in the default repository.  All spellings of one
reference read as that reference, whatever blanks stand around them.

Main definitions:

- `PullRequestRef.slug`: the characters of `owner/repo#number`.
- `PullRequestRef.AddressStyle`: the ways to write the address of a page.
- `PullRequestRef.IsOrdinary`: references with the names that a code host gives out.

Main results:

- Theorem `PullRequestRef.ofTrimmed?_slug`: what a text of the form `owner/repo#number` reads as,
  whatever the names are.
- Theorem `PullRequestRef.ofText?_display_iff`: when the display of a reference reads as it.
- Theorem `PullRequestRef.ofText?_address`: an address reads as the reference it is made of.
- Theorem `PullRequestRef.ofText?_spellings`: all spellings agree.
-/

namespace PatchReview.PullRequestRef

open Text

/-! ## Numbers -/

/-- The digits of a number of a pull request are read back. -/
theorem readNumber_toDigits {n : Nat} (hpos : 0 < n) (hlt : n < bound64) :
    readNumber (Nat.toDigits 10 n) = some n := by
  have hread : readNatBelow bound64 (Nat.toDigits 10 n) = some n := by
    unfold readNatBelow
    have hdigits := readDigits_toDigits n
    split
    · next rest hplus =>
      have hmem : '+' ∈ Nat.toDigits 10 n := by simp [hplus]
      exact absurd hmem (notMem_toDigits (by decide) n)
    · simp [hdigits, hlt]
  simp [readNumber, hread, hpos]

/-- A number is made of digits, with a plus sign in front or none. -/
theorem isDigit_of_readNumber {s : List Char} {n : Nat} (h : readNumber s = some n) {c : Char}
    (hc : c ∈ s) : c = '+' ∨ c.isDigit = true := by
  unfold readNumber readNatBelow at h
  have hdigits : ∀ {digits : List Char}, ((readDigits digits).filter (· < bound64)).filter
      (0 < ·) = some n → ∀ c ∈ digits, c.isDigit = true := by
    intro digits hread
    cases hvalue : readDigits digits with
    | none => simp [hvalue] at hread
    | some m =>
        unfold readDigits at hvalue
        split at hvalue
        · next hall => simp_all
        · cases hvalue
  split at h
  · next rest =>
    rcases List.mem_cons.1 hc with rfl | hrest
    · exact .inl rfl
    · exact .inr (hdigits h c hrest)
  · exact .inr (hdigits h c hc)

/-- A text with another character is no number. -/
theorem readNumber_eq_none {s : List Char} {c : Char} (hc : c ∈ s) (hplus : c ≠ '+')
    (hdigit : c.isDigit = false) : readNumber s = none := by
  cases hread : readNumber s with
  | none => rfl
  | some n =>
      rcases isDigit_of_readNumber hread hc with heq | heq
      · exact absurd heq hplus
      · rw [hdigit] at heq
        cases heq

/-- Numbers of pull requests are positive and have at most 64 bits. -/
theorem readNumber_bounds {s : List Char} {n : Nat} (h : readNumber s = some n) :
    1 ≤ n ∧ n < bound64 := by
  unfold readNumber readNatBelow at h
  simp only [Option.filter_eq_some_iff, decide_eq_true_eq] at h
  omega

/-! ## Slugs -/

/-- The characters of `owner/repo#number`. -/
def slug (owner repo : List Char) (n : Nat) : List Char :=
  owner ++ '/' :: (repo ++ '#' :: Nat.toDigits 10 n)

/-- A reference is displayed as its slug. -/
theorem toList_display (pr : PullRequestRef) :
    pr.display.toList = slug pr.owner.toList pr.repo.toList pr.number := by
  simp [display, slug]

/-- The names of the code host in an address. -/
def IsHost (s : List Char) : Prop :=
  s = "github.com".toList ∨ s = "www.github.com".toList

instance (s : List Char) : Decidable (IsHost s) :=
  inferInstanceAs (Decidable (_ ∨ _))

/-- A text begins with a name and a slash exactly if the name stands before its first slash. -/
theorem dropLeading_name {name first : List Char} (hname : '/' ∉ name) (hfirst : '/' ∉ first)
    (rest : List Char) :
    dropLeading (name ++ ['/']) (first ++ '/' :: rest) =
      if first = name then some rest else none := by
  by_cases heq : first = name
  · simp [heq, dropLeading_eq_some_iff]
  · rw [if_neg heq, Option.eq_none_iff_forall_ne_some]
    intro after hafter
    rw [dropLeading_eq_some_iff, List.append_assoc, List.singleton_append,
      append_cons_inj hfirst hname] at hafter
    exact heq hafter.1

/-- A text whose first slash stands alone begins with no scheme. -/
theorem dropLeading_scheme {scheme first rest : List Char} (hscheme : '/' ∉ scheme)
    (hfirst : '/' ∉ first) (hrest : rest.head? ≠ some '/') :
    dropLeading (scheme ++ ['/', '/']) (first ++ '/' :: rest) = none := by
  rw [Option.eq_none_iff_forall_ne_some]
  intro after hafter
  rw [dropLeading_eq_some_iff, List.append_assoc, List.cons_append,
    append_cons_inj hfirst hscheme] at hafter
  simp [hafter.2] at hrest

/-- A text whose first slash stands alone is an address exactly if a host stands before it. -/
theorem dropHost_append {first rest : List Char} (hfirst : '/' ∉ first)
    (hrest : rest.head? ≠ some '/') :
    dropHost (first ++ '/' :: rest) = if IsHost first then some rest else none := by
  have hhttps : dropLeading ("https:".toList ++ ['/', '/']) (first ++ '/' :: rest) = none :=
    dropLeading_scheme (by decide) hfirst hrest
  have hhttp : dropLeading ("http:".toList ++ ['/', '/']) (first ++ '/' :: rest) = none :=
    dropLeading_scheme (by decide) hfirst hrest
  have hname : '/' ∉ "github.com".toList := by decide
  have hname' : '/' ∉ "www.github.com".toList := by decide
  have hbare : dropHost (first ++ '/' :: rest) =
      (dropLeading ("www.github.com".toList ++ ['/']) (first ++ '/' :: rest)).or
        (dropLeading ("github.com".toList ++ ['/']) (first ++ '/' :: rest)) := by
    unfold dropHost
    rw [show "https://".toList = "https:".toList ++ ['/', '/'] from rfl,
      show "http://".toList = "http:".toList ++ ['/', '/'] from rfl, hhttps, hhttp]
    rfl
  rw [hbare, dropLeading_name hname' hfirst, dropLeading_name hname hfirst]
  by_cases hw : first = "www.github.com".toList
  · have hhost : IsHost first := Or.inr hw
    rw [if_pos hw, if_pos hhost, Option.some_or]
  · by_cases hp : first = "github.com".toList
    · have hhost : IsHost first := Or.inl hp
      rw [if_neg hw, if_pos hp, if_pos hhost, Option.none_or]
    · have hother : ¬ IsHost first := not_or.2 ⟨hp, hw⟩
      rw [if_neg hw, if_neg hp, if_neg hother, Option.none_or]

/-- A text with a slash is an address or a slug. -/
theorem ofTrimmed?_of_mem_slash {s : List Char} (hs : '/' ∈ s) (owner repo : Option String) :
    ofTrimmed? s owner repo = (dropHost s).elim (ofSlug s) ofAddress := by
  have hnumber : ∀ {t : List Char}, '/' ∈ t → readNumber t = none := fun ht =>
    readNumber_eq_none ht (by decide) (by decide)
  unfold ofTrimmed?
  split
  · next rest =>
    have hrest : '/' ∈ rest := by simpa using hs
    dsimp only
    rw [hnumber hrest]
    cases dropHost ('#' :: rest) <;> rfl
  · dsimp only
    rw [hnumber hs]
    cases dropHost s <;> rfl

/-- How a slug is read: the parts before and behind its slash are those that it is made of,
unless one of them has a hash sign. -/
theorem ofSlug_slug {first second : List Char} (hfirst : '/' ∉ first) (hsecond : '/' ∉ second)
    (hne : second ≠ []) {n : Nat} (hpos : 1 ≤ n) (hlt : n < bound64) :
    ofSlug (slug first second n) =
      if first = [] ∨ '#' ∈ first ∨ '#' ∈ second then none
      else some ⟨String.ofList first, String.ofList second, n⟩ := by
  by_cases hhash : '#' ∈ first
  · obtain ⟨before, after, rfl, hbefore⟩ := List.eq_append_cons_of_mem hhash
    have hcut : splitOnce '#' (slug (before ++ '#' :: after) second n) =
        some (before, after ++ '/' :: (second ++ '#' :: Nat.toDigits 10 n)) := by
      rw [slug, List.append_assoc]
      exact splitOnce_append _ hbefore
    have hslash : '/' ∉ before := fun hmem => hfirst (List.mem_append_left _ hmem)
    simp [ofSlug, hcut, splitOnce_eq_none hslash]
  · by_cases hhash' : '#' ∈ second
    · obtain ⟨before, after, rfl, hbefore⟩ := List.eq_append_cons_of_mem hhash'
      have hcut : splitOnce '#' (slug first (before ++ '#' :: after) n) =
          some (first ++ '/' :: before, after ++ '#' :: Nat.toDigits 10 n) := by
        rw [slug, List.append_assoc, ← List.cons_append, ← List.append_assoc]
        apply splitOnce_append
        simp [hhash, hbefore]
      have hnumber : readNumber (after ++ '#' :: Nat.toDigits 10 n) = none :=
        readNumber_eq_none (c := '#') (by simp) (by decide) (by decide)
      simp [ofSlug, hcut, splitOnce_append before hfirst, hnumber]
    · have hcut : splitOnce '#' (slug first second n) =
          some (first ++ '/' :: second, Nat.toDigits 10 n) := by
        rw [slug, ← List.cons_append, ← List.append_assoc]
        apply splitOnce_append
        simp [hhash, hhash']
      simp [ofSlug, hcut, splitOnce_append second hfirst, readNumber_toDigits hpos hlt, hhash,
        hhash', hne, hsecond]

/-- What a text of the form of a slug reads as, with any defaults: as its parts, unless the
first one is empty or a host, or one of them has a hash sign. -/
theorem ofTrimmed?_slug {first second : List Char} (hfirst : '/' ∉ first) (hsecond : '/' ∉ second)
    (hne : second ≠ []) {n : Nat} (hpos : 1 ≤ n) (hlt : n < bound64)
    (owner repo : Option String) :
    ofTrimmed? (slug first second n) owner repo =
      if IsHost first ∨ first = [] ∨ '#' ∈ first ∨ '#' ∈ second then none
      else some ⟨String.ofList first, String.ofList second, n⟩ := by
  have hslash : '/' ∉ second ++ '#' :: Nat.toDigits 10 n := by
    simp [hsecond, notMem_toDigits (c := '/') (by decide) n]
  have hhead : (second ++ '#' :: Nat.toDigits 10 n).head? ≠ some '/' := fun hhead =>
    hslash (List.mem_of_mem_head? hhead)
  have hhost : dropHost (slug first second n) =
      if IsHost first then some (second ++ '#' :: Nat.toDigits 10 n) else none :=
    dropHost_append hfirst hhead
  rw [ofTrimmed?_of_mem_slash (by simp [slug]), hhost]
  by_cases h : IsHost first
  · simp [h, ofAddress, fields_of_notMem hslash]
  · simp [h, ofSlug_slug hfirst hsecond hne hpos hlt]

/-- A text that ends in a number does not end in a blank. -/
theorem isBlank_of_getLast?_toDigits {s : List Char} {n : Nat} :
    ∀ c ∈ (s ++ Nat.toDigits 10 n).getLast?, isBlank c = false := by
  intro c hc
  rw [List.getLast?_append_of_ne_nil _ Nat.toDigits_ne_nil] at hc
  exact isBlank_of_isDigit (isDigit_of_mem_toDigits (List.mem_of_getLast? hc))

/-- Trimming a slug takes the blanks off its first part. -/
theorem trim_slug (first second : List Char) (n : Nat) :
    trim (slug first second n) = slug (trimStart first) second n := by
  have hend : slug (trimStart first) second n =
      (trimStart first ++ '/' :: (second ++ ['#'])) ++ Nat.toDigits 10 n := by
    simp [slug]
  rw [trim, slug, trimStart_append_cons (by decide), ← slug, hend]
  exact trimEnd_eq_self isBlank_of_getLast?_toDigits

/-! ## Displayed references -/

/-- A reference that a text can name. -/
structure IsWellFormed (pr : PullRequestRef) : Prop where
  owner_ne : pr.owner ≠ ""
  repo_ne : pr.repo ≠ ""
  owner_slash : '/' ∉ pr.owner.toList
  repo_slash : '/' ∉ pr.repo.toList
  number_pos : 1 ≤ pr.number
  number_lt : pr.number < bound64

namespace IsWellFormed

theorem toList_owner_ne {pr : PullRequestRef} (hpr : pr.IsWellFormed) : pr.owner.toList ≠ [] :=
  mt String.toList_eq_nil_iff.1 hpr.owner_ne

theorem toList_repo_ne {pr : PullRequestRef} (hpr : pr.IsWellFormed) : pr.repo.toList ≠ [] :=
  mt String.toList_eq_nil_iff.1 hpr.repo_ne

end IsWellFormed

/-- A reference that its display names: neither name has a hash sign, and the owner neither
begins with a blank nor is the code host. -/
structure IsDisplayable (pr : PullRequestRef) : Prop where
  owner_hash : '#' ∉ pr.owner.toList
  repo_hash : '#' ∉ pr.repo.toList
  owner_head : ∀ c ∈ pr.owner.toList.head?, isBlank c = false
  owner_host : ¬ IsHost pr.owner.toList

/-- How a displayed reference is read: the blanks in front of its owner are lost, and nothing
is left to read if the rest is empty or a host, or a name has a hash sign. -/
theorem ofText?_display {pr : PullRequestRef} (hpr : pr.IsWellFormed)
    (owner repo : Option String) :
    ofText? pr.display owner repo =
      if IsHost (trimStart pr.owner.toList) ∨ trimStart pr.owner.toList = [] ∨
          '#' ∈ trimStart pr.owner.toList ∨ '#' ∈ pr.repo.toList then none
      else some ⟨String.ofList (trimStart pr.owner.toList), pr.repo, pr.number⟩ := by
  have hfirst : '/' ∉ trimStart pr.owner.toList := fun hmem =>
    hpr.owner_slash ((List.dropWhile_suffix isBlank).subset hmem)
  rw [ofText?, toList_display, trim_slug,
    ofTrimmed?_slug hfirst hpr.repo_slash hpr.toList_repo_ne hpr.number_pos hpr.number_lt,
    String.ofList_toList]

/-- The display of a reference reads as it exactly if it is displayable, with any defaults. -/
theorem ofText?_display_iff {pr : PullRequestRef} (hpr : pr.IsWellFormed)
    (owner repo : Option String) :
    ofText? pr.display owner repo = some pr ↔ pr.IsDisplayable := by
  rw [ofText?_display hpr]
  constructor
  · intro h
    split at h
    · cases h
    · next hclear =>
      simp only [not_or] at hclear
      obtain ⟨hhost, -, howner, hrepo⟩ := hclear
      have hname : String.ofList (trimStart pr.owner.toList) = pr.owner :=
        congrArg PullRequestRef.owner (Option.some.inj h)
      have hsame : trimStart pr.owner.toList = pr.owner.toList := by
        simpa using congrArg String.toList hname
      have hhead := List.head?_dropWhile_not isBlank pr.owner.toList
      rw [← trimStart, hsame] at hhead
      rw [hsame] at hhost howner
      refine ⟨howner, hrepo, ?_, hhost⟩
      intro c hc
      rw [hc] at hhead
      simpa using hhead
  · intro h
    rw [trimStart_eq_self h.owner_head, if_neg]
    · simp
    · simp [h.owner_host, h.owner_hash, h.repo_hash, hpr.owner_ne]

/-! ## Addresses -/

/-- What stands in an address before the name of the host. -/
inductive Scheme where
  | bare
  | http
  | https
  deriving DecidableEq, Repr

/-- The characters of a scheme. -/
def Scheme.spell : Scheme → List Char
  | .bare => []
  | .http => "http://".toList
  | .https => "https://".toList

/-- A way to write the address of a page. -/
structure AddressStyle where
  /-- The scheme. -/
  scheme : Scheme
  /-- Whether the host is written with `www`. -/
  www : Bool
  /-- How many slashes more than needed stand before the owner. -/
  beforeOwner : Nat
  /-- How many slashes more than needed stand before the repository. -/
  beforeRepo : Nat
  /-- How many slashes more than needed stand before `pull`. -/
  beforePull : Nat
  /-- How many slashes more than needed stand before the number. -/
  beforeNumber : Nat
  /-- The segments behind the number; empty ones are slashes at the end. -/
  further : List (List Char)
  deriving DecidableEq, Repr

namespace AddressStyle

/-- The scheme and the host of an address. -/
def host (style : AddressStyle) : List Char :=
  style.scheme.spell ++ if style.www then "www.github.com/".toList else "github.com/".toList

/-- The path of an address up to the number. -/
def path (style : AddressStyle) (pr : PullRequestRef) : List Char :=
  List.replicate style.beforeOwner '/' ++ pr.owner.toList ++
    List.replicate (style.beforeRepo + 1) '/' ++ pr.repo.toList ++
    List.replicate (style.beforePull + 1) '/' ++ "pull".toList ++
    List.replicate (style.beforeNumber + 1) '/' ++ Nat.toDigits 10 pr.number

/-- The address of the page of a pull request. -/
def address (style : AddressStyle) (pr : PullRequestRef) : String :=
  String.ofList (style.host ++ style.path pr ++ style.further.flatMap ('/' :: ·))

end AddressStyle

/-- The host of an address is recognised in every style. -/
theorem dropHost_host (style : AddressStyle) (rest : List Char) :
    dropHost (style.host ++ rest) = some rest := by
  obtain ⟨scheme, www⟩ := style
  cases scheme <;> cases www <;> rfl

/-- The segments of a path, without the empty ones. -/
def segments (s : List Char) : List (List Char) :=
  (fields (· == '/') s).filter (· ≠ [])

/-- Slashes in front do not count. -/
theorem segments_replicate_append (k : Nat) (s : List Char) :
    segments (List.replicate k '/' ++ s) = segments s := by
  induction k with
  | zero => rfl
  | succ k ih =>
      rw [← ih]
      simp [segments, List.replicate_succ, fields]

/-- A name is the segment before the next slashes. -/
theorem segments_append_replicate {name : List Char} (hname : '/' ∉ name) (hne : name ≠ [])
    (k : Nat) (rest : List Char) :
    segments (name ++ (List.replicate (k + 1) '/' ++ rest)) = name :: segments rest := by
  rw [← segments_replicate_append k rest, List.replicate_succ, List.cons_append]
  simp [segments, fields_append_cons, fields_of_notMem hname, hne]

/-- A name at the end of a path, or before a slash, is its next segment. -/
theorem exists_segments_append {name : List Char} (hname : '/' ∉ name) (hne : name ≠ [])
    {tail : List Char} (htail : tail = [] ∨ ∃ rest, tail = '/' :: rest) :
    ∃ more, segments (name ++ tail) = name :: more := by
  rcases htail with rfl | ⟨rest, rfl⟩
  · exact ⟨[], by simp [segments, fields_of_notMem hname, hne]⟩
  · exact ⟨_, segments_append_replicate hname hne 0 rest⟩

/-- The segments of an address that name a pull request. -/
theorem ofAddress_of_segments {rest owner repo number : List Char} {more : List (List Char)}
    (h : segments rest = owner :: repo :: "pull".toList :: number :: more) :
    ofAddress rest =
      (readNumber number).map fun n => ⟨String.ofList owner, String.ofList repo, n⟩ := by
  unfold ofAddress
  rw [← segments, h]
  rfl

/-- What stands behind the host in an address is read as the reference that it is made of. -/
theorem ofAddress_path {pr : PullRequestRef} (hpr : pr.IsWellFormed) (style : AddressStyle)
    {tail : List Char} (htail : tail = [] ∨ ∃ rest, tail = '/' :: rest) :
    ofAddress (style.path pr ++ tail) = some pr := by
  have hslash : '/' ∉ Nat.toDigits 10 pr.number := notMem_toDigits (by decide) pr.number
  obtain ⟨more, hmore⟩ := exists_segments_append hslash Nat.toDigits_ne_nil htail
  have hsegments : segments (style.path pr ++ tail) = pr.owner.toList :: pr.repo.toList ::
      "pull".toList :: Nat.toDigits 10 pr.number :: more := by
    simp only [AddressStyle.path, List.append_assoc]
    rw [segments_replicate_append, segments_append_replicate hpr.owner_slash hpr.toList_owner_ne,
      segments_append_replicate hpr.repo_slash hpr.toList_repo_ne,
      segments_append_replicate (by decide) (by decide), hmore]
  rw [ofAddress_of_segments hsegments, readNumber_toDigits hpr.number_pos hpr.number_lt]
  simp

/-- An address does not begin with a blank. -/
theorem isBlank_of_head?_host (style : AddressStyle) (rest : List Char) :
    ∀ c ∈ (style.host ++ rest).head?, isBlank c = false := by
  have hhost : ∃ first more, style.host = first :: more ∧ isBlank first = false := by
    obtain ⟨scheme, www⟩ := style
    cases scheme <;> cases www <;> exact ⟨_, _, rfl, by decide⟩
  obtain ⟨first, more, hfirst, hblank⟩ := hhost
  simp [hfirst, hblank]

/-- Trimming an address reaches no further than the segments behind the number. -/
theorem exists_trim_address (style : AddressStyle) (pr : PullRequestRef) :
    ∃ tail, (tail = [] ∨ ∃ rest, tail = '/' :: rest) ∧
      trim (style.address pr).toList = style.host ++ (style.path pr ++ tail) := by
  refine ⟨trimEnd (style.further.flatMap ('/' :: ·)), ?_, ?_⟩
  · cases style.further with
    | nil => exact .inl rfl
    | cons segment others => exact .inr ⟨_, trimEnd_cons (by decide) _⟩
  · rw [AddressStyle.address, String.toList_ofList, trim, List.append_assoc,
      trimStart_eq_self (isBlank_of_head?_host style _), ← List.append_assoc,
      trimEnd_append, List.append_assoc]
    rw [AddressStyle.path, ← List.append_assoc]
    exact isBlank_of_getLast?_toDigits

/-- An address is read as the reference that it is made of, in every style and with any
defaults. -/
theorem ofText?_address {pr : PullRequestRef} (hpr : pr.IsWellFormed) (style : AddressStyle)
    (owner repo : Option String) : ofText? (style.address pr) owner repo = some pr := by
  obtain ⟨tail, htail, htrim⟩ := exists_trim_address style pr
  have hslash : '/' ∈ style.host ++ (style.path pr ++ tail) := by
    simp [AddressStyle.path]
  rw [ofText?, htrim, ofTrimmed?_of_mem_slash hslash, dropHost_host]
  exact ofAddress_path hpr style htail

/-! ## Ordinary references -/

/-- The characters of a name of an owner. -/
def isOwnerChar (c : Char) : Bool :=
  c.isAlphanum || c == '-'

/-- The characters of a name of a repository. -/
def isRepoChar (c : Char) : Bool :=
  c.isAlphanum || c == '.' || c == '_' || c == '-'

/-- A reference with the names that a code host gives out. -/
structure IsOrdinary (pr : PullRequestRef) : Prop where
  owner_ne : pr.owner ≠ ""
  owner_chars : pr.owner.toList.all isOwnerChar = true
  repo_ne : pr.repo ≠ ""
  repo_chars : pr.repo.toList.all isRepoChar = true
  number_pos : 1 ≤ pr.number
  number_lt : pr.number < bound64

namespace IsOrdinary

variable {pr : PullRequestRef}

/-- Another character does not stand in the name of the owner. -/
theorem notMem_owner (hpr : pr.IsOrdinary) {c : Char} (hc : isOwnerChar c = false) :
    c ∉ pr.owner.toList := by
  intro hmem
  have hchar := List.all_eq_true.1 hpr.owner_chars c hmem
  simp [hc] at hchar

/-- Another character does not stand in the name of the repository. -/
theorem notMem_repo (hpr : pr.IsOrdinary) {c : Char} (hc : isRepoChar c = false) :
    c ∉ pr.repo.toList := by
  intro hmem
  have hchar := List.all_eq_true.1 hpr.repo_chars c hmem
  simp [hc] at hchar

theorem isWellFormed (hpr : pr.IsOrdinary) : pr.IsWellFormed where
  owner_ne := hpr.owner_ne
  repo_ne := hpr.repo_ne
  owner_slash := hpr.notMem_owner (by decide)
  repo_slash := hpr.notMem_repo (by decide)
  number_pos := hpr.number_pos
  number_lt := hpr.number_lt

/-- The owner is not the host, which has a dot in its name. -/
theorem isDisplayable (hpr : pr.IsOrdinary) : pr.IsDisplayable where
  owner_hash := hpr.notMem_owner (by decide)
  repo_hash := hpr.notMem_repo (by decide)
  owner_head := by
    intro c hc
    have hchar := List.all_eq_true.1 hpr.owner_chars c (List.mem_of_mem_head? hc)
    apply isBlank_of_isNameChar
    simp only [isOwnerChar, Bool.or_eq_true] at hchar
    simp only [isNameChar, Bool.or_eq_true]
    tauto
  owner_host := by
    intro hhost
    have hdot : '.' ∉ pr.owner.toList := hpr.notMem_owner (by decide)
    rcases hhost with heq | heq <;> simp [heq] at hdot

end IsOrdinary

/-! ## All spellings -/

/-- Blanks around a reference do not matter. -/
theorem ofText?_padded {before after : String} (hbefore : ∀ c ∈ before.toList, isBlank c = true)
    (hafter : ∀ c ∈ after.toList, isBlank c = true) (text : String) (owner repo : Option String) :
    ofText? (before ++ text ++ after) owner repo = ofText? text owner repo := by
  rw [ofText?, String.toList_append, String.toList_append, trim_append_blank _ _ hafter,
    trim_append hbefore, ← ofText?]

/-- A number names a pull request of the default repository. -/
theorem ofText?_number {n : Nat} (hpos : 1 ≤ n) (hlt : n < bound64) (owner repo : Option String) :
    ofText? (toString n) owner repo = inDefault owner repo n := by
  have htrim : trim (Nat.toDigits 10 n) = Nat.toDigits 10 n := by
    apply trim_eq_self
    · intro c hc
      exact isBlank_of_isDigit (isDigit_of_mem_toDigits (List.mem_of_mem_head? hc))
    · exact isBlank_of_getLast?_toDigits (s := [])
  have hsign : ∀ rest, Nat.toDigits 10 n ≠ '#' :: rest := by
    intro rest hhash
    have hmem : '#' ∈ Nat.toDigits 10 n := by simp [hhash]
    exact notMem_toDigits (by decide) n hmem
  have hchars : (toString n).toList = Nat.toDigits 10 n := by simp
  rw [ofText?, hchars, htrim, ofTrimmed?]
  simp [readNumber_toDigits hpos hlt]
  exact hsign

/-- So does a number behind a hash sign. -/
theorem ofText?_hash_number {n : Nat} (hpos : 1 ≤ n) (hlt : n < bound64)
    (owner repo : Option String) :
    ofText? ("#" ++ toString n) owner repo = inDefault owner repo n := by
  have htrim : trim ('#' :: Nat.toDigits 10 n) = '#' :: Nat.toDigits 10 n := by
    apply trim_eq_self
    · simp only [List.head?_cons, Option.mem_def, Option.some.injEq, forall_eq']
      decide
    · exact isBlank_of_getLast?_toDigits (s := ['#'])
  have hchars : ("#" ++ toString n).toList = '#' :: Nat.toDigits 10 n := by simp
  rw [ofText?, hchars, htrim, ofTrimmed?]
  simp [readNumber_toDigits hpos hlt]

/-- All spellings of a reference agree, whatever blanks stand around them: its slug and its
address in every style are read as it with any defaults, and its number with the defaults that
are its own. -/
theorem ofText?_spellings {pr : PullRequestRef} (hpr : pr.IsOrdinary) {before after : String}
    (hbefore : ∀ c ∈ before.toList, isBlank c = true)
    (hafter : ∀ c ∈ after.toList, isBlank c = true) :
    (∀ owner repo, ofText? (before ++ (pr.owner ++ "/" ++ pr.repo ++ "#" ++ toString pr.number) ++
      after) owner repo = some pr) ∧
    (∀ style owner repo,
      ofText? (before ++ AddressStyle.address style pr ++ after) owner repo = some pr) ∧
    ofText? (before ++ toString pr.number ++ after) (some pr.owner) (some pr.repo) = some pr ∧
    ofText? (before ++ ("#" ++ toString pr.number) ++ after) (some pr.owner) (some pr.repo) =
      some pr ∧
    ∀ owner repo, ofText? pr.display owner repo = some pr := by
  have hslug : ∀ owner repo, ofText? pr.display owner repo = some pr := fun owner repo =>
    (ofText?_display_iff hpr.isWellFormed owner repo).2 hpr.isDisplayable
  have hdefault : inDefault (some pr.owner) (some pr.repo) pr.number = some pr := by
    simp [inDefault, hpr.owner_ne, hpr.repo_ne]
  simp only [ofText?_padded hbefore hafter]
  refine ⟨hslug, ?_, ?_, ?_, hslug⟩
  · exact ofText?_address hpr.isWellFormed
  · rw [ofText?_number hpr.number_pos hpr.number_lt, hdefault]
  · rw [ofText?_hash_number hpr.number_pos hpr.number_lt, hdefault]

/-- Names made of digits, and the greatest number, are read in every spelling. -/
theorem ofText?_spellings_digits :
    (mk "7" "1.0" 18446744073709551615).IsOrdinary ∧
    ofText? " 7/1.0#18446744073709551615\n" (some "acme") none =
      some ⟨"7", "1.0", 18446744073709551615⟩ ∧
    ofText? " http://www.github.com//7/1.0///pull/18446744073709551615/files//\n" none none =
      some ⟨"7", "1.0", 18446744073709551615⟩ ∧
    ofText? " #18446744073709551615\n" (some "7") (some "1.0") =
      some ⟨"7", "1.0", 18446744073709551615⟩ := by
  have hordinary : (mk "7" "1.0" 18446744073709551615).IsOrdinary :=
    ⟨by decide, by decide, by decide, by decide, by decide, by decide⟩
  have hbefore : ∀ c ∈ " ".toList, isBlank c = true := List.forall_mem_singleton.2 (by decide)
  have hafter : ∀ c ∈ "\n".toList, isBlank c = true := List.forall_mem_singleton.2 (by decide)
  obtain ⟨hslug, haddress, -, hnumber, -⟩ := ofText?_spellings hordinary hbefore hafter
  exact ⟨hordinary, hslug (some "acme") none,
    haddress ⟨.http, true, 1, 0, 2, 0, ["files".toList, [], []]⟩ none none, hnumber⟩

end PatchReview.PullRequestRef
