import PatchReview.Proofs.ReferenceSpellings

/-!
# References that are printed again

What is read as a reference has names that are not empty and have no slash, and a positive
number.  Its display is again a slug.  A slug is read in such a way that its display is read
back.  An address is not: the segments of its path may be names that no slug has.

Main results:

- Theorem `PullRequestRef.isSlugOf_of_ofSlug`: what is read as a slug.
- Theorem `PullRequestRef.isWellFormed_of_ofAddress`: what is read as an address.
- Theorem `PullRequestRef.ofText?_printed`: what every reference that is read satisfies, and
  which of them are read back from their display.
-/

namespace PatchReview.PullRequestRef

open Text

/-! ## What the two long forms let through -/

/-- A slug of a reference: its names are not empty, and hold neither of the separators. -/
structure IsSlugOf (pr : PullRequestRef) (s : List Char) : Prop where
  isWellFormed : pr.IsWellFormed
  owner_hash : '#' ∉ pr.owner.toList
  repo_hash : '#' ∉ pr.repo.toList
  eq_append : ∃ number, s = pr.owner.toList ++ '/' :: (pr.repo.toList ++ '#' :: number)

/-- What is read as a slug is a slug of what it is read as. -/
theorem isSlugOf_of_ofSlug {s : List Char} {pr : PullRequestRef} (h : ofSlug s = some pr) :
    pr.IsSlugOf s := by
  simp only [ofSlug, Option.bind_eq_bind, Option.bind_eq_some_iff] at h
  obtain ⟨⟨names, number⟩, hhash, ⟨owner, repo⟩, hslash, n, hnumber, hread⟩ := h
  split at hread
  · cases hread
  · next hclear =>
    simp only [not_or] at hclear
    obtain ⟨howner, hrepo, hrepoSlash⟩ := hclear
    obtain rfl : ⟨String.ofList owner, String.ofList repo, n⟩ = pr := Option.some.inj hread
    have hnames : names = owner ++ '/' :: repo := eq_append_of_splitOnce hslash
    have hnone : '#' ∉ owner ++ '/' :: repo := hnames ▸ notMem_of_splitOnce hhash
    simp only [List.mem_append, List.mem_cons, not_or] at hnone
    have hbounds := readNumber_bounds hnumber
    refine ⟨⟨?_, ?_, ?_, ?_, hbounds.1, hbounds.2⟩, ?_, ?_, number, ?_⟩
    · simpa using howner
    · simpa using hrepo
    · simpa using notMem_of_splitOnce hslash
    · simpa using hrepoSlash
    · simpa using hnone.1
    · simpa using hnone.2.2
    · simp [eq_append_of_splitOnce hhash, hnames]

/-- The names that are read from an address are segments of its path: they are not empty and
have no slash, and that is all. -/
theorem isWellFormed_of_ofAddress {rest : List Char} {pr : PullRequestRef}
    (h : ofAddress rest = some pr) : pr.IsWellFormed := by
  unfold ofAddress at h
  rw [← segments] at h
  split at h
  · next owner repo number more hsegments =>
    obtain ⟨n, hnumber, rfl⟩ := Option.map_eq_some_iff.1 h
    have hsegment : ∀ name ∈ segments rest, name ≠ [] ∧ '/' ∉ name := by
      intro name hname
      obtain ⟨hfield, hne⟩ := List.mem_filter.1 hname
      exact ⟨by simpa using hne, notMem_of_mem_fields hfield⟩
    have howner := hsegment owner (by simp [hsegments])
    have hrepo := hsegment repo (by simp [hsegments])
    have hbounds := readNumber_bounds hnumber
    exact ⟨by simpa using howner.1, by simpa using hrepo.1, by simpa using howner.2,
      by simpa using hrepo.2, hbounds.1, hbounds.2⟩
  · cases h

/-- Without defaults, a reference is read from a slug or from an address. -/
theorem ofSlug_or_ofAddress {s : List Char} {pr : PullRequestRef}
    (h : ofTrimmed? s none none = some pr) :
    (dropHost s = none ∧ ofSlug s = some pr) ∨
      ∃ rest, dropHost s = some rest ∧ ofAddress rest = some pr := by
  unfold ofTrimmed? at h
  dsimp only at h
  split at h
  · cases h
  · split at h
    · next rest hhost => exact .inr ⟨rest, hhost, h⟩
    · next hhost => exact .inl ⟨hhost, h⟩

/-- A slug of a reference that is no address and does not begin with a blank has names that its
display names. -/
theorem IsSlugOf.isDisplayable {s : List Char} {pr : PullRequestRef} (h : pr.IsSlugOf s)
    (hhost : dropHost s = none) (hhead : ∀ c ∈ s.head?, isBlank c = false) :
    pr.IsDisplayable := by
  obtain ⟨hpr, howner, hrepo, number, rfl⟩ := h
  refine ⟨howner, hrepo, ?_, ?_⟩
  · intro c hc
    apply hhead c
    simp [List.head?_append, Option.mem_def.1 hc]
  · intro hname
    have hafter : (pr.repo.toList ++ '#' :: number).head? ≠ some '/' := by
      intro hslash
      rw [List.head?_append_of_ne_nil _ hpr.toList_repo_ne] at hslash
      exact hpr.repo_slash (List.mem_of_mem_head? hslash)
    rw [dropHost_append hpr.owner_slash hafter, if_pos hname] at hhost
    cases hhost

/-! ## Printing what was read -/

/-- A reference that is read without defaults has names that are not empty and have no slash,
and a positive number.  Its display is read as it exactly if neither name has a hash sign, and
the owner neither begins with a blank nor is the code host.  This holds of every reference that
is read from a slug. -/
theorem ofText?_printed {text : String} {pr : PullRequestRef}
    (h : ofText? text none none = some pr) :
    pr.IsWellFormed ∧
    (ofText? pr.display none none = some pr ↔ pr.IsDisplayable) ∧
    (dropHost (trim text.toList) = none → pr.IsDisplayable) := by
  rcases ofSlug_or_ofAddress h with ⟨hhost, hslug⟩ | ⟨rest, hhost, haddress⟩
  · have hslug := isSlugOf_of_ofSlug hslug
    refine ⟨hslug.isWellFormed, ofText?_display_iff hslug.isWellFormed none none, fun _ => ?_⟩
    exact hslug.isDisplayable hhost fun c hc => isBlank_of_mem_head?_trim hc
  · have hpr := isWellFormed_of_ofAddress haddress
    refine ⟨hpr, ofText?_display_iff hpr none none, fun hnone => ?_⟩
    rw [hnone] at hhost
    cases hhost

/-- A reference that is read from an address, and again from its display. -/
theorem ofText?_printed_files :
    (mk "acme" "widgets" 7).IsWellFormed ∧
    ofText? "www.github.com/acme/widgets/pull/7/files" none none = some ⟨"acme", "widgets", 7⟩ ∧
    ofText? "acme/widgets#7" none none = some ⟨"acme", "widgets", 7⟩ := by
  have hread : ofText? "www.github.com/acme/widgets/pull/7/files" none none =
      some ⟨"acme", "widgets", 7⟩ := by decide
  have hordinary : (mk "acme" "widgets" 7).IsOrdinary :=
    ⟨by decide, by decide, by decide, by decide, by decide, by decide⟩
  obtain ⟨hpr, hdisplay, -⟩ := ofText?_printed hread
  exact ⟨hpr, hread, hdisplay.2 hordinary.isDisplayable⟩

/-- A repository with a hash sign in its name is read from an address, and not from the display
of the reference. -/
theorem not_ofText?_display_hash :
    ofText? "https://github.com/acme/widgets#readme/pull/7" none none =
      some ⟨"acme", "widgets#readme", 7⟩ ∧
    ofText? (mk "acme" "widgets#readme" 7).display none none = none := by
  decide

end PatchReview.PullRequestRef
