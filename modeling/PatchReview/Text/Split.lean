/-!
# Splitting a text at a character

`splitOnce` cuts at the first occurrence of a separator, `fields` at every
character that a test picks out.  A text without separator is one field, so
`fields` never answers the empty list.

Main statements:

- `fields_append_cons`: the fields on both sides of a separator.
- `fields_intercalate`: joined texts without separator are the fields of what they join to.
- `intercalate_fields`: the fields of a text join to it.
- `notMem_of_mem_fields`: fields have no separator.
- `span_append`: a text is cut where the characters of its first part end.
-/

namespace PatchReview.Text

/-- Cut at the first `sep`: what stands before it and what follows it. -/
def splitOnce (sep : Char) : List Char → Option (List Char × List Char)
  | [] => none
  | c :: rest =>
    if c = sep then some ([], rest)
    else (splitOnce sep rest).map fun (before, after) => (c :: before, after)

/-- Cut at every character that passes the test; neighbouring cuts leave empty
fields. -/
def fields (isSep : Char → Bool) : List Char → List (List Char)
  | [] => [[]]
  | c :: rest =>
    if isSep c then [] :: fields isSep rest
    else match fields isSep rest with
      | [] => [[c]]
      | first :: others => (c :: first) :: others

/-- Take `head` off the front of a text that begins with it. -/
def dropLeading : List Char → List Char → Option (List Char)
  | [], s => some s
  | _ :: _, [] => none
  | h :: head, c :: rest => if h = c then dropLeading head rest else none

/-- A text cut once is the two parts joined by the separator again. -/
theorem eq_append_of_splitOnce {sep : Char} {s before after : List Char}
    (h : splitOnce sep s = some (before, after)) : s = before ++ sep :: after := by
  induction s generalizing before with
  | nil => simp [splitOnce] at h
  | cons c rest ih =>
    by_cases hc : c = sep
    · simp_all [splitOnce]
    · simp only [splitOnce, if_neg hc, Option.map_eq_some_iff] at h
      obtain ⟨⟨b, a⟩, hr, he⟩ := h
      simp only [Prod.mk.injEq] at he
      obtain ⟨rfl, rfl⟩ := he
      simp [ih hr]

/-- The cut is the first one: the separator does not occur before it. -/
theorem notMem_of_splitOnce {sep : Char} {s before after : List Char}
    (h : splitOnce sep s = some (before, after)) : sep ∉ before := by
  induction s generalizing before with
  | nil => simp [splitOnce] at h
  | cons c rest ih =>
    by_cases hc : c = sep
    · simp_all [splitOnce]
    · simp only [splitOnce, if_neg hc, Option.map_eq_some_iff] at h
      obtain ⟨⟨b, a⟩, hr, he⟩ := h
      simp only [Prod.mk.injEq] at he
      obtain ⟨rfl, rfl⟩ := he
      simp [ih hr, Ne.symm hc]

/-- A text is cut at its first separator. -/
theorem splitOnce_append {sep : Char} {before : List Char} (after : List Char)
    (h : sep ∉ before) : splitOnce sep (before ++ sep :: after) = some (before, after) := by
  induction before with
  | nil => simp [splitOnce]
  | cons c rest ih =>
    have hc : c ≠ sep := fun e => h (by simp [e])
    have hr : sep ∉ rest := fun m => h (by simp [m])
    simp [splitOnce, hc, ih hr]

/-- What stands on both sides of the first separator is determined. -/
theorem append_cons_inj {sep : Char} {s t rest after : List Char} (hs : sep ∉ s) (ht : sep ∉ t) :
    s ++ sep :: rest = t ++ sep :: after ↔ s = t ∧ rest = after := by
  constructor
  · intro heq
    have hcut := splitOnce_append rest hs
    rw [heq, splitOnce_append after ht] at hcut
    simp_all
  · rintro ⟨rfl, rfl⟩
    rfl

/-- A text without separator is not cut. -/
theorem splitOnce_eq_none {sep : Char} {s : List Char} (h : sep ∉ s) : splitOnce sep s = none := by
  cases hcut : splitOnce sep s with
  | none => rfl
  | some cut =>
      rw [eq_append_of_splitOnce hcut] at h
      simp at h

theorem dropLeading_eq_some_iff {head s rest : List Char} :
    dropLeading head s = some rest ↔ s = head ++ rest := by
  induction head generalizing s with
  | nil => simp [dropLeading, eq_comm]
  | cons h head ih =>
    cases s with
    | nil => simp [dropLeading]
    | cons c s =>
      by_cases e : h = c
      · simp [dropLeading, e, ih]
      · simp [dropLeading, e, Ne.symm e]

/-- Taking a word off the front does not look behind the word. -/
theorem dropLeading_append_of_not_mem {head s : List Char} {c : Char} (t : List Char)
    (h : c ∉ head) :
    dropLeading head (s ++ c :: t) = (dropLeading head s).map (· ++ c :: t) := by
  induction head generalizing s with
  | nil => simp [dropLeading]
  | cons d head ih =>
      have hd : d ≠ c := fun e => h (by simp [e])
      have htail : c ∉ head := fun m => h (by simp [m])
      cases s with
      | nil => simp [dropLeading, hd]
      | cons e s =>
          by_cases he : d = e
          · simp [dropLeading, he, ih htail]
          · simp [dropLeading, he]

/-- A text is cut where the characters of its first part end. -/
theorem span_append {test : Char → Bool} {first rest : List Char}
    (hfirst : ∀ c ∈ first, test c = true) (hrest : ∀ c ∈ rest.head?, test c = false) :
    (first ++ rest).takeWhile test = first ∧ (first ++ rest).dropWhile test = rest := by
  rw [List.takeWhile_append_of_pos hfirst, List.dropWhile_append_of_pos hfirst]
  cases rest with
  | nil => simp
  | cons c rest =>
    have hc : test c = false := hrest c rfl
    simp [hc]

/-! ## Joining fields -/

theorem fields_ne_nil (isSep : Char → Bool) (s : List Char) : fields isSep s ≠ [] := by
  cases s with
  | nil => exact List.cons_ne_nil _ _
  | cons c rest =>
    rw [fields]
    split
    · exact List.cons_ne_nil _ _
    · split <;> exact List.cons_ne_nil _ _

/-- A text without separator is one field. -/
theorem fields_of_notMem {sep : Char} {s : List Char} (h : sep ∉ s) :
    fields (· == sep) s = [s] := by
  induction s with
  | nil => rfl
  | cons c rest ih =>
    rw [List.mem_cons, not_or] at h
    simp [fields, Ne.symm h.1, ih h.2]

/-- The fields on both sides of a separator. -/
theorem fields_append_cons (sep : Char) (first rest : List Char) :
    fields (· == sep) (first ++ sep :: rest) =
      fields (· == sep) first ++ fields (· == sep) rest := by
  induction first with
  | nil => simp [fields]
  | cons c first ih =>
    rw [List.cons_append, fields, fields, ih]
    split
    · rfl
    · cases hfirst : fields (· == sep) first with
      | nil => exact absurd hfirst (fields_ne_nil _ first)
      | cons part parts => rfl

/-- Texts without separator are the fields of what they join to. -/
theorem fields_intercalate {sep : Char} {parts : List (List Char)}
    (h : ∀ part ∈ parts, sep ∉ part) (hne : parts ≠ []) :
    fields (· == sep) ([sep].intercalate parts) = parts := by
  induction parts with
  | nil => exact absurd rfl hne
  | cons part parts ih =>
    obtain ⟨hpart, hparts⟩ := List.forall_mem_cons.1 h
    cases parts with
    | nil => rw [List.intercalate_singleton, fields_of_notMem hpart]
    | cons next parts =>
      rw [List.intercalate_cons_cons, List.append_assoc, List.singleton_append,
        fields_append_cons, fields_of_notMem hpart, ih hparts (List.cons_ne_nil _ _)]
      rfl

/-- The fields of a text have no separator. -/
theorem notMem_of_mem_fields {sep : Char} {s part : List Char} (h : part ∈ fields (· == sep) s) :
    sep ∉ part := by
  induction s generalizing part with
  | nil =>
      rw [List.mem_singleton.1 h]
      exact List.not_mem_nil
  | cons c rest ih =>
      rw [fields] at h
      split at h
      · rcases List.mem_cons.1 h with rfl | hrest
        · exact List.not_mem_nil
        · exact ih hrest
      · next hc =>
        have hne : sep ≠ c := fun heq => hc (by simp [heq])
        split at h
        · rw [List.mem_singleton.1 h]
          exact List.not_mem_cons_of_ne_of_not_mem hne List.not_mem_nil
        · next first others hrest =>
          rcases List.mem_cons.1 h with rfl | hmem
          · exact List.not_mem_cons_of_ne_of_not_mem hne
              (ih (hrest ▸ List.mem_cons_self))
          · exact ih (hrest ▸ List.mem_cons_of_mem _ hmem)

/-- A character that is in no part and not between them is not in what they join to. -/
theorem notMem_intercalate {c : Char} {sep : List Char} {parts : List (List Char)} (hsep : c ∉ sep)
    (h : ∀ part ∈ parts, c ∉ part) : c ∉ sep.intercalate parts := by
  induction parts with
  | nil => exact List.not_mem_nil
  | cons part parts ih =>
    obtain ⟨hpart, hparts⟩ := List.forall_mem_cons.1 h
    cases parts with
    | nil =>
      rw [List.intercalate_singleton]
      exact hpart
    | cons next parts =>
      rw [List.intercalate_cons_cons, List.mem_append, List.mem_append, not_or, not_or]
      exact ⟨⟨hpart, hsep⟩, ih hparts⟩

/-- The fields of a text join to it. -/
theorem intercalate_fields (sep : Char) (s : List Char) :
    [sep].intercalate (fields (· == sep) s) = s := by
  induction s with
  | nil => rfl
  | cons c rest ih =>
    rw [fields]
    cases hrest : fields (· == sep) rest with
    | nil => exact absurd hrest (fields_ne_nil _ rest)
    | cons first others =>
      rw [hrest] at ih
      split
      · next hc =>
        rw [List.intercalate_cons_cons, ih, beq_iff_eq.1 hc]
        rfl
      · dsimp only
        cases others with
        | nil =>
          rw [List.intercalate_singleton] at ih ⊢
          rw [ih]
        | cons next others =>
          rw [List.intercalate_cons_cons] at ih ⊢
          rw [← ih]
          rfl

end PatchReview.Text
