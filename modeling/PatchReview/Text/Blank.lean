/-!
# Blank characters and trimming

Blank characters are those with the `White_Space` property.  They decide what
trimming removes, which lines of a rule document are empty, and what may stand
around the signature of a posted comment.

Main statements:

- `trimStart_eq_self`, `trimEnd_eq_self` and `trim_eq_self`: a text whose ends
  are not blank is its own trim.
- `trimEnd_append_blank` and `trim_append_blank`: blanks added at the end do not outlive
  trimming it.
- `trim_append`: nor do blanks added at the front.
- `trimStart_append_cons` and `trimEnd_append_cons`: trimming stops at a character that is not
  blank.
- `IsTrimmed.trim_eq`: a text without blanks at its ends is not changed.
- `IsPadding.isBlank`: spaces and tabs are blanks.
-/

namespace PatchReview.Text

/-- Blank characters: the `White_Space` property, which holds of 25 code points. -/
def isBlank (c : Char) : Bool :=
  let n := c.toNat
  (9 ≤ n && n ≤ 13) || n == 0x20 || n == 0x85 || n == 0xA0 || n == 0x1680
    || (0x2000 ≤ n && n ≤ 0x200A) || n == 0x2028 || n == 0x2029 || n == 0x202F
    || n == 0x205F || n == 0x3000

/-- Drop the leading blanks. -/
def trimStart (s : List Char) : List Char :=
  s.dropWhile isBlank

/-- Drop the trailing blanks. -/
def trimEnd (s : List Char) : List Char :=
  (s.reverse.dropWhile isBlank).reverse

/-- Drop the blanks at both ends. -/
def trim (s : List Char) : List Char :=
  trimEnd (trimStart s)

/-! ## What trimming leaves alone -/

theorem trimStart_eq_self {s : List Char} (h : ∀ c ∈ s.head?, isBlank c = false) :
    trimStart s = s := by
  cases s with
  | nil => rfl
  | cons c r => simp [trimStart, List.dropWhile, h c (by simp)]

theorem trimEnd_eq_self {s : List Char} (h : ∀ c ∈ s.getLast?, isBlank c = false) :
    trimEnd s = s := by
  have h' : ∀ c ∈ s.reverse.head?, isBlank c = false := by simpa using h
  rw [trimEnd, show s.reverse.dropWhile isBlank = s.reverse from trimStart_eq_self h',
    List.reverse_reverse]

theorem trim_eq_self {s : List Char} (hs : ∀ c ∈ s.head?, isBlank c = false)
    (he : ∀ c ∈ s.getLast?, isBlank c = false) : trim s = s := by
  rw [trim, trimStart_eq_self hs, trimEnd_eq_self he]

/-- Trimming the end leaves what a text starts with. -/
theorem trimEnd_prefix (s : List Char) : trimEnd s <+: s := by
  rw [← List.reverse_suffix, trimEnd, List.reverse_reverse]
  exact List.dropWhile_suffix isBlank

/-- Blanks added at the end do not change what is left after trimming the end. -/
theorem trimEnd_append_blank (s t : List Char) (h : ∀ c ∈ t, isBlank c = true) :
    trimEnd (s ++ t) = trimEnd s := by
  rw [trimEnd, List.reverse_append,
    List.dropWhile_append_of_pos (by simpa using h), trimEnd]

theorem trim_append_blank (s t : List Char) (h : ∀ c ∈ t, isBlank c = true) :
    trim (s ++ t) = trim s := by
  have hblank : (t ++ []).dropWhile isBlank = [] := List.dropWhile_append_of_pos h
  rw [List.append_nil] at hblank
  rw [trim, trimStart, List.dropWhile_append]
  split
  · next hempty => rw [hblank, trim, trimStart, List.isEmpty_iff.1 hempty]
  · rw [trimEnd_append_blank _ _ h, trim, trimStart]

/-- Blanks at the front are trimmed. -/
theorem trim_append {blanks : List Char} (h : ∀ c ∈ blanks, isBlank c = true) (s : List Char) :
    trim (blanks ++ s) = trim s := by
  rw [trim, trimStart, List.dropWhile_append_of_pos h, ← trimStart, trim]

/-- Blanks at the end of a text do not reach over another character. -/
theorem trimEnd_append_cons {c : Char} (hc : isBlank c = false) (s t : List Char) :
    trimEnd (s ++ c :: t) = s ++ c :: trimEnd t := by
  have hlast : [c].dropWhile isBlank = [c] := List.dropWhile_cons_of_neg (by simp [hc])
  rw [trimEnd, List.reverse_append, List.reverse_cons, List.append_assoc, List.dropWhile_append,
    trimEnd]
  split
  · next hempty =>
    rw [List.isEmpty_iff.1 hempty, List.dropWhile_append, hlast]
    simp
  · simp

theorem trimEnd_cons {c : Char} (hc : isBlank c = false) (s : List Char) :
    trimEnd (c :: s) = c :: trimEnd s :=
  trimEnd_append_cons hc [] s

/-- Blanks at the end of a text do not reach into a part that does not end in a blank. -/
theorem trimEnd_append {s : List Char} (hs : ∀ c ∈ s.getLast?, isBlank c = false)
    (t : List Char) : trimEnd (s ++ t) = s ++ trimEnd t := by
  cases hlast : s.getLast? with
  | none => rw [List.getLast?_eq_none_iff.1 hlast, List.nil_append, List.nil_append]
  | some c =>
      obtain ⟨front, rfl⟩ := List.getLast?_eq_some_iff.1 hlast
      rw [List.append_assoc, List.append_assoc]
      exact trimEnd_append_cons (hs c hlast) front t

/-- Blanks at the front of a text do not reach over another character. -/
theorem trimStart_append_cons {c : Char} (hc : isBlank c = false) (s t : List Char) :
    trimStart (s ++ c :: t) = trimStart s ++ c :: t := by
  rw [trimStart, List.dropWhile_append, trimStart]
  split
  · next hempty =>
    rw [List.isEmpty_iff.1 hempty, List.dropWhile_cons_of_neg (by simp [hc]), List.nil_append]
  · rfl

/-- Trimming drops the blanks in front of a text that begins with another character. -/
theorem trimStart_append {blanks s : List Char} (hblanks : ∀ c ∈ blanks, isBlank c = true)
    (hs : ∀ c ∈ s.head?, isBlank c = false) : trimStart (blanks ++ s) = s := by
  unfold trimStart
  rw [List.dropWhile_append_of_pos hblanks]
  exact trimStart_eq_self hs

/-- What trimming drops is blank. -/
theorem exists_trimStart (s : List Char) :
    ∃ blanks, s = blanks ++ trimStart s ∧ ∀ c ∈ blanks, isBlank c = true :=
  ⟨s.takeWhile isBlank, List.takeWhile_append_dropWhile.symm, List.all_eq_true.1 List.all_takeWhile⟩

/-- A trimmed text does not begin with a blank. -/
theorem isBlank_of_mem_head?_trim {s : List Char} {c : Char} (h : c ∈ (trim s).head?) :
    isBlank c = false := by
  obtain ⟨rest, hrest⟩ := trimEnd_prefix (trimStart s)
  have hhead : (trimStart s).head? = some c := by
    rw [← hrest, List.head?_append, show (trimEnd (trimStart s)).head? = some c from h]
    rfl
  have hfirst := List.head?_dropWhile_not isBlank s
  rw [← trimStart, hhead] at hfirst
  simpa using hfirst

/-! ## Trimmed texts -/

/-- A text without blanks at its ends. -/
structure IsTrimmed (s : List Char) : Prop where
  head : ∀ c ∈ s.head?, isBlank c = false
  last : ∀ c ∈ s.getLast?, isBlank c = false

instance (s : List Char) : Decidable (IsTrimmed s) :=
  have : Decidable (∀ c ∈ s.head?, isBlank c = false) := Option.decidableForallMem s.head?
  have : Decidable (∀ c ∈ s.getLast?, isBlank c = false) := Option.decidableForallMem s.getLast?
  decidable_of_iff ((∀ c ∈ s.head?, isBlank c = false) ∧ ∀ c ∈ s.getLast?, isBlank c = false)
    ⟨fun h => ⟨h.1, h.2⟩, fun h => ⟨h.head, h.last⟩⟩

/-- Trimming takes the blanks off the front of a text without blanks at its ends. -/
theorem trim_append_of_isTrimmed {blanks s : List Char} (hblanks : ∀ c ∈ blanks, isBlank c = true)
    (hs : IsTrimmed s) : trim (blanks ++ s) = s := by
  rw [trim_append hblanks, trim_eq_self hs.head hs.last]

theorem IsTrimmed.trim_eq {s : List Char} (hs : IsTrimmed s) : trim s = s :=
  trim_eq_self hs.head hs.last

/-! ## Padding -/

/-- Spaces and tabs. -/
def IsPadding (s : List Char) : Prop :=
  ∀ c ∈ s, c = ' ' ∨ c = '\t'

instance (s : List Char) : Decidable (IsPadding s) :=
  List.decidableBAll (fun c => c = ' ' ∨ c = '\t') s

/-- Padding is blank. -/
theorem IsPadding.isBlank {s : List Char} (h : IsPadding s) : ∀ c ∈ s, isBlank c = true := by
  intro c hc
  rcases h c hc with rfl | rfl <;> decide

/-- Padding has no line feed. -/
theorem IsPadding.newline_notMem {s : List Char} (h : IsPadding s) : '\n' ∉ s := by
  intro hmem
  rcases h _ hmem with heq | heq <;> cases heq

end PatchReview.Text
