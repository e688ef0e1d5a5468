import Mathlib.Data.List.Forall2
import PatchReview.Review.Signature
import PatchReview.Text.Character

/-!
# What counts as a trailer

A trailer is a piece of a text: `<!--`, blanks, the word of a signature in any letter case,
at least eight hexadecimal digits, blanks, and `-->`.  The signature in a text is that of
the first such piece.

Main results:

- Definition `IsTrailer`: the pieces that are trailers, with their digits.
- Theorem `readTrailer_eq_some_iff`: a trailer is read at the front of a text exactly if it
  begins with such a piece.
- Theorems `exists_of_findTrailer`, `findTrailer_eq_none_iff`: the first piece is found, and
  none only if there is none.
- Theorem `isTrailer_trailer`: what is written as a trailer is one.
-/

namespace PatchReview

namespace Signature

/-! ## The form of a trailer -/

/-- What stands before the digits of a trailer, after its opening. -/
def word : List Char :=
  ['m', 'c', 'p', ':', 's', 'i', 'g', '=']

/-- The pieces of text that are trailers, with the digits of their signatures. -/
inductive IsTrailer : (digits piece : List Char) → Prop where
  | intro {before spelled digits after : List Char}
      (hbefore : ∀ c ∈ before, Text.isBlank c = true)
      (hword : List.Forall₂ (isSameLetter · · = true) word spelled)
      (hdigits : ∀ c ∈ digits, Text.isHexDigit c = true) (hlength : 8 ≤ digits.length)
      (hafter : ∀ c ∈ after, Text.isBlank c = true) :
      IsTrailer digits (['<', '!', '-', '-'] ++ (before ++ (spelled ++ (digits ++ (after ++
        ['-', '-', '>'])))))

/-- A text that some piece of is a trailer. -/
def HasTrailer (text : String) : Prop :=
  ∃ digits piece, IsTrailer digits piece ∧ piece <:+: text.toList

/-- Taking off a word leaves what follows a spelling of it. -/
theorem dropWord_eq_some_iff {expected s rest : List Char} :
    dropWord expected s = some rest ↔
      ∃ spelled, s = spelled ++ rest ∧ List.Forall₂ (isSameLetter · · = true) expected spelled := by
  induction expected generalizing s with
  | nil =>
      constructor
      · rintro ⟨⟩
        exact ⟨[], rfl, .nil⟩
      · rintro ⟨spelled, rfl, hspelled⟩
        cases hspelled
        rfl
  | cons e expected ih =>
      cases s with
      | nil => simp [dropWord]
      | cons c s =>
          constructor
          · intro h
            obtain ⟨hsame, h⟩ := Option.ite_none_right_eq_some.1 h
            obtain ⟨spelled, rfl, hspelled⟩ := ih.1 h
            exact ⟨c :: spelled, rfl, hspelled.cons hsame⟩
          · rintro ⟨spelled, heq, hspelled⟩
            cases hspelled with
            | cons hsame hspelled =>
                obtain ⟨rfl, rfl⟩ := List.cons.inj heq
                rw [dropWord, if_pos hsame]
                exact ih.2 ⟨_, rfl, hspelled⟩

/-- The word of a trailer does not begin with a blank. -/
theorem isBlank_of_isSameLetter {c : Char} (h : isSameLetter 'm' c = true) :
    Text.isBlank c = false := by
  have hletter : c.toLower = 'm' ↔ c = 'm' ∨ c = 'M' := Text.toLower_eq_iff (by decide) (by decide)
  have hcase : isSameLetter 'm' c = true ↔ c.toLower = 'm' := by simp [isSameLetter]
  rcases hletter.1 (hcase.1 h) with rfl | rfl <;> decide

/-- Digits end where blanks begin. -/
theorem isHexDigit_of_isBlank {c : Char} (h : Text.isBlank c = true) :
    Text.isHexDigit c = false := by
  rw [Bool.eq_false_iff]
  intro hdigit
  rw [Text.isBlank_of_isNameChar (Text.isNameChar_of_isHexDigit hdigit)] at h
  cases h

/-- A trailer is read at the front of a text exactly if the text begins with one. -/
theorem readTrailer_eq_some_iff {cs digits : List Char} :
    readTrailer cs = some digits ↔ ∃ piece rest, cs = piece ++ rest ∧ IsTrailer digits piece := by
  constructor
  · intro h
    obtain ⟨s₁, hopening, h⟩ := Option.bind_eq_some_iff.1 h
    obtain ⟨s₂, hword, h⟩ := Option.bind_eq_some_iff.1 h
    obtain ⟨⟨hlength, hclosing⟩, h⟩ := Option.ite_none_right_eq_some.1 h
    cases h
    obtain ⟨before, hs₁, hbefore⟩ := Text.exists_trimStart s₁
    obtain ⟨spelled, hs₂, hspelled⟩ := dropWord_eq_some_iff.1 hword
    obtain ⟨after, hs₃, hafter⟩ := Text.exists_trimStart (s₂.dropWhile Text.isHexDigit)
    obtain ⟨rest, hrest⟩ := Option.isSome_iff_exists.1 hclosing
    rw [Text.dropLeading_eq_some_iff.1 hrest] at hs₃
    have hdigits : ∀ c ∈ s₂.takeWhile Text.isHexDigit, Text.isHexDigit c = true :=
      List.all_eq_true.1 List.all_takeWhile
    refine ⟨_, rest, ?_, .intro hbefore hspelled hdigits hlength hafter⟩
    calc cs = ['<', '!', '-', '-'] ++ (before ++ (spelled ++
          (s₂.takeWhile Text.isHexDigit ++ s₂.dropWhile Text.isHexDigit))) := by
          rw [List.takeWhile_append_dropWhile, ← hs₂, ← hs₁,
            Text.dropLeading_eq_some_iff.1 hopening]
      _ = _ := by
          rw [hs₃]
          simp
  · rintro ⟨_, rest, rfl, @⟨before, spelled, _, after, hbefore, hword, hdigits, hlength, hafter⟩⟩
    have hopening : Text.dropLeading ['<', '!', '-', '-'] (['<', '!', '-', '-'] ++ (before ++
        (spelled ++ (digits ++ (after ++ ['-', '-', '>'])))) ++ rest) =
        some (before ++ (spelled ++ (digits ++ (after ++ (['-', '-', '>'] ++ rest))))) :=
      Text.dropLeading_eq_some_iff.2 (by simp)
    have hspelled : ∀ c ∈ (spelled ++ (digits ++ (after ++ (['-', '-', '>'] ++ rest)))).head?,
        Text.isBlank c = false := by
      cases hword with
      | @cons _ c _ _ hsame _ =>
          rw [List.cons_append, List.head?_cons]
          rintro _ ⟨⟩
          exact isBlank_of_isSameLetter hsame
    -- a blank or a dash ends the digits, so that all of them and no others are taken
    have hclosing : ∀ c ∈ (after ++ (['-', '-', '>'] ++ rest)).head?,
        Text.isHexDigit c = false := by
      cases after with
      | nil =>
          rintro _ ⟨⟩
          decide
      | cons c after =>
          rintro _ ⟨⟩
          exact isHexDigit_of_isBlank (hafter c List.mem_cons_self)
    obtain ⟨htake, hdrop⟩ := Text.span_append hdigits hclosing
    have hrest : Text.trimStart (after ++ (['-', '-', '>'] ++ rest)) = ['-', '-', '>'] ++ rest :=
      Text.trimStart_append hafter (by rintro _ ⟨⟩; decide)
    have hend : (Text.dropLeading ['-', '-', '>'] (['-', '-', '>'] ++ rest)).isSome = true := by
      rw [Text.dropLeading_eq_some_iff.2 rfl]
      rfl
    have hdropped : dropWord ['m', 'c', 'p', ':', 's', 'i', 'g', '=']
        (spelled ++ (digits ++ (after ++ (['-', '-', '>'] ++ rest)))) =
        some (digits ++ (after ++ (['-', '-', '>'] ++ rest))) :=
      dropWord_eq_some_iff.2 ⟨spelled, rfl, hword⟩
    rw [readTrailer, hopening]
    simp only [Option.bind_eq_bind, Option.bind_some]
    rw [Text.trimStart_append hbefore hspelled, hdropped]
    simp only [Option.bind_some, htake, hdrop, hrest, hend, hlength, and_self, if_true]

/-! ## The first trailer -/

/-- The first trailer of a text is found: no other one begins before it. -/
theorem exists_of_findTrailer {cs digits : List Char} (h : findTrailer cs = some digits) :
    ∃ before piece after, cs = before ++ (piece ++ after) ∧ IsTrailer digits piece ∧
      ∀ before' piece' after' digits', cs = before' ++ (piece' ++ after') →
        IsTrailer digits' piece' → before.length ≤ before'.length := by
  induction cs with
  | nil => cases h
  | cons c cs ih =>
      rcases Option.or_eq_some_iff.1 h with h | ⟨hnone, h⟩
      · obtain ⟨piece, after, heq, hpiece⟩ := readTrailer_eq_some_iff.1 h
        exact ⟨[], piece, after, heq, hpiece, fun _ _ _ _ _ _ => Nat.zero_le _⟩
      · obtain ⟨before, piece, after, rfl, hpiece, hfirst⟩ := ih h
        refine ⟨c :: before, piece, after, rfl, hpiece, ?_⟩
        intro before' piece' after' digits' heq hpiece'
        cases before' with
        | nil =>
            have hread := readTrailer_eq_some_iff.2 ⟨piece', after', heq, hpiece'⟩
            rw [hnone] at hread
            cases hread
        | cons d before' =>
            have htail := (List.cons.inj heq).2
            exact Nat.succ_le_succ (hfirst before' piece' after' digits' htail hpiece')

/-- Without a trailer in a text there is none at its front. -/
theorem readTrailer_eq_none_of_findTrailer {cs : List Char} (h : findTrailer cs = none) :
    readTrailer cs = none := by
  cases cs with
  | nil => rfl
  | cons c cs => exact (Option.or_eq_none_iff.1 h).1

/-- No trailer is found exactly if no piece of the text is one. -/
theorem findTrailer_eq_none_iff {cs : List Char} :
    findTrailer cs = none ↔ ¬ ∃ digits piece, IsTrailer digits piece ∧ piece <:+: cs := by
  constructor
  · rintro h ⟨digits, piece, hpiece, before, after, rfl⟩
    induction before with
    | nil =>
        have hread := readTrailer_eq_some_iff.2 ⟨piece, after, rfl, hpiece⟩
        have hnone := readTrailer_eq_none_of_findTrailer h
        rw [List.nil_append, hread] at hnone
        cases hnone
    | cons c before ih => exact ih (Option.or_eq_none_iff.1 h).2
  · intro h
    cases hfind : findTrailer cs with
    | none => rfl
    | some digits =>
        obtain ⟨before, piece, after, rfl, hpiece, -⟩ := exists_of_findTrailer hfind
        exact absurd ⟨digits, piece, hpiece, before, after, List.append_assoc _ _ _⟩ h

theorem extract_eq_none_iff {text : String} : extract text = none ↔ ¬ HasTrailer text := by
  rw [extract, Option.map_eq_none_iff]
  exact findTrailer_eq_none_iff

/-- The letters of the word in a trailer are none a space, and each is like itself. -/
theorem isSameLetter_of_mem_word {e : Char} (h : e ∈ word) :
    isSameLetter e ' ' = false ∧ isSameLetter e e = true := by
  simp only [word, List.mem_cons, List.not_mem_nil, or_false] at h
  rcases h with rfl | rfl | rfl | rfl | rfl | rfl | rfl | rfl <;> decide

/-- The trailer of a signature is a trailer. -/
theorem isTrailer_trailer {digits : List Char} (hdigits : ∀ c ∈ digits, Text.isHexDigit c = true)
    (hlength : 8 ≤ digits.length) :
    IsTrailer digits (trailer (String.ofList digits)).toList := by
  have hblank : ∀ c ∈ [' '], Text.isBlank c = true := List.forall_mem_singleton.2 (by decide)
  have hword : List.Forall₂ (isSameLetter · · = true) word word :=
    List.forall₂_same.2 fun e he => (isSameLetter_of_mem_word he).2
  have h := IsTrailer.intro hblank hword hdigits hlength hblank
  simpa [trailer, word] using h

end Signature

end PatchReview
