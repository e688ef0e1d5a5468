import PatchReview.Metadata.Line
import PatchReview.Proofs.TextLines

/-!
# What a line of a metadata block depends on

A line says the same whatever blanks end it, so nothing depends on how the lines of a block
are ended, nor on whether the last one is.  Two blocks, one below the other, have the lines
of both.

Main results:

- Theorems `Line.ofText_append_blank` and `isSignificant_append_blank`: blanks at the end of
  a line say nothing.
- Theorem `significantLines_eq`: nor does the end of a line.
- Theorems `significantLines_append` and `significantLines_append_newline`: the lines of two
  blocks, one below the other.
-/

namespace PatchReview.Metadata

open Text

/-! ## Blanks at the end of a line -/

/-- Blanks at the end do not make a line significant, nor keep it from being so. -/
theorem isSignificant_append_blank (line blanks : List Char) (h : ∀ c ∈ blanks, isBlank c = true) :
    isSignificant (line ++ blanks) = isSignificant line := by
  rw [isSignificant, trim_append_blank line blanks h, isSignificant]

/-- Blanks at the end of a line say nothing. -/
theorem Line.ofText_append_blank (line blanks : List Char) (h : ∀ c ∈ blanks, isBlank c = true) :
    Line.ofText (line ++ blanks) = Line.ofText line := by
  rw [Line.ofText, trim_append_blank line blanks h, Line.ofText]
  cases line with
  -- blanks alone may be an indent, but there is nothing behind it
  | nil => rfl
  | cons c line => rfl

/-- The end of a segment says nothing, so the lines of a block may be read off its
segments. -/
theorem significantLines_eq (block : List Char) :
    significantLines block = ((segments block).filter isSignificant).map Line.ofText := by
  have hblank : ∀ segment : List Char, ∃ blanks, segment = stripTerminator segment ++ blanks ∧
      ∀ c ∈ blanks, isBlank c = true := by
    intro segment
    obtain ⟨ending, hcut, hending⟩ := exists_stripTerminator segment
    refine ⟨ending, hcut, fun c hc => ?_⟩
    rcases hending c hc with rfl | rfl <;> decide
  have hsignificant : isSignificant ∘ stripTerminator = isSignificant := by
    funext segment
    obtain ⟨blanks, hcut, hblanks⟩ := hblank segment
    rw [Function.comp_apply, ← isSignificant_append_blank _ _ hblanks, ← hcut]
  have hline : Line.ofText ∘ stripTerminator = Line.ofText := by
    funext segment
    obtain ⟨blanks, hcut, hblanks⟩ := hblank segment
    rw [Function.comp_apply, ← Line.ofText_append_blank _ _ hblanks, ← hcut]
  rw [significantLines, lines, List.filter_map, List.map_map, hsignificant, hline]

/-! ## Blocks below each other -/

/-- A block with all its lines ended, and a block below it, have the lines of both. -/
theorem significantLines_append {before : List Char} (h : IsEnded before) (after : List Char) :
    significantLines (before ++ after) = significantLines before ++ significantLines after := by
  rw [significantLines, lines_append_of_isEnded h, List.filter_append, List.map_append,
    ← significantLines, ← significantLines]

/-- A line feed at the end of a block says nothing. -/
theorem significantLines_append_newline (block : List Char) :
    significantLines (block ++ ['\n']) = significantLines block := by
  obtain ⟨before, last, rfl, hbefore, hlast⟩ := exists_isEnded_append block
  have hblank : ∀ c ∈ ['\n'], isBlank c = true := List.forall_mem_singleton.2 (by decide)
  have hfeed : significantLines (last ++ ['\n']) = significantLines last := by
    by_cases hne : last = []
    · subst hne
      rfl
    · rw [significantLines_eq, segments_append hlast [], significantLines,
        lines_of_newline_notMem hlast hne, List.filter_cons, List.filter_cons,
        isSignificant_append_blank last _ hblank]
      split
      · rw [List.map_cons, List.map_cons, Line.ofText_append_blank last _ hblank]
        rfl
      · rfl
  rw [List.append_assoc, significantLines_append hbefore, significantLines_append hbefore, hfeed]

end PatchReview.Metadata
