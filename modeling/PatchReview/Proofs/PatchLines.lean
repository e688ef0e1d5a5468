import Mathlib.Data.List.Basic
import PatchReview.Review.Patch

/-!
# Counted lines of a patch

The lines of a patch are counted from the line below the first hunk header, and a file
header above it is skipped.  This module states what is skipped, which lines are added and
at which positions, without recursion; positions of any patch go up.

Main results:

- Theorem `addedText?_eq_some_iff`: which lines are added.
- Theorem `addedFrom_eq`: the position of an added line is its number.
- Theorems `pairwise_position_addedFrom` and `position_of_mem_addedFrom`: positions go up
  and stay within the lines.
- Theorem `hunkLines_eq`: which lines are counted.
- Theorem `addedFrom_hunkLines_concat`: what one more line adds to a patch.
-/

namespace PatchReview.Patch

/-! ## Added lines -/

/-- A line is added exactly if it starts with one or two plus signs, but not with three. -/
theorem addedText?_eq_some_iff {line text : List Char} :
    addedText? line = some text ↔ line = '+' :: text ∧ ¬ ['+', '+'] <+: text := by
  unfold addedText?
  split
  · next rest =>
    simp only [reduceCtorEq, List.cons.injEq, true_and, false_iff, not_and, not_not]
    rintro rfl
    exact ⟨rest, rfl⟩
  · next rest hnot =>
    simp only [Option.some.injEq, List.cons.injEq, true_and]
    constructor
    · rintro rfl
      refine ⟨rfl, ?_⟩
      rintro ⟨more, rfl⟩
      exact hnot more rfl
    · exact fun h => h.1
  · next hnot =>
    simp only [reduceCtorEq, false_iff, not_and]
    rintro rfl
    exact absurd rfl (hnot text)

/-- A line that does not start with a plus sign is not added. -/
theorem addedText?_of_head?_ne {line : List Char} (h : line.head? ≠ some '+') :
    addedText? line = none := by
  rw [Option.eq_none_iff_forall_ne_some]
  intro text hadded
  obtain ⟨rfl, -⟩ := addedText?_eq_some_iff.1 hadded
  exact h rfl

/-- A character at the end of a text does not matter to what the text starts with, where it
does not occur in that. -/
theorem prefix_concat_iff_of_notMem {head line : List Char} {c : Char} (h : c ∉ head) :
    head <+: line ++ [c] ↔ head <+: line := by
  rw [List.prefix_concat_iff, or_iff_right_iff_imp]
  rintro rfl
  simp at h

/-- A carriage return at the end of a line is a part of the text that it adds. -/
theorem addedText?_append_return (line : List Char) :
    addedText? (line ++ ['\r']) = (addedText? line).map (· ++ ['\r']) := by
  have hplus : ∀ text, ['+', '+'] <+: text ++ ['\r'] ↔ ['+', '+'] <+: text :=
    fun _ => prefix_concat_iff_of_notMem (by decide)
  cases hadded : addedText? line with
  | some text =>
      obtain ⟨rfl, hnot⟩ := addedText?_eq_some_iff.1 hadded
      exact addedText?_eq_some_iff.2 ⟨rfl, (hplus text).not.2 hnot⟩
  | none =>
      rw [Option.map_none, Option.eq_none_iff_forall_ne_some]
      intro text hsome
      obtain ⟨heq, hnot⟩ := addedText?_eq_some_iff.1 hsome
      cases line with
      | nil => cases heq
      | cons c rest =>
          obtain ⟨rfl, rfl⟩ := List.cons.inj heq
          rw [addedText?_eq_some_iff.2 ⟨rfl, (hplus rest).not.1 hnot⟩] at hadded
          cases hadded

/-- The lines with a plus sign are added, at their numbers from a position on. -/
theorem addedFrom_eq (position : Nat) (lines : List (List Char)) :
    addedFrom position lines = (lines.zipIdx position).filterMap fun l =>
      (addedText? l.1).map fun text => ⟨String.ofList text, l.2⟩ := by
  induction lines generalizing position with
  | nil => rfl
  | cons line rest ih =>
      rw [addedFrom, List.zipIdx_cons, List.filterMap_cons, ← ih]
      cases addedText? line with
      | none => rfl
      | some text => rfl

/-- Lines behind other lines are counted on from these. -/
theorem addedFrom_append (position : Nat) (first second : List (List Char)) :
    addedFrom position (first ++ second) =
      addedFrom position first ++ addedFrom (position + first.length) second := by
  rw [addedFrom_eq, addedFrom_eq, addedFrom_eq, List.zipIdx_append, List.filterMap_append]

/-- Where no line is added there are no added lines. -/
theorem addedFrom_eq_nil {lines : List (List Char)} (h : ∀ line ∈ lines, addedText? line = none)
    (position : Nat) : addedFrom position lines = [] := by
  rw [addedFrom_eq, List.filterMap_eq_nil_iff]
  intro l hl
  rw [h l.1 (List.fst_mem_of_mem_zipIdx hl), Option.map_none]

/-- Positions lie within the lines that are counted. -/
theorem position_of_mem_addedFrom {position : Nat} {lines : List (List Char)} {line : AddedLine}
    (h : line ∈ addedFrom position lines) :
    position ≤ line.position ∧ line.position < position + lines.length := by
  rw [addedFrom_eq] at h
  obtain ⟨l, hl, hline⟩ := List.mem_filterMap.1 h
  obtain ⟨text, -, rfl⟩ := Option.map_eq_some_iff.1 hline
  obtain ⟨hlow, hhigh, -⟩ := List.mem_zipIdx hl
  exact ⟨hlow, hhigh⟩

/-- Positions go up. -/
theorem pairwise_position_addedFrom (position : Nat) (lines : List (List Char)) :
    ((addedFrom position lines).map (·.position)).Pairwise (· < ·) := by
  induction lines generalizing position with
  | nil => exact List.Pairwise.nil
  | cons line lines ih =>
      rw [addedFrom]
      split
      · rw [List.map_cons, List.pairwise_cons]
        refine ⟨?_, ih (position + 1)⟩
        intro other hother
        obtain ⟨l, hl, rfl⟩ := List.mem_map.1 hother
        have hbounds := position_of_mem_addedFrom hl
        dsimp only
        omega
      · exact ih (position + 1)

/-- Counting from a later position moves all positions by as much. -/
theorem addedFrom_add (position n : Nat) (lines : List (List Char)) :
    addedFrom (position + n) lines =
      (addedFrom position lines).map fun line => { line with position := line.position + n } := by
  induction lines generalizing position with
  | nil => rfl
  | cons line lines ih =>
      have hcount : position + n + 1 = position + 1 + n := by omega
      rw [addedFrom, addedFrom, hcount, ih]
      cases addedText? line with
      | none => rfl
      | some text => rfl

/-! ## File headers -/

theorem startsWith_iff {head : String} {line : List Char} :
    startsWith head line = true ↔ head.toList <+: line := by
  rw [startsWith, Option.isSome_iff_exists]
  simp only [Text.dropLeading_eq_some_iff]
  exact exists_congr fun _ => eq_comm

/-- A text that lines of a file header may start with, and lines below it never do when
they are added or head a hunk. -/
def isHeaderMark (mark : String) : Bool :=
  match mark.toList with
  | [] => false
  | '+' :: rest => ['+', '+'].isPrefixOf rest
  | c :: _ => c ≠ '@'

/-- A line with such a text at its front heads no hunk and is not added. -/
theorem of_isHeaderMark {mark : String} {line : List Char} (hmark : isHeaderMark mark = true)
    (h : startsWith mark line = true) :
    startsWith "@@" line = false ∧ addedText? line = none := by
  obtain ⟨rest, rfl⟩ := startsWith_iff.1 h
  have hhunk : ∀ c cs, c ≠ '@' → startsWith "@@" (c :: cs) = false := by
    intro c cs hc
    rw [Bool.eq_false_iff, Ne, startsWith_iff]
    exact fun hprefix => hc (List.cons_prefix_cons.1 hprefix).1.symm
  unfold isHeaderMark at hmark
  split at hmark
  · cases hmark
  · next plus heq =>
    obtain ⟨more, rfl⟩ := List.isPrefixOf_iff_prefix.1 hmark
    rw [heq]
    exact ⟨hhunk _ _ (by decide), rfl⟩
  · next c cs hplus heq =>
    rw [heq]
    refine ⟨hhunk _ _ (by simpa using hmark), addedText?_of_head?_ne ?_⟩
    rintro ⟨⟩
    exact hplus rfl

/-- A line of a file header heads no hunk and is not added. -/
theorem of_isFileHeader {line : List Char} (h : isFileHeader line = true) :
    startsWith "@@" line = false ∧ addedText? line = none := by
  obtain ⟨mark, hmem, hmark⟩ := List.any_eq_true.1 h
  have hmarks : ∀ mark ∈ ["diff ", "index ", "--- ", "+++ ", "new file mode",
      "deleted file mode"], isHeaderMark mark = true := by decide
  exact of_isHeaderMark (hmarks mark hmem) hmark

/-- The header of a hunk is not an added line. -/
theorem addedText?_of_hunkHeader {line : List Char} (h : startsWith "@@" line = true) :
    addedText? line = none := by
  obtain ⟨rest, rfl⟩ := startsWith_iff.1 h
  rfl

/-- The lines below a hunk header, if there is one; else all lines. -/
def belowHunkHeader : List (List Char) → List (List Char)
  | [] => []
  | line :: rest => if startsWith "@@" line then rest else line :: rest

/-- The file header is skipped, and then a hunk header. -/
theorem hunkLines_eq (lines : List (List Char)) :
    hunkLines lines = belowHunkHeader (lines.dropWhile isFileHeader) := by
  induction lines with
  | nil => rfl
  | cons line rest ih =>
      rw [hunkLines, List.dropWhile_cons]
      by_cases hheader : isFileHeader line = true
      · rw [if_pos hheader, if_pos hheader, (of_isFileHeader hheader).1, ih]
        rfl
      · rw [if_neg hheader, if_neg hheader]
        rfl

/-- Below lines that are all skipped nothing is changed. -/
theorem hunkLines_append_of_skipped {header : List (List Char)}
    (h : header.dropWhile isFileHeader = []) (rest : List (List Char)) :
    hunkLines (header ++ rest) = hunkLines rest := by
  rw [hunkLines_eq, hunkLines_eq, List.dropWhile_append, h]
  rfl

/-- From the first line on that is not skipped, all lines are counted but a hunk header
there. -/
theorem hunkLines_append_of_counted {lines : List (List Char)} {first : List Char}
    {rest : List (List Char)} (h : lines.dropWhile isFileHeader = first :: rest)
    (more : List (List Char)) :
    hunkLines (lines ++ more) = belowHunkHeader (first :: (rest ++ more)) := by
  rw [hunkLines_eq, List.dropWhile_append, h]
  rfl

/-- A line that stands alone is added or not, whether it is counted or not. -/
theorem addedFrom_hunkLines_singleton (position : Nat) (line : List Char) :
    addedFrom position (hunkLines [line]) = addedFrom position [line] := by
  have hnone : addedText? line = none → addedFrom position [line] = [] := fun h =>
    addedFrom_eq_nil (List.forall_mem_singleton.2 h) position
  rw [hunkLines, hunkLines]
  by_cases hhunk : startsWith "@@" line = true
  · rw [if_pos hhunk, hnone (addedText?_of_hunkHeader hhunk)]
    rfl
  · rw [if_neg hhunk]
    by_cases hheader : isFileHeader line = true
    · rw [if_pos hheader, hnone (of_isFileHeader hheader).2]
      rfl
    · rw [if_neg hheader]

/-- One more line is the last one that is counted. -/
theorem addedFrom_hunkLines_concat (lines : List (List Char)) (line : List Char) :
    addedFrom 1 (hunkLines (lines ++ [line])) =
      addedFrom 1 (hunkLines lines) ++ addedFrom (1 + (hunkLines lines).length) [line] := by
  rw [hunkLines_eq lines]
  cases hrest : lines.dropWhile isFileHeader with
  | nil =>
      rw [hunkLines_append_of_skipped hrest, addedFrom_hunkLines_singleton]
      rfl
  | cons first rest =>
      have hcounted : hunkLines (lines ++ [line]) = belowHunkHeader (first :: rest) ++ [line] := by
        rw [hunkLines_append_of_counted hrest, belowHunkHeader, belowHunkHeader]
        split <;> rfl
      rw [hcounted, addedFrom_append]

end PatchReview.Patch
