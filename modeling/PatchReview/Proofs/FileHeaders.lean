import Mathlib.Data.List.TakeWhile
import PatchReview.Proofs.PatchLines
import PatchReview.Proofs.TextLines

/-!
# Patches below a file header

Above the first hunk header of a patch there may be a file header of any length.  Positions
are meant to be distances from the first hunk header, but only some kinds of header lines
are skipped.  From the first line of another kind on all lines are counted, the first hunk
header as well, and every position is too large by their number.

Main results:

- Definition `countedHeader`: the number of lines above the hunks that are counted.
- Theorem `lines_ofText_of_hunkHeader`: without a file header positions are distances.
- Theorem `lines_ofText_below`: below a file header they are moved.
- Theorem `ofText_below_fileHeader`: when a file header makes no difference.
-/

namespace PatchReview.Patch

/-! ## Lines of file headers -/

/-- What the lines of a file header that git writes start with. -/
def gitHeaderMarks : List String :=
  ["diff --git", "old mode", "new mode", "new file mode", "deleted file mode", "similarity index",
    "rename from", "rename to", "copy from", "copy to", "index", "---", "+++"]

/-- Lines of a file header, with what stands behind each of them. -/
structure IsGitHeader (header : List (List Char × Text.LineEnd)) : Prop where
  isPlainLine : ∀ l ∈ header, Text.IsPlainLine l.1
  exists_mark : ∀ l ∈ header, ∃ mark ∈ gitHeaderMarks, startsWith mark l.1 = true

/-- The number of lines that are counted though they stand above the hunks: the lines of
the file header from the first one on that is not skipped, and the first hunk header. -/
def countedHeader (header : List (List Char × Text.LineEnd)) : Nat :=
  match (header.map (·.1)).dropWhile isFileHeader with
  | [] => 0
  | counted => counted.length + 1

theorem countedHeader_eq_zero_iff {header : List (List Char × Text.LineEnd)} :
    countedHeader header = 0 ↔ ∀ l ∈ header, isFileHeader l.1 = true := by
  have hskipped : (header.map (·.1)).dropWhile isFileHeader = [] ↔
      ∀ l ∈ header, isFileHeader l.1 = true := by
    rw [List.dropWhile_eq_nil_iff, List.forall_mem_map]
  rw [← hskipped, countedHeader]
  cases (header.map (·.1)).dropWhile isFileHeader with
  | nil => simp
  | cons line counted => simp

/-- Lines of a file header head no hunk and are not added. -/
theorem IsGitHeader.of_mem {header : List (List Char × Text.LineEnd)} (h : IsGitHeader header) :
    ∀ line ∈ header.map (·.1), startsWith "@@" line = false ∧ addedText? line = none := by
  have hmarks : ∀ mark ∈ gitHeaderMarks, isHeaderMark mark = true := by decide
  rw [List.forall_mem_map]
  intro l hl
  obtain ⟨mark, hmem, hmark⟩ := h.exists_mark l hl
  exact of_isHeaderMark (hmarks mark hmem) hmark

/-! ## Hunks -/

/-- The end of a segment is not taken for a part of a hunk header at its front. -/
theorem startsWith_stripTerminator (rest : List Char) :
    startsWith "@@" (Text.stripTerminator ('@' :: '@' :: rest)) = true := by
  obtain ⟨ending, hsplit, hending⟩ := Text.exists_stripTerminator ('@' :: '@' :: rest)
  have hat : ∀ more, ending ≠ '@' :: more := by
    rintro more rfl
    exact absurd (hending '@' List.mem_cons_self) (by decide)
  -- What is left begins as the segment does, so with fewer than two characters left an at
  -- sign would have been taken off.
  rw [startsWith_iff]
  generalize Text.stripTerminator ('@' :: '@' :: rest) = line at hsplit
  match line with
  | [] => exact absurd hsplit.symm (hat _)
  | [c] => exact absurd (List.cons.inj hsplit).2.symm (hat _)
  | c :: d :: line =>
      simp only [List.cons_append, List.cons.injEq] at hsplit
      obtain ⟨rfl, rfl, -⟩ := hsplit
      exact ⟨line, rfl⟩

/-- The first line of a text with the header of a hunk at its front is that header. -/
theorem exists_lines_eq_cons {s : List Char} (h : startsWith "@@" s = true) :
    ∃ first rest, Text.lines s = first :: rest ∧ startsWith "@@" first = true := by
  obtain ⟨rest, rfl⟩ := startsWith_iff.1 h
  change ∃ first others, Text.lines ('@' :: '@' :: rest) = first :: others ∧ _
  rw [Text.lines]
  cases hsegments : Text.segments rest with
  | nil =>
      refine ⟨_, [], ?_, startsWith_stripTerminator []⟩
      simp [Text.segments, hsegments]
  | cons segment others =>
      refine ⟨_, others.map Text.stripTerminator, ?_, startsWith_stripTerminator segment⟩
      simp [Text.segments, hsegments]

/-- The positions of additions below a hunk header are their distances from it. -/
theorem addedFrom_hunkLines_of_hunkHeader {first : List Char} {rest : List (List Char)}
    (h : startsWith "@@" first = true) :
    addedFrom 1 (hunkLines (first :: rest)) = addedFrom 0 (first :: rest) := by
  rw [hunkLines, if_pos h, addedFrom, addedText?_of_hunkHeader h]

/-- Below lines that are none of a hunk positions are moved by the lines that are
counted. -/
theorem addedFrom_hunkLines_below {header : List (List Char × Text.LineEnd)}
    (hheader : IsGitHeader header) {first : List Char} {rest : List (List Char)}
    (h : startsWith "@@" first = true) :
    addedFrom 1 (hunkLines (header.map (·.1) ++ first :: rest)) =
      addedFrom (countedHeader header) (first :: rest) := by
  rw [countedHeader]
  cases hcounted : (header.map (·.1)).dropWhile isFileHeader with
  | nil =>
      rw [hunkLines_append_of_skipped hcounted, addedFrom_hunkLines_of_hunkHeader h]
  | cons line counted =>
      have hnone : ∀ l ∈ line :: counted, startsWith "@@" l = false ∧ addedText? l = none := by
        intro l hl
        rw [← hcounted] at hl
        exact hheader.of_mem l ((List.dropWhile_sublist isFileHeader).mem hl)
      have hall : hunkLines (header.map (·.1) ++ first :: rest) =
          line :: counted ++ first :: rest := by
        rw [hunkLines_append_of_counted hcounted, belowHunkHeader,
          (hnone line List.mem_cons_self).1]
        rfl
      rw [hall, addedFrom_append, addedFrom_eq_nil (fun l hl => (hnone l hl).2), List.nil_append,
        Nat.add_comm]

/-- The positions in hunks without a file header are the distances from the first hunk
header. -/
theorem lines_ofText_of_hunkHeader {hunks : String} (h : startsWith "@@" hunks.toList = true) :
    (ofText hunks).lines = addedFrom 0 (Text.lines hunks.toList) := by
  obtain ⟨first, rest, hlines, hfirst⟩ := exists_lines_eq_cons h
  rw [ofText, hlines, addedFrom_hunkLines_of_hunkHeader hfirst]

/-- Below a file header positions are moved by the lines of it that are counted. -/
theorem lines_ofText_below {header : List (List Char × Text.LineEnd)}
    (hheader : IsGitHeader header) {hunks : String} (h : startsWith "@@" hunks.toList = true) :
    (ofText (String.ofList (Text.writeLines header) ++ hunks)).lines =
      addedFrom (countedHeader header) (Text.lines hunks.toList) := by
  obtain ⟨first, rest, hlines, hfirst⟩ := exists_lines_eq_cons h
  rw [ofText, String.toList_append, String.toList_ofList,
    Text.lines_writeLines_append hheader.isPlainLine, hlines,
    addedFrom_hunkLines_below hheader hfirst]

/-- A position that is moved stays only if it is not moved at all. -/
theorem addedFrom_eq_iff {n : Nat} {lines : List (List Char)} :
    addedFrom n lines = addedFrom 0 lines ↔ n = 0 ∨ addedFrom 0 lines = [] := by
  rw [← Nat.zero_add n, addedFrom_add, Nat.zero_add]
  cases addedFrom 0 lines with
  | nil => simp
  | cons line others =>
      constructor
      · intro h
        have hposition : line.position + n = line.position :=
          congrArg AddedLine.position (List.cons.inj h).1
        left
        omega
      · rintro (rfl | hnil)
        · simp
        · cases hnil

/-- Hunks below a file header: the positions are the distances from the first hunk header
and the number of lines counted above it.  So they are the same as without the file header
exactly if all of its lines are skipped or nothing is added. -/
theorem ofText_below_fileHeader {header : List (List Char × Text.LineEnd)}
    (hheader : IsGitHeader header) {hunks : String} (h : startsWith "@@" hunks.toList = true) :
    let patch := ofText (String.ofList (Text.writeLines header) ++ hunks)
    (ofText hunks).lines = addedFrom 0 (Text.lines hunks.toList) ∧
      patch.lines = addedFrom (countedHeader header) (Text.lines hunks.toList) ∧
      (patch = ofText hunks ↔
        (∀ l ∈ header, isFileHeader l.1 = true) ∨ (ofText hunks).lines = []) := by
  intro patch
  have hpatch := lines_ofText_below hheader h
  have hhunks := lines_ofText_of_hunkHeader h
  refine ⟨hhunks, hpatch, ?_⟩
  have hlines : patch = ofText hunks ↔ patch.lines = (ofText hunks).lines :=
    ⟨congrArg Patch.lines, congrArg Patch.mk⟩
  rw [hlines, hpatch, hhunks, addedFrom_eq_iff, countedHeader_eq_zero_iff]

/-- A file header of three lines that are all skipped. -/
theorem ofText_below_plain_fileHeader :
    let header : List (List Char × Text.LineEnd) := [("diff --git a/a.ts b/a.ts".toList, .feed),
      ("--- a/a.ts".toList, .returnFeed), ("+++ b/a.ts".toList, .feed)]
    let hunks := "@@ -1 +1,2 @@\n ctx\n+added"
    IsGitHeader header ∧ startsWith "@@" hunks.toList = true ∧
      ofText (String.ofList (Text.writeLines header) ++ hunks) = ofText hunks := by
  intro header hunks
  have hheader : IsGitHeader header := ⟨by decide, by decide⟩
  have hhunks : startsWith "@@" hunks.toList = true := by decide
  exact ⟨hheader, hhunks, (ofText_below_fileHeader hheader hhunks).2.2.2 (.inl (by decide))⟩

/-- The file header of a renamed file is counted from its second line on, so that an added
line at distance two from the first hunk header has position nine. -/
theorem position_below_rename :
    let header : List (List Char × Text.LineEnd) := [("diff --git a/a.ts b/b.ts".toList, .feed),
      ("similarity index 90%".toList, .feed), ("rename from a.ts".toList, .feed),
      ("rename to b.ts".toList, .feed), ("index 1..2 100644".toList, .feed),
      ("--- a/a.ts".toList, .feed), ("+++ b/b.ts".toList, .feed)]
    let hunks := "@@ -1 +1,2 @@\n ctx\n+added\n"
    IsGitHeader header ∧ startsWith "@@" hunks.toList = true ∧
      (ofText hunks).lines = [⟨"added", 2⟩] ∧
      (ofText (String.ofList (Text.writeLines header) ++ hunks)).lines = [⟨"added", 9⟩] := by
  intro header hunks
  have hheader : IsGitHeader header := ⟨by decide, by decide⟩
  have hhunks : startsWith "@@" hunks.toList = true := by decide
  exact ⟨hheader, hhunks, by decide, (lines_ofText_below hheader hhunks).trans (by decide)⟩

end PatchReview.Patch
