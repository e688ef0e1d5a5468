import Mathlib.Data.List.TakeWhile
import PatchReview.Proofs.PatchLines
import PatchReview.Proofs.TextLines
import PatchReview.Text.Blank

/-!
# Positions in a written patch

A patch is written as a file header, which may be empty, the header of its first hunk and
the lines below it.  Reading it finds the additions among these lines, in order, each with
its text and with its number among them.

Main definitions:

- `HunkLine`: a line below the header of the first hunk, by its kind.
- `WrittenPatch`: a patch, line by line, with what stands behind each line.
- `WrittenPatch.additions`: its additions with their numbers.

Main result:

- Theorem `WrittenPatch.read_text`: these are the added lines of the patch, and their
  numbers are its positions.
-/

namespace PatchReview

/-- A line below the header of the first hunk. -/
inductive HunkLine where
  | context (text : List Char)
  | deletion (text : List Char)
  | addition (text : List Char)
  /-- The header of a further hunk. -/
  | hunkHeader (text : List Char)
  /-- An empty line, or blanks. -/
  | blank (text : List Char)
  /-- A remark on the line before, such as that no line feed ends it. -/
  | remark (text : List Char)
  deriving DecidableEq, Repr

namespace HunkLine

/-- The line as it stands in the patch. -/
def spell : HunkLine → List Char
  | context text => ' ' :: text
  | deletion text => '-' :: text
  | addition text => '+' :: text
  | hunkHeader text => '@' :: '@' :: text
  | blank text => text
  | remark text => '\\' :: text

/-- The text that the line adds. -/
def added? : HunkLine → Option (List Char)
  | addition text => some text
  | _ => none

/-- What is read as a line of its kind: an added text does not start with two plus signs,
and a blank line has only blanks. -/
def IsOfItsKind : HunkLine → Prop
  | addition text => ¬ ['+', '+'] <+: text
  | blank text => ∀ c ∈ text, Text.isBlank c = true
  | _ => True

instance : DecidablePred IsOfItsKind
  | addition text => inferInstanceAs (Decidable (¬ ['+', '+'] <+: text))
  | blank text => decidable_of_iff (text.all Text.isBlank = true) List.all_eq_true
  | context _ | deletion _ | hunkHeader _ | remark _ => inferInstanceAs (Decidable True)

/-- A line is read as of its kind. -/
theorem addedText?_spell {line : HunkLine} (h : line.IsOfItsKind) :
    Patch.addedText? line.spell = line.added? := by
  cases line with
  | addition text => exact Patch.addedText?_eq_some_iff.2 ⟨rfl, h⟩
  | blank text =>
      refine Patch.addedText?_of_head?_ne ?_
      intro hhead
      have hplus : Text.isBlank '+' = true := h '+' (List.mem_of_mem_head? hhead)
      cases hplus
  | context text => rfl
  | deletion text => rfl
  | hunkHeader text => rfl
  | remark text => rfl

end HunkLine

/-- A patch, line by line, with what stands behind each line. -/
structure WrittenPatch where
  /-- The file header. -/
  fileHeader : List (List Char × Text.LineEnd)
  /-- The header of the first hunk. -/
  hunkHeader : List Char × Text.LineEnd
  /-- The lines below it. -/
  body : List (HunkLine × Text.LineEnd)
  isPlainLine_fileHeader : ∀ l ∈ fileHeader, Text.IsPlainLine l.1
  isFileHeader_fileHeader : ∀ l ∈ fileHeader, Patch.isFileHeader l.1 = true
  isPlainLine_hunkHeader : Text.IsPlainLine hunkHeader.1
  startsWith_hunkHeader : Patch.startsWith "@@" hunkHeader.1 = true
  isPlainLine_body : ∀ l ∈ body, Text.IsPlainLine l.1.spell
  isOfItsKind_body : ∀ l ∈ body, l.1.IsOfItsKind

namespace WrittenPatch

/-- The text of a patch. -/
def text (p : WrittenPatch) : String :=
  String.ofList (Text.writeLines
    (p.fileHeader ++ p.hunkHeader :: p.body.map fun l => (l.1.spell, l.2)))

/-- The additions, each with its number among the lines below the header of the first
hunk, counted from one. -/
def additions (p : WrittenPatch) : List AddedLine :=
  (p.body.zipIdx 1).filterMap fun (line, number) =>
    line.1.added?.map fun added => ⟨String.ofList added, number⟩

/-- The lines of a patch are read back. -/
theorem lines_text (p : WrittenPatch) :
    Text.lines p.text.toList =
      p.fileHeader.map (·.1) ++ p.hunkHeader.1 :: p.body.map (·.1.spell) := by
  have hplain : ∀ l ∈ p.fileHeader ++ p.hunkHeader :: p.body.map fun l => (l.1.spell, l.2),
      Text.IsPlainLine l.1 := by
    simp only [List.forall_mem_append, List.forall_mem_cons, List.forall_mem_map]
    exact ⟨p.isPlainLine_fileHeader, p.isPlainLine_hunkHeader, p.isPlainLine_body⟩
  have hread := Text.lines_writeLines_append hplain []
  rw [List.append_nil] at hread
  rw [text, String.toList_ofList, hread]
  simp [Text.lines, Text.segments]

/-- The lines below the header of the first hunk are counted. -/
theorem hunkLines_lines_text (p : WrittenPatch) :
    Patch.hunkLines (Text.lines p.text.toList) = p.body.map (·.1.spell) := by
  have hheader : (p.fileHeader.map (·.1)).dropWhile Patch.isFileHeader = [] :=
    List.dropWhile_eq_nil_iff.2 (List.forall_mem_map.2 p.isFileHeader_fileHeader)
  rw [p.lines_text, Patch.hunkLines_append_of_skipped hheader, Patch.hunkLines,
    if_pos p.startsWith_hunkHeader]

/-- The added lines of a patch are its additions. -/
theorem lines_ofText_text (p : WrittenPatch) : (Patch.ofText p.text).lines = p.additions := by
  rw [Patch.ofText, p.hunkLines_lines_text, Patch.addedFrom_eq, List.zipIdx_map,
    List.filterMap_map, additions]
  apply List.filterMap_congr
  intro l hl
  have hmem : l.1 ∈ p.body := List.fst_mem_of_mem_zipIdx hl
  simp [HunkLine.addedText?_spell (p.isOfItsKind_body l.1 hmem)]

/-- Reading a written patch finds its additions in order, at their numbers below the first
hunk header.  So positions go up, from one to at most the number of lines there, and
exactly the numbers of added lines stand for one. -/
theorem read_text (p : WrittenPatch) :
    (Patch.ofText p.text).lines = p.additions ∧
      (p.additions.map (·.position)).Pairwise (· < ·) ∧
      (∀ line ∈ p.additions, 1 ≤ line.position ∧ line.position ≤ p.body.length) ∧
      (∀ i (h : i < p.additions.length),
        (Patch.ofText p.text).positionOf (i + 1) = some p.additions[i].position) ∧
      ∀ i, (Patch.ofText p.text).positionOf i = none ↔ i = 0 ∨ p.additions.length < i := by
  have hlines := p.lines_ofText_text
  have hcounted : p.additions = Patch.addedFrom 1 (p.body.map (·.1.spell)) := by
    rw [← hlines, Patch.ofText, p.hunkLines_lines_text]
  refine ⟨hlines, ?_, ?_, ?_, ?_⟩
  · rw [hcounted]
    exact Patch.pairwise_position_addedFrom 1 _
  · intro line hline
    rw [hcounted] at hline
    have hbounds := Patch.position_of_mem_addedFrom hline
    rw [List.length_map] at hbounds
    omega
  · intro i h
    simp [Patch.positionOf, hlines, h]
  · intro i
    rw [Patch.positionOf_eq_none_iff, hlines]

/-- A patch with a file header, two hunks and line ends of both kinds. -/
def twoHunks : WrittenPatch where
  fileHeader := [("--- a/x".toList, .returnFeed), ("+++ b/x".toList, .feed)]
  hunkHeader := ("@@ -1 +1,2 @@".toList, .feed)
  body := [(.context "ctx".toList, .feed), (.addition "one".toList, .returnFeed),
    (.blank [], .feed), (.hunkHeader " -9 +10 @@".toList, .feed), (.deletion "old".toList, .feed),
    (.addition "two".toList, .feed), (.remark " No newline at end of file".toList, .feed)]
  isPlainLine_fileHeader := by decide
  isFileHeader_fileHeader := by decide
  isPlainLine_hunkHeader := by decide
  startsWith_hunkHeader := by decide
  isPlainLine_body := by decide
  isOfItsKind_body := by decide

/-- The line between the hunks is counted, and so is the second hunk header. -/
theorem read_text_of_two_hunks :
    twoHunks.text = "--- a/x\r\n+++ b/x\n@@ -1 +1,2 @@\n ctx\n+one\r\n\n@@ -9 +10 @@\n-old\n" ++
        "+two\n\\ No newline at end of file\n" ∧
      (Patch.ofText twoHunks.text).lines = [⟨"one", 2⟩, ⟨"two", 6⟩] :=
  ⟨by decide, twoHunks.read_text.1.trans (by decide)⟩

end WrittenPatch

end PatchReview
