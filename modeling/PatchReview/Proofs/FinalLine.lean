import PatchReview.Proofs.PatchLines
import PatchReview.Proofs.TextLines

/-!
# The last line of a patch

Patches often come without a line feed at their end.  Adding one changes no position and,
with one exception, no added line: a carriage return at the end of the text belongs to the
last line, and a line feed behind it makes it a part of the end of this line.

Main results:

- Definition `EndsInReturn`: the patches whose last line is added with a carriage return.
- Theorem `ofText_append_newline`: what a line feed at the end of a patch changes.
-/

namespace PatchReview

/-- An added line with a carriage return at the end of its text. -/
def AddedLine.withReturn (line : AddedLine) : AddedLine :=
  { line with text := line.text ++ "\r" }

namespace Patch

/-- The last line of a patch is an addition that ends in a carriage return, and no line
feed follows. -/
def EndsInReturn (patch : List Char) : Prop :=
  ∃ before text, patch = before ++ '+' :: (text ++ ['\r']) ∧ Text.IsEnded before ∧
    '\n' ∉ text ∧ ¬ ['+', '+'] <+: text

/-- An empty line at the end adds nothing. -/
theorem addedFrom_hunkLines_concat_nil (lines : List (List Char)) :
    addedFrom 1 (hunkLines (lines ++ [[]])) = addedFrom 1 (hunkLines lines) := by
  rw [addedFrom_hunkLines_concat]
  exact List.append_nil _

/-- A carriage return at the end of a line is a part of what that line adds. -/
theorem addedFrom_append_return (position : Nat) (line : List Char) :
    addedFrom position [line ++ ['\r']] =
      (addedFrom position [line]).map AddedLine.withReturn := by
  simp only [addedFrom, addedText?_append_return]
  cases addedText? line with
  | none => rfl
  | some text => simp [AddedLine.withReturn]

variable {patch : String}

/-- The lines that are read with a line feed at the end. -/
theorem lines_ofText_append_newline (patch : String) :
    (ofText (patch ++ "\n")).lines =
      addedFrom 1 (hunkLines (Text.lines (patch.toList ++ ['\n']))) := by
  rw [ofText, String.toList_append]
  rfl

/-- Reading a patch that ends in a carriage return, with a line feed behind it and
without. -/
theorem exists_lines_ofText_of_return {before last : List Char}
    (hpatch : patch.toList = before ++ (last ++ ['\r'])) (hbefore : Text.IsEnded before)
    (hlast : '\n' ∉ last) :
    ∃ lines position, (ofText (patch ++ "\n")).lines = lines ++ addedFrom position [last] ∧
      (ofText patch).lines =
        lines ++ (addedFrom position [last]).map AddedLine.withReturn := by
  obtain ⟨hopen, hclosed⟩ := Text.lines_append_return hbefore hlast
  refine ⟨addedFrom 1 (hunkLines (Text.lines before)),
    1 + (hunkLines (Text.lines before)).length, ?_, ?_⟩
  · rw [lines_ofText_append_newline, hpatch, hclosed, addedFrom_hunkLines_concat]
  · rw [ofText, hpatch, hopen, addedFrom_hunkLines_concat, addedFrom_append_return]

/-- If the last line is added with a carriage return, a line feed takes this off its text. -/
theorem exists_lines_of_endsInReturn (h : EndsInReturn patch.toList) :
    ∃ lines last, (ofText (patch ++ "\n")).lines = lines ++ [last] ∧
      (ofText patch).lines = lines ++ [last.withReturn] := by
  obtain ⟨before, text, hpatch, hbefore, htext, hplus⟩ := h
  have hlast : '\n' ∉ '+' :: text := List.not_mem_cons_of_ne_of_not_mem (by decide) htext
  obtain ⟨lines, position, hclosed, hopen⟩ := exists_lines_ofText_of_return hpatch hbefore hlast
  have hadded : addedFrom position ['+' :: text] = [⟨String.ofList text, position⟩] := by
    rw [addedFrom, addedText?_eq_some_iff.2 ⟨rfl, hplus⟩]
    rfl
  rw [hadded] at hclosed hopen
  exact ⟨lines, ⟨String.ofList text, position⟩, hclosed, hopen⟩

/-- If not, a line feed changes nothing. -/
theorem ofText_append_newline_of_not_endsInReturn (h : ¬ EndsInReturn patch.toList) :
    ofText (patch ++ "\n") = ofText patch := by
  refine congrArg Patch.mk (show (ofText (patch ++ "\n")).lines = (ofText patch).lines from ?_)
  rcases Text.lines_append_newline patch.toList with hlines | hlines |
    ⟨before, last, hpatch, hbefore, hlast⟩
  · rw [lines_ofText_append_newline, hlines, addedFrom_hunkLines_concat_nil, ofText]
  · rw [lines_ofText_append_newline, hlines, ofText]
  · obtain ⟨lines, position, hclosed, hopen⟩ := exists_lines_ofText_of_return hpatch hbefore hlast
    have hnone : addedText? last = none := by
      rw [Option.eq_none_iff_forall_ne_some]
      intro text hadded
      obtain ⟨rfl, hplus⟩ := addedText?_eq_some_iff.1 hadded
      have htext : '\n' ∉ text := fun hmem => hlast (List.mem_cons_of_mem _ hmem)
      exact h ⟨before, text, hpatch, hbefore, htext, hplus⟩
    rw [addedFrom_eq_nil (List.forall_mem_singleton.2 hnone)] at hclosed hopen
    exact hclosed.trans hopen.symm

/-- A line feed at the end of a patch changes no position.  It changes what is read exactly
if the last line is added with a carriage return at its end, and then it takes this off the
text of that line. -/
theorem ofText_append_newline (patch : String) :
    (ofText (patch ++ "\n")).lines.map (·.position) = (ofText patch).lines.map (·.position) ∧
      (ofText (patch ++ "\n") = ofText patch ↔ ¬ EndsInReturn patch.toList) ∧
      (EndsInReturn patch.toList → ∃ lines last, (ofText (patch ++ "\n")).lines = lines ++ [last] ∧
        (ofText patch).lines = lines ++ [last.withReturn]) := by
  refine ⟨?_, ⟨?_, ofText_append_newline_of_not_endsInReturn⟩, exists_lines_of_endsInReturn⟩
  · by_cases h : EndsInReturn patch.toList
    · obtain ⟨lines, last, hclosed, hopen⟩ := exists_lines_of_endsInReturn h
      rw [hclosed, hopen, List.map_append, List.map_append]
      rfl
    · rw [ofText_append_newline_of_not_endsInReturn h]
  · intro heq h
    obtain ⟨lines, last, hclosed, hopen⟩ := exists_lines_of_endsInReturn h
    rw [heq, hopen] at hclosed
    have hlast : last.withReturn = last := by simpa using hclosed
    have hlength := congrArg (fun line => line.text.length) hlast
    simp [AddedLine.withReturn] at hlength

/-- A patch of two lines, the last of which is added with a carriage return. -/
theorem ofText_append_newline_of_two_lines :
    EndsInReturn "@@\n+a\r".toList ∧ ofText ("@@\n+a\r" ++ "\n") ≠ ofText "@@\n+a\r" := by
  have hreturn : EndsInReturn "@@\n+a\r".toList :=
    ⟨"@@\n".toList, ['a'], by decide, by simp [Text.IsEnded], by decide, by decide⟩
  exact ⟨hreturn, fun heq => (ofText_append_newline _).2.1.1 heq hreturn⟩

/-- The last line of a patch with carriage returns: it keeps its own unless a line feed
follows. -/
theorem ofText_append_newline_ne_of_return :
    (ofText "@@ -1 +1,2 @@\r\n ctx\r\n+added\r").lines = [⟨"added\r", 2⟩] ∧
      (ofText ("@@ -1 +1,2 @@\r\n ctx\r\n+added\r" ++ "\n")).lines = [⟨"added", 2⟩] := by
  decide

end Patch

end PatchReview
