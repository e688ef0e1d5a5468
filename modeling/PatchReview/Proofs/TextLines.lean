import Mathlib.Data.List.Basic
import PatchReview.Text.Lines
import PatchReview.Text.Split

/-!
# Lines of a written text

Lines are written one after the other, each with a line feed behind it or with a carriage
return and a line feed.  They are read back, and the text behind them is read as if it
stood alone.  Only the last line of a text may lack its line feed; this module says what
adding one changes.

Main results:

- Theorem `lines_writeLines_append`: written lines are read back, whatever follows them.
- Theorems `segments_joinLines`, `exists_joinLines_append`: the segments of joined lines, and
  every text as joined lines and a last one.
- Theorem `lines_append_of_isEnded`: a text is read up to the end of a line, then on.
- Theorem `lines_append_newline`: what a line feed at the end of a text changes.
-/

namespace PatchReview.Text

/-! ## Written lines -/

/-- What stands behind a line. -/
inductive LineEnd where
  | feed
  | returnFeed
  deriving DecidableEq, Repr

/-- The characters behind a line. -/
def LineEnd.spell : LineEnd → List Char
  | .feed => ['\n']
  | .returnFeed => ['\r', '\n']

/-- A text of lines, each with what stands behind it. -/
def writeLines (lines : List (List Char × LineEnd)) : List Char :=
  lines.flatMap fun (line, lineEnd) => line ++ lineEnd.spell

/-- A line that does not run into what stands behind it: it has no line feed, and a
carriage return at its end would be taken for a part of its end. -/
structure IsPlainLine (line : List Char) : Prop where
  newline_notMem : '\n' ∉ line
  return_notMem_getLast? : '\r' ∉ line.getLast?

instance (line : List Char) : Decidable (IsPlainLine line) :=
  decidable_of_iff ('\n' ∉ line ∧ '\r' ∉ line.getLast?)
    ⟨fun h => ⟨h.1, h.2⟩, fun h => ⟨h.newline_notMem, h.return_notMem_getLast?⟩⟩

/-- A line with its line feed is the first segment of a text that starts with it. -/
theorem segments_append {line : List Char} (h : '\n' ∉ line) (rest : List Char) :
    segments (line ++ '\n' :: rest) = (line ++ ['\n']) :: segments rest := by
  induction line with
  | nil => rfl
  | cons c line ih =>
      rw [List.mem_cons, not_or] at h
      rw [List.cons_append, segments, if_neg (Ne.symm h.1), ih h.2]
      rfl

/-- A line feed is taken off a line that does not end in a carriage return. -/
theorem stripTerminator_append {line : List Char} (h : '\r' ∉ line.getLast?) :
    stripTerminator (line ++ ['\n']) = line := by
  unfold stripTerminator
  rw [List.reverse_append, List.reverse_singleton, List.singleton_append]
  split
  · next body heq =>
    have hlast : line.getLast? = some '\r' := by
      rw [← List.head?_reverse, (List.cons.inj heq).2]
      rfl
    exact absurd hlast h
  · next body _ heq =>
    rw [← (List.cons.inj heq).2, List.reverse_reverse]
  · next _ hnot => exact absurd rfl (hnot _)

/-- A carriage return before the line feed is taken off with it. -/
theorem stripTerminator_append_return (line : List Char) :
    stripTerminator (line ++ ['\r', '\n']) = line := by
  simp [stripTerminator]

/-- What is taken off the end of a segment are a carriage return and a line feed at most. -/
theorem exists_stripTerminator (segment : List Char) :
    ∃ ending, segment = stripTerminator segment ++ ending ∧ ∀ c ∈ ending, c = '\r' ∨ c = '\n' := by
  unfold stripTerminator
  split
  · next body heq => exact ⟨['\r', '\n'], by simpa using congrArg List.reverse heq, by simp⟩
  · next body _ heq => exact ⟨['\n'], by simpa using congrArg List.reverse heq, by simp⟩
  · exact ⟨[], (List.append_nil segment).symm, by simp⟩

/-- The lines of a text that starts with a line and its line feed. -/
theorem lines_append_newline_cons {line : List Char} (h : '\n' ∉ line) (rest : List Char) :
    lines (line ++ '\n' :: rest) = stripTerminator (line ++ ['\n']) :: lines rest := by
  rw [lines, segments_append h, List.map_cons, lines]

/-- A line is read back, whichever end it has. -/
theorem lines_append_spell {line : List Char} (h : IsPlainLine line) (lineEnd : LineEnd)
    (rest : List Char) : lines (line ++ lineEnd.spell ++ rest) = line :: lines rest := by
  cases lineEnd with
  | feed =>
      rw [List.append_assoc, LineEnd.spell, List.singleton_append,
        lines_append_newline_cons h.newline_notMem, stripTerminator_append h.return_notMem_getLast?]
  | returnFeed =>
      have hnewline : '\n' ∉ line ++ ['\r'] := by
        simp [h.newline_notMem]
      have hsplit : line ++ LineEnd.returnFeed.spell ++ rest = line ++ ['\r'] ++ '\n' :: rest := by
        simp [LineEnd.spell]
      rw [hsplit, lines_append_newline_cons hnewline, List.append_assoc, List.singleton_append,
        stripTerminator_append_return]

/-- Written lines are read back, whatever follows them. -/
theorem lines_writeLines_append {ls : List (List Char × LineEnd)}
    (h : ∀ l ∈ ls, IsPlainLine l.1) (rest : List Char) :
    lines (writeLines ls ++ rest) = ls.map (·.1) ++ lines rest := by
  induction ls with
  | nil => rfl
  | cons l ls ih =>
      obtain ⟨hl, hls⟩ := List.forall_mem_cons.1 h
      rw [writeLines, List.flatMap_cons, List.append_assoc, lines_append_spell hl, ← writeLines,
        ih hls, List.map_cons, List.cons_append]

/-! ## Joined lines -/

/-- A text of lines, each with a line feed at its end. -/
def joinLines (lines : List (List Char)) : List Char :=
  lines.flatMap (· ++ ['\n'])

/-- The segments of a text that starts with some lines start with these lines. -/
theorem segments_joinLines {ls : List (List Char)} (h : ∀ line ∈ ls, '\n' ∉ line)
    (rest : List Char) :
    segments (joinLines ls ++ rest) = ls.map (· ++ ['\n']) ++ segments rest := by
  induction ls with
  | nil => rfl
  | cons line ls ih =>
      obtain ⟨hline, hls⟩ := List.forall_mem_cons.1 h
      rw [joinLines, List.flatMap_cons, List.append_assoc, List.append_assoc, List.singleton_append,
        segments_append hline, ← joinLines, ih hls]
      rfl

/-- Lines are joined by putting an end behind each but the last. -/
theorem intercalate_append {block rest : List (List Char)} (hrest : rest ≠ []) :
    ['\n'].intercalate (block ++ rest) = joinLines block ++ ['\n'].intercalate rest := by
  induction block with
  | nil => rfl
  | cons line block ih =>
      obtain ⟨next, more, hmore⟩ := List.exists_cons_of_ne_nil (List.append_ne_nil_of_right_ne_nil block hrest)
      rw [List.cons_append, hmore, List.intercalate_cons_cons, ← hmore, ih, joinLines, joinLines,
        List.flatMap_cons, List.append_assoc, List.append_assoc, List.append_assoc]

/-- A text is some lines with a line feed behind each, and a last line. -/
theorem exists_joinLines_append (s : List Char) :
    ∃ ls last, s = joinLines ls ++ last ∧ fields (· == '\n') s = ls ++ [last] ∧
      (∀ line ∈ ls, '\n' ∉ line) ∧ '\n' ∉ last := by
  induction s with
  | nil => exact ⟨[], [], rfl, rfl, nofun, List.not_mem_nil⟩
  | cons c s ih =>
      obtain ⟨ls, last, rfl, hfields, hls, hlast⟩ := ih
      by_cases hc : c = '\n'
      · subst hc
        refine ⟨[] :: ls, last, rfl, ?_, List.forall_mem_cons.2 ⟨List.not_mem_nil, hls⟩, hlast⟩
        rw [fields, if_pos (beq_self_eq_true _), hfields, List.cons_append]
      · rw [fields, if_neg (by simpa using hc), hfields]
        cases ls with
        | nil =>
            exact ⟨[], c :: last, rfl, rfl, nofun,
              List.not_mem_cons_of_ne_of_not_mem (Ne.symm hc) hlast⟩
        | cons line ls =>
            obtain ⟨hline, hls⟩ := List.forall_mem_cons.1 hls
            have hline : '\n' ∉ c :: line := List.not_mem_cons_of_ne_of_not_mem (Ne.symm hc) hline
            exact ⟨(c :: line) :: ls, last, rfl, rfl, List.forall_mem_cons.2 ⟨hline, hls⟩, hlast⟩

/-! ## The last line -/

/-- A text that stops at the end of a line. -/
def IsEnded (s : List Char) : Prop :=
  ∀ c ∈ s.getLast?, c = '\n'

/-- A text that is not empty has segments. -/
theorem segments_ne_nil {s : List Char} (h : s ≠ []) : segments s ≠ [] := by
  intro hnil
  have hflatten := flatten_segments s
  rw [hnil] at hflatten
  exact h hflatten.symm

/-- Behind the end of a line the segments start anew. -/
theorem segments_append_of_isEnded {s : List Char} (h : IsEnded s) (rest : List Char) :
    segments (s ++ rest) = segments s ++ segments rest := by
  induction s with
  | nil => rfl
  | cons c s ih =>
      by_cases hs : s = []
      · subst hs
        obtain rfl : c = '\n' := h c rfl
        rfl
      · have hended : IsEnded s := by
          intro d hd
          exact h d (by rwa [List.getLast?_cons_of_ne_nil hs])
        rw [List.cons_append, segments, segments, ih hended]
        by_cases hc : c = '\n'
        · rw [if_pos hc, if_pos hc, List.cons_append]
        · rw [if_neg hc, if_neg hc]
          cases hsegments : segments s with
          | nil => exact absurd hsegments (segments_ne_nil hs)
          | cons first others => rfl

/-- A text is read up to the end of a line, then on. -/
theorem lines_append_of_isEnded {s : List Char} (h : IsEnded s) (rest : List Char) :
    lines (s ++ rest) = lines s ++ lines rest := by
  rw [lines, segments_append_of_isEnded h, List.map_append, lines, lines]

/-- Joined lines end with the end of the last. -/
theorem isEnded_joinLines (ls : List (List Char)) : IsEnded (joinLines ls) := by
  induction ls with
  | nil => exact nofun
  | cons line ls ih =>
      rw [joinLines, List.flatMap_cons, ← joinLines, IsEnded, List.getLast?_append,
        List.getLast?_concat]
      intro c hc
      cases hlast : (joinLines ls).getLast? with
      | none =>
          rw [hlast] at hc
          exact (Option.some.inj hc).symm
      | some d =>
          rw [hlast] at hc
          exact ih c (hlast.trans hc)

/-- A text is some lines with their ends and a rest without line feed. -/
theorem exists_isEnded_append (s : List Char) :
    ∃ before last, s = before ++ last ∧ IsEnded before ∧ '\n' ∉ last := by
  obtain ⟨ls, last, hs, -, -, hlast⟩ := exists_joinLines_append s
  exact ⟨joinLines ls, last, hs, isEnded_joinLines ls, hlast⟩

/-- Without a line feed at its end nothing is taken off a segment. -/
theorem stripTerminator_eq_self {last : List Char} (h : '\n' ∉ last) :
    stripTerminator last = last := by
  unfold stripTerminator
  split
  · next body heq =>
    have hmem : '\n' ∈ last.reverse := heq ▸ List.mem_cons_self
    exact absurd (List.mem_reverse.1 hmem) h
  · next body _ heq =>
    have hmem : '\n' ∈ last.reverse := heq ▸ List.mem_cons_self
    exact absurd (List.mem_reverse.1 hmem) h
  · rfl

/-- A text without line feed is one segment. -/
theorem segments_of_newline_notMem {last : List Char} (h : '\n' ∉ last) (hne : last ≠ []) :
    segments last = [last] := by
  induction last with
  | nil => exact absurd rfl hne
  | cons c rest ih =>
      rw [List.mem_cons, not_or] at h
      rw [segments, if_neg (Ne.symm h.1)]
      by_cases hrest : rest = []
      · rw [hrest]
        rfl
      · rw [ih h.2 hrest]

/-- A text without line feed is one line, and nothing is taken off it. -/
theorem lines_of_newline_notMem {last : List Char} (h : '\n' ∉ last) (hne : last ≠ []) :
    lines last = [last] := by
  rw [lines, segments_of_newline_notMem h hne, List.map_singleton, stripTerminator_eq_self h]

/-- A carriage return at the end of a text belongs to its last line, but it is a part of the
end of that line once a line feed follows. -/
theorem lines_append_return {before last : List Char} (hbefore : IsEnded before)
    (hlast : '\n' ∉ last) :
    lines (before ++ (last ++ ['\r'])) = lines before ++ [last ++ ['\r']] ∧
      lines (before ++ (last ++ ['\r']) ++ ['\n']) = lines before ++ [last] := by
  have hnewline : '\n' ∉ last ++ ['\r'] := by
    simp [hlast]
  constructor
  · rw [lines_append_of_isEnded hbefore, lines_of_newline_notMem hnewline (by simp)]
  · rw [List.append_assoc, lines_append_of_isEnded hbefore, lines_append_newline_cons hnewline [],
      List.append_assoc, List.singleton_append, stripTerminator_append_return]
    rfl

/-- A line feed at the end of a text adds an empty line behind the end of a line.  Else it
changes no line, unless the text ends in a carriage return. -/
theorem lines_append_newline (s : List Char) :
    lines (s ++ ['\n']) = lines s ++ [[]] ∨ lines (s ++ ['\n']) = lines s ∨
      ∃ before last, s = before ++ (last ++ ['\r']) ∧ IsEnded before ∧ '\n' ∉ last := by
  obtain ⟨before, last, rfl, hbefore, hlast⟩ := exists_isEnded_append s
  by_cases hreturn : '\r' ∈ last.getLast?
  · right; right
    obtain ⟨body, rfl⟩ := List.getLast?_eq_some_iff.1 hreturn
    exact ⟨before, body, rfl, hbefore, fun hmem => hlast (List.mem_append_left _ hmem)⟩
  · have hnewline : lines (before ++ last ++ ['\n']) = lines before ++ [last] := by
      rw [List.append_assoc, lines_append_of_isEnded hbefore, lines_append_newline_cons hlast [],
        stripTerminator_append hreturn]
      rfl
    rw [hnewline, lines_append_of_isEnded hbefore]
    by_cases hne : last = []
    · left
      subst hne
      rw [show lines [] = [] from rfl, List.append_nil]
    · right; left
      rw [lines_of_newline_notMem hlast hne]

end PatchReview.Text
