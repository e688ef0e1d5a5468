import Mathlib.Data.List.Basic
import PatchReview.Proofs.ClauseFindings
import PatchReview.Proofs.PatchLines

/-!
# Anchoring findings

Clauses count the added lines of a file, comments are placed by diff position.
Anchoring goes from the one to the other.  The clauses are given the added lines of
the same patch, so every number that they report is that of an added line: nothing
is left out, and a finding ends up at the position of the line that was reported.

Main results:

- Theorems `value_anchor` and `warnings_anchor`: what anchoring keeps and leaves out.
- Theorem `value_anchor_evaluateClauses`: anchored findings without line numbers.
- Theorem `warnings_anchor_evaluateClauses`: nothing that clauses find is left out.
-/

namespace PatchReview

/-- The finding of a clause at an added line. -/
def Clause.findingOf (c : Clause) (path : String) (line : AddedLine) : Finding where
  path := path
  position := line.position
  message := c.message
  ruleId := some c.id
  severity := some c.severity

namespace Patch

/-- Anchoring keeps the findings at numbers of added lines, at the positions of these
lines. -/
theorem value_anchor (p : Patch) (found : List LineFinding) :
    (p.anchor found).value =
      found.filterMap fun f => (p.positionOf f.line).map f.atPosition := by
  induction found with
  | nil => rfl
  | cons f found ih =>
      rw [anchor, List.filterMap_cons]
      cases hposition : p.positionOf f.line with
      | none => exact ih
      | some position =>
          rw [Option.map_some, ← ih]
          rfl

/-- Anchoring warns of every other finding. -/
theorem warnings_anchor (p : Patch) (found : List LineFinding) :
    (p.anchor found).warnings =
      (found.filter fun f => (p.positionOf f.line).isNone).map fun _ =>
        .findingOutsidePatch := by
  induction found with
  | nil => rfl
  | cons f found ih =>
      rw [anchor, List.filter_cons]
      cases hposition : p.positionOf f.line with
      | none =>
          rw [Logged.warnings_bind, ih]
          rfl
      | some position =>
          rw [Logged.warnings_bind, ih]
          exact List.append_nil _

/-- The number of an added line stands for the position of this line. -/
theorem positionOf_of_mem_zipIdx {p : Patch} {line : AddedLine} {number : Nat}
    (h : (line, number) ∈ p.lines.zipIdx 1) : p.positionOf number = some line.position := by
  obtain ⟨hpos, hline⟩ := List.mk_mem_zipIdx_iff_le_and_getElem?_sub.1 h
  rw [positionOf, if_neg (by omega), hline, Option.map_some]

/-- The findings of a clause in the added lines of a patch, by the added lines. -/
theorem value_evaluate_addedLines (p : Patch) (c : Clause) (path : String) :
    (c.evaluate path p.addedLines).value =
      ((p.lines.zipIdx 1).filter fun l => c.reports p.addedLines l.1.text).map fun l =>
        c.findingAt path l.2 := by
  have hnumbers : p.addedLines.zipIdx 1 = (p.lines.zipIdx 1).map fun l => (l.1.text, l.2) := by
    rw [addedLines, List.zipIdx_map]
    rfl
  rw [Clause.value_evaluate, hnumbers, List.filter_map, List.map_map]
  rfl

/-- What a clause finds in the added lines of a patch ends up at the positions of the
lines that it reports. -/
theorem value_anchor_evaluate (p : Patch) (c : Clause) (path : String) :
    (p.anchor (c.evaluate path p.addedLines).value).value =
      (p.lines.filter fun line => c.reports p.addedLines line.text).map (c.findingOf path) := by
  have hanchored : ∀ l ∈ (p.lines.zipIdx 1).filter fun l => c.reports p.addedLines l.1.text,
      (p.positionOf (c.findingAt path l.2).line).map (c.findingAt path l.2).atPosition =
        some (c.findingOf path l.1) := by
    intro l hl
    have hposition : p.positionOf l.2 = some l.1.position :=
      positionOf_of_mem_zipIdx (List.mem_filter.1 hl).1
    have hline : (c.findingAt path l.2).line = l.2 := rfl
    rw [hline, hposition]
    rfl
  have hlines : (p.lines.filter fun line => c.reports p.addedLines line.text) =
      ((p.lines.zipIdx 1).filter fun l => c.reports p.addedLines l.1.text).map Prod.fst := by
    conv_lhs => rw [← List.zipIdx_map_fst 1 p.lines, List.filter_map]
    rfl
  rw [value_anchor, value_evaluate_addedLines, List.filterMap_map, hlines, List.map_map]
  exact (List.filterMap_congr hanchored).trans (congrFun List.filterMap_eq_map' _)

/-- What clauses find in the added lines of a patch ends up at the positions of the lines
that they report, clause by clause. -/
theorem value_anchor_evaluateClauses (p : Patch) (path : String) (clauses : List Clause) :
    (p.anchor (evaluateClauses path p.addedLines clauses).value).value =
      clauses.flatMap fun c =>
        (p.lines.filter fun line => c.reports p.addedLines line.text).map (c.findingOf path) := by
  rw [value_anchor, value_evaluateClauses, List.filterMap_flatMap]
  congr 1
  funext c
  rw [← value_anchor, value_anchor_evaluate]

/-- Nothing that clauses find in the added lines of a patch is outside of it. -/
theorem warnings_anchor_evaluateClauses (p : Patch) (path : String) (clauses : List Clause) :
    (p.anchor (evaluateClauses path p.addedLines clauses).value).warnings = [] := by
  rw [warnings_anchor, List.map_eq_nil_iff, List.filter_eq_nil_iff, value_evaluateClauses]
  intro f hf
  obtain ⟨c, -, hf⟩ := List.mem_flatMap.1 hf
  rw [value_evaluate_addedLines] at hf
  obtain ⟨l, hl, rfl⟩ := List.mem_map.1 hf
  have hposition : p.positionOf l.2 = some l.1.position :=
    positionOf_of_mem_zipIdx (List.mem_filter.1 hl).1
  have hline : (c.findingAt path l.2).line = l.2 := rfl
  rw [hline, hposition]
  exact Bool.false_ne_true

end Patch

end PatchReview
