import PatchReview.Proofs.FilePatternMeaning

/-!
# File patterns that are not run

A set with a file pattern that selects every path answers without running anything.  The
pattern it does not run would answer the same for a path without line feeds.  It would not
find a path with a line feed where `**/` or `**` has to run over it, so for such a path the
set and the patterns agree only if some pattern finds the path another way.

Main results:

- Definition `isFound`: whether the pattern of a file pattern matches a path.
- Theorem `isFound_iff`: which paths the pattern of a file pattern matches.
- Theorems `isFound_anything_iff` and `isFound_everything_iff`: the same for the file
  patterns that are not run.
- Theorem `isMatch_eq_any_isFound_iff`: when the set and the patterns agree.
-/

namespace PatchReview.FilePattern

open Pattern

/-- Whether the pattern of a file pattern matches a path when it is run. -/
def isFound (p path : String) : Bool :=
  match Expr.ofText? (toPattern p).toList false with
  | .ok e => e.isMatch path.toList
  | .error _ => false

/-- The pattern of a file pattern matches the paths that fit its parts. -/
theorem isFound_iff (p path : String) :
    isFound p path = true ↔ Fits (parts p.toList) path.toList := by
  rw [isFound, ofText?_toPattern]
  exact isMatch_exprOf _ _

/-- Any text is matched as long as it has no line feed. -/
theorem isFound_anything_iff (path : String) :
    isFound "**" path = true ↔ '\n' ∉ path.toList := by
  have hparts : parts "**".toList = [.anything] := by decide
  rw [isFound_iff, hparts]
  simp [Fits, Part.Spans, Part.Means, Part.crossesSlashes]

/-- Any name in any directory is matched as long as the directory has no line feed. -/
theorem isFound_everything_iff (path : String) :
    isFound everything path = true ↔ '\n' ∉ directory path.toList := by
  have hparts : parts everything.toList = .directories :: .name :: [].map .literal := by decide
  have hslash : '/' ∉ ([] : List Char) := List.not_mem_nil
  rw [isFound_iff, hparts, fits_ending_iff hslash]
  exact and_iff_right List.nil_suffix

/-- The file patterns that are not run are the two for every path. -/
theorem selectsAll_iff (p : String) : selectsAll p = true ↔ p = everything ∨ p = "**" := by
  simp [selectsAll, everything]

/-- A path without line feeds is matched by the file patterns that are not run. -/
theorem isFound_of_selectsAll {p : String} (h : selectsAll p = true) {path : String}
    (hline : '\n' ∉ path.toList) : isFound p path = true :=
  (isFound_iff p path).2 ((fits_iff_denotes _ hline).2 (stands_of_selectsAll h path))

/-- A set with a file pattern that selects every path does so.  It gives the answer of the
patterns that it does not run exactly if the path has no line feed, or has none in its
directories and may have any name, or is matched by the pattern of another file pattern. -/
theorem isMatch_eq_any_isFound_iff {patterns : List String}
    (hall : ∃ p ∈ patterns, selectsAll p = true) (path : String) :
    (FilePatternSet.ofList patterns).isMatch path = true ∧
      ((FilePatternSet.ofList patterns).isMatch path = patterns.any (isFound · path) ↔
        '\n' ∉ path.toList ∨ (everything ∈ patterns ∧ '\n' ∉ directory path.toList) ∨
          ∃ p ∈ patterns, selectsAll p = false ∧ Fits (parts p.toList) path.toList) := by
  have hset := isMatch_of_selectsAll hall path
  refine ⟨hset, ?_⟩
  rw [hset, eq_comm, List.any_eq_true]
  obtain ⟨q, hq, hselects⟩ := hall
  constructor
  · rintro ⟨p, hp, hfound⟩
    cases hp' : selectsAll p with
    | false => exact Or.inr (Or.inr ⟨p, hp, hp', (isFound_iff p path).1 hfound⟩)
    | true =>
        rcases (selectsAll_iff p).1 hp' with rfl | rfl
        · exact Or.inr (Or.inl ⟨hp, (isFound_everything_iff path).1 hfound⟩)
        · exact Or.inl ((isFound_anything_iff path).1 hfound)
  · rintro (hline | ⟨hmem, hline⟩ | ⟨p, hp, -, hfits⟩)
    · exact ⟨q, hq, isFound_of_selectsAll hselects hline⟩
    · exact ⟨everything, hmem, (isFound_everything_iff path).2 hline⟩
    · exact ⟨p, hp, (isFound_iff p path).2 hfits⟩

/-- A line feed in the name is no obstacle for names in any directory. -/
theorem isMatch_eq_any_isFound_of_name :
    let patterns := ["*.ts", "**/*"]
    let path := "src/a\nb"
    (∃ p ∈ patterns, selectsAll p = true) ∧
      (FilePatternSet.ofList patterns).isMatch path = true ∧
      (FilePatternSet.ofList patterns).isMatch path = patterns.any (isFound · path) := by
  intro patterns path
  have hall : ∃ p ∈ patterns, selectsAll p = true := ⟨"**/*", by decide, by decide⟩
  obtain ⟨hset, hagree⟩ := isMatch_eq_any_isFound_iff hall path
  exact ⟨hall, hset, hagree.2 (Or.inr (Or.inl ⟨by decide, by decide⟩))⟩

/-- The set selects a path of two lines that its only file pattern, run as a pattern, does
not match. -/
theorem isMatch_ne_any_isFound_of_two_lines :
    let patterns := ["**"]
    let path := "a\nb"
    (∃ p ∈ patterns, selectsAll p = true) ∧
      (FilePatternSet.ofList patterns).isMatch path ≠ patterns.any (isFound · path) :=
  ⟨⟨"**", by decide, by decide⟩, by decide +kernel⟩

end PatchReview.FilePattern
