import Mathlib.Data.List.DropRight
import PatchReview.Proofs.FilePatternText
import PatchReview.Proofs.PatternSearch

/-!
# Which paths a file pattern selects

Each part of a file pattern stands for some texts, and a file pattern for the texts that
its parts make up from left to right.  The pattern that is run matches these texts, except
that `**/` and `**` do not run over a line feed.  So a path without line feeds is selected
exactly if one of the file patterns stands for it, by the function for single use and by a
set made ready for many paths alike.

Main results:

- Definition `Stands`: the texts that a file pattern stands for.
- Definition `Fits`: the texts that the pattern of a file pattern matches.
- Theorem `isMatch_exprOf`: the pattern that is run matches just these texts.
- Theorem `fits_iff_denotes`: on one line they are those that the file pattern stands for.
- Theorem `fits_ending_iff`: the paths that fit a file pattern for the end of a name.
- Theorem `stands_of_selectsAll`: file patterns that are not run stand for every text.
- Theorem `isMatch_ofList_of_run`: the paths that a set selects by running its patterns.
- Theorem `selected_iff_stands`: which paths are selected.
-/

namespace PatchReview

open Pattern

namespace FilePattern

open Pattern.Expr

/-! ## What file patterns stand for -/

/-- The texts that a part of a file pattern stands for. -/
def Part.Means : Part → List Char → Prop
  | .directories, w => w = [] ∨ w.getLast? = some '/'
  | .anything, _ => True
  | .name, w => '/' ∉ w
  | .literal c, w => w = [c]

/-- The texts that some parts stand for, one after the other. -/
def Denotes : List Part → List Char → Prop
  | [], w => w = []
  | part :: rest, w => ∃ u v, w = u ++ v ∧ part.Means u ∧ Denotes rest v

/-- A file pattern stands for a whole path. -/
def Stands (p path : String) : Prop :=
  Denotes (parts p.toList) path.toList

/-! ## What the patterns of file patterns match -/

/-- Whether a part runs over the slashes of a path. -/
def Part.crossesSlashes : Part → Bool
  | .directories | .anything => true
  | .name | .literal _ => false

/-- The texts that the pattern of a part matches: those that the part stands for, but for
a part that runs over slashes none with a line feed. -/
def Part.Spans (part : Part) (w : List Char) : Prop :=
  part.Means w ∧ (part.crossesSlashes = true → '\n' ∉ w)

/-- The texts that the patterns of some parts match, one after the other. -/
def Fits : List Part → List Char → Prop
  | [], w => w = []
  | part :: rest, w => ∃ u v, w = u ++ v ∧ part.Spans u ∧ Fits rest v

/-- On one line, the pattern of a part matches what the part stands for. -/
theorem Part.spans_iff_means {part : Part} {w : List Char} (hline : '\n' ∉ w) :
    part.Spans w ↔ part.Means w :=
  and_iff_left fun _ => hline

/-- On one line, the patterns of some parts match what the parts stand for. -/
theorem fits_iff_denotes (ps : List Part) {w : List Char} (hline : '\n' ∉ w) :
    Fits ps w ↔ Denotes ps w := by
  induction ps generalizing w with
  | nil => rfl
  | cons part ps ih =>
      refine exists_congr fun u => exists_congr fun v => and_congr_right ?_
      rintro rfl
      rw [List.mem_append, not_or] at hline
      exact and_congr (Part.spans_iff_means hline.1) (ih hline.2)

/-- The pattern of a part matches the texts that the part spans. -/
theorem matches_expr (part : Part) {p n : Option Char} {w : List Char} :
    Matches part.expr p w n ↔ part.Spans w := by
  have hset : ∀ (d : Char) {u : List Char} {p n : Option Char},
      Matches (.star (.chars (.compl (.single d)))) p u n ↔ d ∉ u := by
    intro d u p n
    simp only [matches_star_chars, CharSet.contains_compl_iff, CharSet.contains_single_iff]
    exact List.forall_mem_ne'
  cases part with
  | directories =>
      simp only [Part.expr, Part.Spans, Part.Means, Part.crossesSlashes, matches_optional,
        matches_seq, List.getLast?_eq_some_iff, hset, matches_char, forall_const]
      constructor
      · rintro (⟨u, v, rfl, hu, rfl⟩ | rfl)
        · exact ⟨Or.inr ⟨u, rfl⟩, by simpa using hu⟩
        · exact ⟨Or.inl rfl, List.not_mem_nil⟩
      · rintro ⟨rfl | ⟨u, rfl⟩, hu⟩
        · exact Or.inr rfl
        · exact Or.inl ⟨u, ['/'], rfl, by simpa using hu, rfl⟩
  | anything => simp [Part.expr, Part.Spans, Part.Means, Part.crossesSlashes, hset]
  | name => simp [Part.expr, Part.Spans, Part.Means, Part.crossesSlashes, hset]
  | literal c => simp [Part.expr, Part.Spans, Part.Means, Part.crossesSlashes]

/-- The patterns of some parts match the texts that fit the parts. -/
theorem matches_parts (ps : List Part) {p n : Option Char} {w : List Char} :
    Matches (.seqAll (ps.map Part.expr)) p w n ↔ Fits ps w := by
  induction ps generalizing p w with
  | nil => exact matches_empty
  | cons part ps ih => simp only [List.map_cons, matches_seqAll_cons, matches_expr, ih, Fits]

/-- The pattern of a file pattern is found in the texts that fit its parts. -/
theorem isMatch_exprOf (ps : List Part) (text : List Char) :
    (exprOf ps).isMatch text = true ↔ Fits ps text := by
  rw [exprOf, isMatch_whole, matches_parts]

/-! ## Names in any directory -/

/-- Every text is cut behind its last slash. -/
theorem exists_cut_behind_slash (w : List Char) :
    ∃ u v, w = u ++ v ∧ Part.directories.Means u ∧ Part.name.Means v := by
  induction w with
  | nil => exact ⟨[], [], rfl, Or.inl rfl, nofun⟩
  | cons c w ih =>
      obtain ⟨u, v, rfl, rfl | hu, hv⟩ := ih
      · by_cases hc : c = '/'
        · exact ⟨['/'], v, by rw [hc]; rfl, Or.inr rfl, hv⟩
        · exact ⟨[], c :: v, rfl, Or.inl rfl, List.not_mem_cons_of_ne_of_not_mem (Ne.symm hc) hv⟩
      · refine ⟨c :: u, v, rfl, Or.inr ?_, hv⟩
        rw [List.getLast?_cons, hu]
        rfl

/-- The directories of a path: the path up to its last slash. -/
def directory (path : List Char) : List Char :=
  path.rdropWhile (· ≠ '/')

/-- The directories of a path are what its cut behind the last slash leaves in front. -/
theorem directory_append {u v : List Char} (hu : Part.directories.Means u)
    (hv : Part.name.Means v) : directory (u ++ v) = u := by
  have hname : ∀ c ∈ v.reverse, decide (c ≠ '/') = true := by
    intro c hc
    rw [decide_eq_true_eq]
    rintro rfl
    exact hv (List.mem_reverse.1 hc)
  rw [directory, List.rdropWhile, List.reverse_append, List.dropWhile_append_of_pos hname]
  rcases hu with rfl | hu
  · rfl
  · obtain ⟨u, rfl⟩ := List.getLast?_eq_some_iff.1 hu
    simp

/-- Only a text itself fits its characters. -/
theorem fits_literals {s w : List Char} : Fits (s.map .literal) w ↔ w = s := by
  induction s generalizing w with
  | nil => rfl
  | cons c s ih =>
      simp only [List.map_cons, Fits, ih, Part.Spans, Part.Means, Part.crossesSlashes]
      simp

/-- A file pattern of names that end in a given text, in any directory, fits the paths that
end so and have no line feed in their directories. -/
theorem fits_ending_iff {s : List Char} (hs : '/' ∉ s) {w : List Char} :
    Fits (.directories :: .name :: s.map .literal) w ↔ s <:+ w ∧ '\n' ∉ directory w := by
  simp only [Fits, fits_literals]
  constructor
  · rintro ⟨u, v, rfl, ⟨hu, hline⟩, name, ending, rfl, ⟨hname, -⟩, rfl⟩
    have hv : Part.name.Means (name ++ ending) := by simpa [Part.Means, hs] using hname
    rw [directory_append hu hv, ← List.append_assoc]
    exact ⟨List.suffix_append _ _, hline rfl⟩
  · rintro ⟨⟨t, rfl⟩, hline⟩
    obtain ⟨u, v, rfl, hu, hv⟩ := exists_cut_behind_slash t
    have hname : Part.name.Means (v ++ s) := by simpa [Part.Means, hs] using hv
    rw [List.append_assoc, directory_append hu hname] at hline
    exact ⟨u, v ++ s, List.append_assoc _ _ _, ⟨hu, fun _ => hline⟩, v, s, rfl, ⟨hv, nofun⟩, rfl⟩

/-! ## File patterns that are not run -/

/-- A file pattern that is not run stands for every path. -/
theorem stands_of_selectsAll {p : String} (h : selectsAll p = true) (path : String) :
    Stands p path := by
  simp only [selectsAll, Bool.or_eq_true, beq_iff_eq] at h
  rcases h with rfl | rfl
  · obtain ⟨u, v, hcut, hu, hv⟩ := exists_cut_behind_slash path.toList
    have hparts : parts "**/*".toList = [.directories, .name] := by decide
    rw [Stands, hparts, hcut]
    exact ⟨u, v, rfl, hu, v, [], (List.append_nil v).symm, hv, rfl⟩
  · have hparts : parts "**".toList = [.anything] := by decide
    rw [Stands, hparts]
    exact ⟨path.toList, [], (List.append_nil _).symm, trivial, rfl⟩

/-- A set with a file pattern that is not run selects every path. -/
theorem isMatch_of_selectsAll {patterns : List String}
    (hall : ∃ p ∈ patterns, selectsAll p = true) (path : String) :
    (FilePatternSet.ofList patterns).isMatch path = true := by
  rw [FilePatternSet.ofList, List.any_eq_true.2 hall, Bool.or_true]
  rfl

/-! ## Selection -/

/-- A set of file patterns that are run selects the paths that fit one of them. -/
theorem isMatch_ofList_of_run {patterns : List String}
    (hrun : (patterns.isEmpty || patterns.any selectsAll) = false) (path : String) :
    (FilePatternSet.ofList patterns).isMatch path = true ↔
      ∃ p ∈ patterns, Fits (parts p.toList) path.toList := by
  have hread : (patterns.filterMap fun p => (Expr.ofText? (toPattern p).toList false).toOption) =
      patterns.map fun p => exprOf (parts p.toList) := by
    simp only [ofText?_toPattern, Except.toOption]
    exact congrFun List.filterMap_eq_map patterns
  simp only [FilePatternSet.ofList, hrun, Bool.false_eq_true, if_false, hread,
    FilePatternSet.isMatch, Bool.false_or, List.any_map, List.any_eq_true, Function.comp_apply,
    isMatch_exprOf]

/-- A set of file patterns selects the paths that one of them stands for. -/
theorem isMatch_ofList {patterns : List String} (hne : patterns ≠ []) {path : String}
    (hline : '\n' ∉ path.toList) :
    (FilePatternSet.ofList patterns).isMatch path = true ↔ ∃ p ∈ patterns, Stands p path := by
  have hempty : patterns.isEmpty = false := List.isEmpty_eq_false_iff.2 hne
  cases hany : patterns.any selectsAll with
  | true =>
      -- one of the file patterns stands for every path
      obtain ⟨p, hp, hselects⟩ := List.any_eq_true.1 hany
      exact iff_of_true (isMatch_of_selectsAll ⟨p, hp, hselects⟩ path)
        ⟨p, hp, stands_of_selectsAll hselects path⟩
  | false =>
      have hrun : (patterns.isEmpty || patterns.any selectsAll) = false := by
        rw [hempty, hany, Bool.false_or]
      rw [isMatch_ofList_of_run hrun]
      simp only [fits_iff_denotes _ hline]
      rfl

/-- Every file pattern can be read as a pattern.  A path without line feeds is selected by
some file patterns, taken one by one or as a set, exactly if one of them stands for it. -/
theorem selected_iff_stands {patterns : List String} (hne : patterns ≠ []) {path : String}
    (hline : '\n' ∉ path.toList) :
    (∀ p : String, ∃ e, Expr.ofText? (toPattern p).toList false = .ok e) ∧
      (anySelects patterns path = true ↔ ∃ p ∈ patterns, Stands p path) ∧
      ((FilePatternSet.ofList patterns).isMatch path = true ↔ ∃ p ∈ patterns, Stands p path) := by
  refine ⟨fun p => ⟨_, ofText?_toPattern p⟩, ?_, isMatch_ofList hne hline⟩
  rw [anySelects, List.any_eq_true]
  refine exists_congr fun p => and_congr_right fun _ => ?_
  have hone : (FilePatternSet.ofList [p]).isMatch path = true ↔ Stands p path := by
    rw [isMatch_ofList (List.cons_ne_nil p []) hline]
    simp
  rw [Bool.or_eq_true, hone, or_iff_right_of_imp fun h => stands_of_selectsAll h path]

/-- A path with characters that mean something in patterns, and a file pattern with three
stars and these characters. -/
theorem selected_iff_stands_marks :
    let patterns := ["*", "src/***/(a+b)?.[x]"]
    let path := "src/x/(a+b)?.[x]"
    patterns ≠ [] ∧ '\n' ∉ path.toList ∧ anySelects patterns path = true ∧
      (FilePatternSet.ofList patterns).isMatch path = true ∧ ∃ p ∈ patterns, Stands p path := by
  intro patterns path
  have hne : patterns ≠ [] := List.cons_ne_nil _ _
  have hline : '\n' ∉ path.toList := by decide
  have hselected : anySelects patterns path = true := by decide +kernel
  obtain ⟨-, hone, hset⟩ := selected_iff_stands hne hline
  have hstands := hone.1 hselected
  exact ⟨hne, hline, hselected, hset.2 hstands, hstands⟩

end FilePattern

end PatchReview
