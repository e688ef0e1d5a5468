import PatchReview.Proofs.BuiltinRules
import PatchReview.Proofs.ClauseList
import PatchReview.Proofs.FilePatternShortcut

/-!
# Documents that are changed

A document keeps its file patterns twice: as the list that it shows, and made ready for
paths.  However it was made, and whatever is changed in it afterwards, the two agree, and
the list is not empty.  So the document applies to exactly the paths that one of the file
patterns it shows selects.

Main definitions:

- `Document.Edit`: the changes to a document.
- `Document.IsMade`: the documents that are made anew or read, and then changed.
- `Document.IsReady`: what holds of the two forms of the file patterns.

Main results:

- Theorem `FilePatternSet.isMatch_eq_anySelects_iff`: when a set and its file patterns, taken
  one by one, select the same paths.
- Theorem `Document.IsReady.apply`: every change keeps the two forms in agreement.
- Theorem `Document.appliesTo_eq_anySelects`: what a document applies to.
-/

namespace PatchReview

/-! ## Sets and single file patterns -/

namespace FilePatternSet

open FilePattern

/-- A set without a file pattern for every path runs its patterns one after the other. -/
theorem isMatch_ofList_eq_any_isFound {patterns : List String} (hne : patterns ≠ [])
    (hall : patterns.any FilePattern.selectsAll = false) (path : String) :
    (ofList patterns).isMatch path = patterns.any fun p => isFound p path := by
  have hempty : patterns.isEmpty = false := List.isEmpty_eq_false_iff.2 hne
  simp only [ofList, hempty, hall, Bool.or_self, Bool.false_eq_true, if_false, isMatch,
    Bool.false_or, List.any_filterMap]
  congr 1
  funext p
  simp only [isFound]
  cases Pattern.Expr.ofText? (toPattern p).toList false <;> simp [Except.toOption]

/-- One file pattern on its own selects a path if it selects every path or is found. -/
theorem anySelects_eq (patterns : List String) (path : String) :
    anySelects patterns path =
      patterns.any fun p => FilePattern.selectsAll p || isFound p path := by
  unfold anySelects
  congr 1
  funext p
  by_cases h : FilePattern.selectsAll p = true
  · simp [h]
  · have hone := isMatch_ofList_eq_any_isFound (List.cons_ne_nil p []) (by simpa using h) path
    simp [hone]

/-- A set selects the paths that its file patterns select one by one, unless there are none:
then the set selects every path, and nothing else does. -/
theorem isMatch_eq_anySelects_iff (patterns : List String) (path : String) :
    (ofList patterns).isMatch path = anySelects patterns path ↔ patterns ≠ [] := by
  constructor
  · rintro h rfl
    simp [isMatch_nil, anySelects] at h
  · intro hne
    cases hall : patterns.any FilePattern.selectsAll with
    | true =>
        have hset := isMatch_of_selectsAll (List.any_eq_true.1 hall) path
        rw [List.any_eq_true] at hall
        rcases hall with ⟨p, hp, hselects⟩
        rw [hset, eq_comm, anySelects_eq, List.any_eq_true]
        exact ⟨p, hp, by simp [hselects]⟩
    | false =>
        rw [isMatch_ofList_eq_any_isFound hne hall, anySelects_eq, Bool.eq_iff_iff]
        rw [List.any_eq_false] at hall
        simp only [List.any_eq_true, Bool.or_eq_true]
        apply exists_congr
        intro p
        apply and_congr_right
        intro hp
        simp [hall p hp]

end FilePatternSet

/-! ## Changes -/

namespace Document

/-- A change to a document. -/
inductive Edit where
  /-- Replace the file patterns. -/
  | filePatterns (patterns : List String)
  /-- Replace the category. -/
  | category (text : String)
  /-- Replace the body. -/
  | body (text : String)
  /-- Add a clause at the end. -/
  | clause (added : Clause)

/-- Make a change to a document. -/
def Edit.apply (d : Document) : Edit → Document
  | .filePatterns patterns => d.withFilePatterns patterns
  | .category text => d.withCategory text
  | .body text => d.withBody text
  | .clause added => d.withClause added

/-- The documents that are made anew or read from a text, and then changed any number of
times. -/
inductive IsMade : Document → Prop where
  | new (id title : String) (severity : Severity) : IsMade (new id title severity)
  | read {id content : String} {d : Logged Document} (h : ofText? id content = .ok d) :
      IsMade d.value
  | edited {d : Document} (h : IsMade d) (edit : Edit) : IsMade (edit.apply d)

/-- A document shows file patterns, and they are the ones that are made ready. -/
structure IsReady (d : Document) : Prop where
  filePatterns_ne : d.filePatterns ≠ []
  selection_eq : d.selection = FilePatternSet.ofList d.filePatterns

/-- After the file patterns are replaced, the new ones are made ready. -/
theorem isReady_withFilePatterns (d : Document) (patterns : List String) :
    (d.withFilePatterns patterns).IsReady where
  filePatterns_ne := filePatterns_withFilePatterns d patterns
  selection_eq := rfl

theorem isReady_new (id title : String) (severity : Severity) :
    (new id title severity).IsReady where
  filePatterns_ne := List.cons_ne_nil _ _
  selection_eq := rfl

/-- A document that is read has its file patterns made ready. -/
theorem isReady_ofFramed (id : String) (framed : Framed) :
    (ofFramed id framed).value.IsReady where
  filePatterns_ne :=
    filePatterns_withFilePatterns (new id "" .info) (filePatternsOf framed.metadata)
  selection_eq := selection_ofFramed id framed

/-- Every change keeps the file patterns ready. -/
theorem IsReady.apply {d : Document} (h : d.IsReady) (edit : Edit) : (edit.apply d).IsReady := by
  cases edit with
  | filePatterns patterns => exact isReady_withFilePatterns d patterns
  | category text => exact ⟨h.filePatterns_ne, h.selection_eq⟩
  | body text => exact ⟨h.filePatterns_ne, h.selection_eq⟩
  | clause added => exact ⟨h.filePatterns_ne, h.selection_eq⟩

/-- However a document is made, its file patterns are ready. -/
theorem IsMade.isReady {d : Document} (h : d.IsMade) : d.IsReady := by
  induction h with
  | new id title severity => exact isReady_new id title severity
  | read hread =>
      rcases ofText?_eq_ok hread with ⟨framed, -, rfl⟩
      exact isReady_ofFramed _ framed
  | edited _ edit ih => exact ih.apply edit

/-- A document that is made anew or read, and then changed any number of times, shows at
least one file pattern, and it applies to exactly the paths that one of the file patterns it
shows selects. -/
theorem appliesTo_eq_anySelects {d : Document} (h : d.IsMade) :
    d.filePatterns ≠ [] ∧
      ∀ path, d.appliesTo path = FilePattern.anySelects d.filePatterns path := by
  refine ⟨h.isReady.filePatterns_ne, fun path => ?_⟩
  rw [appliesTo, h.isReady.selection_eq, FilePatternSet.isMatch_eq_anySelects_iff]
  exact h.isReady.filePatterns_ne

/-- A document for Markdown files that is read, given no file patterns, and then those for two
kinds of files. -/
theorem appliesTo_eq_anySelects_edited :
    ∃ read, ofText? "docs" "---\nfilePatterns: '*.md'\n---\n" = .ok read ∧
      read.value.filePatterns = ["*.md"] ∧
      let everywhere := Edit.apply read.value (.filePatterns [])
      let d := Edit.apply (Edit.apply everywhere (.category "style"))
        (.filePatterns ["**/*.ts", "**/*.tsx"])
      (everywhere.IsMade ∧ everywhere.filePatterns = ["**/*"] ∧
        everywhere.appliesTo "readme.md" =
          FilePattern.anySelects everywhere.filePatterns "readme.md") ∧
      d.IsMade ∧ d.filePatterns = ["**/*.ts", "**/*.tsx"] ∧
        d.appliesTo "readme.md" = FilePattern.anySelects d.filePatterns "readme.md" := by
  have hcontent : ((Framed.ofChars? "---\nfilePatterns: '*.md'\n---\n".toList).map fun framed =>
      (ofFramed "docs" framed).value.filePatterns) = some ["*.md"] := by decide
  rcases Option.map_eq_some_iff.1 hcontent with ⟨framed, hframed, hpatterns⟩
  have hread : ofText? "docs" "---\nfilePatterns: '*.md'\n---\n" =
      .ok (ofFramed "docs" framed) := by
    rw [ofText?, ← String.ofList_toList (s := "---\nfilePatterns: '*.md'\n---\n"),
      Framed.ofText?_of_ofChars? hframed]
    rfl
  have hmade := IsMade.read hread
  refine ⟨_, hread, hpatterns, ⟨hmade.edited _, rfl, ?_⟩,
    ((hmade.edited _).edited _).edited _, rfl, ?_⟩
  · exact (appliesTo_eq_anySelects (hmade.edited _)).2 "readme.md"
  · exact (appliesTo_eq_anySelects (((hmade.edited _).edited _).edited _)).2 "readme.md"

end Document

end PatchReview
