import PatchReview.Proofs.FilePatternMeaning
import PatchReview.Rules.Store

/-!
# The built-in rules

The built-in rule documents are texts, so which clauses they hold is only known once the
texts are read.  This module reads them once and for all: what a document selects are the
paths of its file patterns, and the built-in store applies one clause to every path and two
more to the paths of TypeScript files.

Main results:

- Theorem `Framed.ofText?_of_ofChars?`: a text is taken apart as its characters are.
- Theorem `Document.selection_ofFramed`: a document selects by its own file patterns.
- Theorem `Document.value_builtin`: the file patterns and the clauses of the built-in
  documents.
- Theorem `isMatch_typeScriptFiles_iff`: which paths are those of TypeScript files.
- Theorem `Store.rulesForFile_builtin`: which clauses apply to a path.
-/

namespace PatchReview

open Metadata Text

/-! ## Reading characters -/

namespace Framed

/-- A text taken apart by its characters, without a string for its block. -/
def ofChars? (content : List Char) : Option Framed :=
  match segments (dropMarks content) with
  | [] => none
  | first :: rest =>
    if isDelimiter first then
      (splitAtDelimiter rest).map fun (block, body) =>
        ⟨readLines [] .top (significantLines block.flatten), String.ofList (trim body.flatten)⟩
    else none

/-- A text is taken apart as its characters are. -/
theorem ofText?_of_ofChars? {content : List Char} {framed : Framed}
    (h : ofChars? content = some framed) : ofText? (String.ofList content) = .ok framed := by
  rw [ofChars?] at h
  rw [ofText?, String.toList_ofList]
  revert h
  cases segments (dropMarks content) with
  | nil => nofun
  | cons first rest =>
      intro h
      by_cases hfirst : isDelimiter first = true
      · simp only [hfirst, if_true] at h ⊢
        obtain ⟨⟨block, body⟩, hsplit, rfl⟩ := Option.map_eq_some_iff.1 h
        simp only [hsplit, Metadata.ofText, String.toList_ofList]
      · simp [hfirst] at h

end Framed

/-! ## What a document selects -/

namespace Document

/-- The file patterns of a document that was read are made ready as they are. -/
theorem selection_ofFramed (id : String) (framed : Framed) :
    (ofFramed id framed).value.selection =
      FilePatternSet.ofList (ofFramed id framed).value.filePatterns :=
  rfl

/-- Documents are read one by one. -/
theorem value_readEach_cons {id content : String} {d : Logged Document}
    (h : ofText? id content = .ok d) (rest : List (String × String)) :
    (readEach ((id, content) :: rest)).value = d.value :: (readEach rest).value := by
  rw [readEach, h]
  rfl

/-- The file patterns of a document made ready, and its clauses. -/
def applicability (d : Document) : FilePatternSet × List Clause :=
  (d.selection, d.rules)

/-- A document is read from the characters of its text.  What it selects and its clauses
are found by computing on them. -/
theorem exists_ofText?_eq {id : String} {content : List Char} {patterns : List String}
    {rules : List Clause}
    (h : ((Framed.ofChars? content).map fun framed =>
        ((ofFramed id framed).value.filePatterns, (ofFramed id framed).value.rules)) =
      some (patterns, rules)) :
    ∃ d, ofText? id (String.ofList content) = .ok d ∧
      d.value.applicability = (FilePatternSet.ofList patterns, rules) := by
  obtain ⟨framed, hframed, hread⟩ := Option.map_eq_some_iff.1 h
  obtain ⟨rfl, rfl⟩ := Prod.mk.inj hread
  refine ⟨ofFramed id framed, ?_, ?_⟩
  · rw [ofText?, Framed.ofText?_of_ofChars? hframed]
    rfl
  · rw [applicability, selection_ofFramed]

/-! ## The built-in documents -/

/-- The clause against comments that ask for work. -/
def todoClause : Clause where
  id := "avoid-todo-comments"
  pattern := "\\bTODO\\b"
  message :=
    "Avoid TODO comments. Create a ticket and reference it explicitly or remove the comment."
  severity := .warning
  ignoreCase := true

/-- The clause on derived arrays. -/
def derivedArrayClause : Clause where
  id := "react-performance"
  pattern := "const\\s+filteredVariables\\s*=\\s*variables\\.filter\\("
  negativePattern := some "useMemo\\s*\\("
  message :=
    "Wrap derived arrays in useMemo with proper dependencies to avoid unnecessary recalculations."
  severity := .info

/-- The clause on optional values. -/
def optionalValueClause : Clause where
  id := "typescript-safety"
  pattern := "^(?:[^?]|\\?+[^.?])*label\\.toLowerCase\\(\\)(?:[^?]|\\?+[^.?])*\\?*$"
  message :=
    "Guard optional values when lowercasing: use label?.toLowerCase() and a safe default for searchValue."
  severity := .warning

/-- The file patterns of TypeScript files. -/
def typeScriptFiles : List String :=
  ["**/*.ts", "**/*.tsx"]

-- the characters of a text are found by unification, and reading them is left to the kernel
set_option maxRecDepth 10000 in
/-- What the built-in documents select, and their clauses. -/
theorem value_builtin :
    builtin.value.map applicability = [
      (FilePatternSet.ofList [FilePattern.everything], [todoClause]),
      (FilePatternSet.ofList typeScriptFiles, [derivedArrayClause]),
      (FilePatternSet.ofList typeScriptFiles, [optionalValueClause])] := by
  obtain ⟨todo, htodo, happliesTodo⟩ :
      ∃ d, ofText? "avoid-todo-comments" avoidTodoCommentsText = .ok d ∧
        d.value.applicability =
          (FilePatternSet.ofList [FilePattern.everything], [todoClause]) :=
    exists_ofText?_eq (by decide +kernel)
  obtain ⟨derived, hderived, happliesDerived⟩ :
      ∃ d, ofText? "react-performance" reactPerformanceText = .ok d ∧
        d.value.applicability =
          (FilePatternSet.ofList typeScriptFiles, [derivedArrayClause]) :=
    exists_ofText?_eq (by decide +kernel)
  obtain ⟨optional, hoptional, happliesOptional⟩ :
      ∃ d, ofText? "typescript-safety" typescriptSafetyText = .ok d ∧
        d.value.applicability =
          (FilePatternSet.ofList typeScriptFiles, [optionalValueClause]) :=
    exists_ofText?_eq (by decide +kernel)
  rw [builtin, builtinTexts, value_readEach_cons htodo, value_readEach_cons hderived,
    value_readEach_cons hoptional, List.map_cons, List.map_cons, List.map_cons, happliesTodo,
    happliesDerived, happliesOptional]
  rfl

end Document

/-! ## Which clauses apply -/

/-- The paths of TypeScript files end in one of two ways, and have no line feed in their
directories. -/
theorem isMatch_typeScriptFiles_iff (path : String) :
    (FilePatternSet.ofList Document.typeScriptFiles).isMatch path = true ↔
      (".ts".toList <:+ path.toList ∨ ".tsx".toList <:+ path.toList) ∧
        '\n' ∉ FilePattern.directory path.toList := by
  have hts : FilePattern.parts "**/*.ts".toList =
      .directories :: .name :: ".ts".toList.map .literal := by decide
  have htsx : FilePattern.parts "**/*.tsx".toList =
      .directories :: .name :: ".tsx".toList.map .literal := by decide
  have hslash : '/' ∉ ".ts".toList ∧ '/' ∉ ".tsx".toList := by decide
  rw [FilePattern.isMatch_ofList_of_run (by decide)]
  simp only [Document.typeScriptFiles, List.exists_mem_cons_iff, List.not_mem_nil, false_and,
    exists_false, or_false, hts, htsx, FilePattern.fits_ending_iff hslash.1,
    FilePattern.fits_ending_iff hslash.2, or_and_right]

/-- The clauses that a store applies to a path are found from what its documents select. -/
theorem Store.rulesForFile_eq (s : Store) (path : String) :
    s.rulesForFile path =
      ((s.documents.map Document.applicability).filter fun a => a.1.isMatch path).flatMap
        Prod.snd := by
  rw [rulesForFile, List.filter_map, List.flatMap_map]
  rfl

/-- The built-in store applies one clause to every path, and two more to the paths of
TypeScript files. -/
theorem Store.rulesForFile_builtin (path : String) :
    Store.builtin.value.rulesForFile path =
      Document.todoClause ::
        if (FilePatternSet.ofList Document.typeScriptFiles).isMatch path then
          [Document.derivedArrayClause, Document.optionalValueClause]
        else [] := by
  have hevery : (FilePatternSet.ofList [FilePattern.everything]).isMatch path = true :=
    FilePattern.isMatch_of_selectsAll ⟨FilePattern.everything, by decide, by decide⟩ path
  -- said of any documents, so that the kernel has no texts to read here
  have hmap : ∀ x : Logged (List Document), (Store.mk <$> x).value.documents = x.value :=
    fun _ => rfl
  rw [rulesForFile_eq, builtin, hmap, Document.value_builtin]
  cases hts : (FilePatternSet.ofList Document.typeScriptFiles).isMatch path <;>
    simp [hevery, hts]

/-- The only built-in clause of its id is the one on optional values; it applies to the
paths of TypeScript files. -/
theorem Store.mem_rulesForFile_builtin_iff {path : String} {c : Clause} :
    (c ∈ Store.builtin.value.rulesForFile path ∧ c.id = Document.optionalValueClause.id) ↔
      c = Document.optionalValueClause ∧
        (FilePatternSet.ofList Document.typeScriptFiles).isMatch path = true := by
  have htodo : Document.todoClause.id ≠ Document.optionalValueClause.id := by decide
  have hderived : Document.derivedArrayClause.id ≠ Document.optionalValueClause.id := by decide
  rw [rulesForFile_builtin, List.mem_cons]
  constructor
  · rintro ⟨rfl | hc, hid⟩
    · exact absurd hid htodo
    · split at hc
      · next hts =>
        rw [List.mem_cons, List.mem_singleton] at hc
        rcases hc with rfl | rfl
        · exact absurd hid hderived
        · exact ⟨rfl, hts⟩
      · cases hc
  · rintro ⟨rfl, hts⟩
    rw [if_pos hts]
    exact ⟨Or.inr (List.mem_cons_of_mem _ (List.mem_singleton_self _)), rfl⟩

end PatchReview
