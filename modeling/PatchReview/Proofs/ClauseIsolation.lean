import PatchReview.Proofs.ClauseFindings

/-!
# Clauses do not disturb each other

Clauses are evaluated one after the other against the added lines of a file.  Each
reports every line that its pattern occurs in or none at all, and what it reports
depends on nothing but its own patterns and the lines.  So a clause that cannot be
read, or that is silenced, is as good as left out.

Main results:

- Definition `Clause.isHeard`: when a clause reports its lines.
- Theorem `Clause.value_evaluate_eq`: all matching lines or none.
- Theorem `Clause.mem_value_evaluate`: the findings of a clause.
- Theorems `value_evaluateClauses_append` and `warnings_evaluateClauses_append`: two
  lists of clauses are evaluated one after the other.
- Theorem `evaluateClauses_isolates`: the findings of clauses, and what a clause that
  is not heard changes for the others.
-/

namespace PatchReview

namespace Clause

/-- Whether a clause reports the lines that its pattern occurs in: both patterns can be
read, and the negative one, if there is one, occurs in no line of the file. -/
def isHeard (c : Clause) (lines : List String) : Bool :=
  c.canRead c.pattern &&
    c.negativePattern.all fun pattern =>
      c.canRead pattern && !lines.any fun line => c.occursIn pattern line

/-- The numbers of the lines that the pattern of a clause occurs in, counted from one. -/
def matchedLines (c : Clause) (lines : List String) : List Nat :=
  ((lines.zipIdx 1).filter fun l => c.occursIn c.pattern l.1).map Prod.snd

/-- The matched lines are given in order. -/
theorem pairwise_matchedLines (c : Clause) (lines : List String) :
    (c.matchedLines lines).Pairwise (· < ·) := by
  have hnumbers : (c.matchedLines lines).Sublist (List.range' 1 lines.length) := by
    rw [← List.zipIdx_map_snd 1 lines]
    exact List.filter_sublist.map Prod.snd
  exact List.Pairwise.sublist hnumbers List.pairwise_lt_range'

/-- The matched lines are all lines that the pattern occurs in. -/
theorem mem_matchedLines (c : Clause) (lines : List String) (n : Nat) :
    n ∈ c.matchedLines lines ↔
      ∃ i line, n = i + 1 ∧ lines[i]? = some line ∧ c.occursIn c.pattern line = true := by
  rw [matchedLines, List.mem_map]
  constructor
  · rintro ⟨⟨line, n⟩, hmem, rfl⟩
    obtain ⟨hline, hoccurs⟩ := List.mem_filter.1 hmem
    obtain ⟨hle, hget⟩ := List.mk_mem_zipIdx_iff_le_and_getElem?_sub.1 hline
    exact ⟨n - 1, line, by omega, hget, hoccurs⟩
  · rintro ⟨i, line, rfl, hget, hoccurs⟩
    refine ⟨(line, i + 1), List.mem_filter.2 ⟨?_, hoccurs⟩, rfl⟩
    exact List.mk_mem_zipIdx_iff_le_and_getElem?_sub.2 ⟨by omega, hget⟩

/-- A pattern that occurs in a line can be read. -/
theorem canRead_of_occursIn {c : Clause} {pattern line : String}
    (h : c.occursIn pattern line = true) : c.canRead pattern = true := by
  cases hread : c.readPattern pattern with
  | error x =>
      rw [occursIn_of_error hread] at h
      cases h
  | ok e =>
      rw [canRead, hread]
      rfl

/-- A clause that is heard reports the lines that its pattern occurs in. -/
theorem reports_eq (c : Clause) (lines : List String) (line : String) :
    c.reports lines line = (c.isHeard lines && c.occursIn c.pattern line) := by
  rw [reports, isHeard]
  cases hoccurs : c.occursIn c.pattern line with
  | true => rw [canRead_of_occursIn hoccurs, Bool.true_and, Bool.and_true]
  | false => rw [Bool.false_and, Bool.and_false]

/-- A clause reports all lines that its pattern occurs in, or none. -/
theorem value_evaluate_eq (c : Clause) (path : String) (lines : List String) :
    (c.evaluate path lines).value =
      if c.isHeard lines then (c.matchedLines lines).map (c.findingAt path) else [] := by
  rw [value_evaluate]
  simp only [reports_eq]
  cases c.isHeard lines with
  | true =>
      rw [if_pos rfl, matchedLines, List.map_map]
      rfl
  | false => simp

/-- A clause that is heard has a finding for each line that its pattern occurs in, and no
other finding. -/
theorem mem_value_evaluate {c : Clause} {path : String} {lines : List String} {f : LineFinding} :
    f ∈ (c.evaluate path lines).value ↔ c.isHeard lines = true ∧
      ∃ i line, lines[i]? = some line ∧ c.occursIn c.pattern line = true ∧
        f = c.findingAt path (i + 1) := by
  rw [value_evaluate_eq]
  split
  · next hheard =>
    rw [and_iff_right hheard, List.mem_map]
    constructor
    · rintro ⟨n, hn, rfl⟩
      obtain ⟨i, line, rfl, hget, hoccurs⟩ := (c.mem_matchedLines lines n).1 hn
      exact ⟨i, line, hget, hoccurs, rfl⟩
    · rintro ⟨i, line, hget, hoccurs, rfl⟩
      exact ⟨i + 1, (c.mem_matchedLines lines _).2 ⟨i, line, rfl, hget, hoccurs⟩, rfl⟩
  · next hheard => simp [hheard]

end Clause

/-! ## Several clauses -/

/-- The findings of two lists of clauses come one after the other. -/
theorem value_evaluateClauses_append (path : String) (lines : List String)
    (first second : List Clause) :
    (evaluateClauses path lines (first ++ second)).value =
      (evaluateClauses path lines first).value ++ (evaluateClauses path lines second).value := by
  rw [value_evaluateClauses, value_evaluateClauses, value_evaluateClauses, List.flatMap_append]

/-- The warnings of two lists of clauses come one after the other. -/
theorem warnings_evaluateClauses_append (path : String) (lines : List String)
    (first second : List Clause) :
    (evaluateClauses path lines (first ++ second)).warnings =
      (evaluateClauses path lines first).warnings ++
        (evaluateClauses path lines second).warnings := by
  simp only [evaluateClauses]
  split
  · rfl
  · rw [Logged.warnings_map, Logged.warnings_map, Logged.warnings_map, Logged.warnings_forAll,
      Logged.warnings_forAll, Logged.warnings_forAll, List.flatMap_append]

/-- The findings of a single clause. -/
theorem value_evaluateClauses_singleton (path : String) (lines : List String) (c : Clause) :
    (evaluateClauses path lines [c]).value = (c.evaluate path lines).value := by
  rw [value_evaluateClauses, List.flatMap_singleton]

/-- A clause that is not heard has no findings. -/
theorem value_evaluateClauses_of_not_isHeard {path : String} {lines : List String} {c : Clause}
    (h : c.isHeard lines = false) : (evaluateClauses path lines [c]).value = [] := by
  rw [value_evaluateClauses_singleton, Clause.value_evaluate_eq, h]
  rfl

/-- Clauses are evaluated one by one, in order, each with all the lines that its pattern
occurs in if it is heard and with none otherwise.  What other clauses are evaluated with it
makes no difference, and one that is not heard may be left out.  A clause whose pattern
occurs nowhere has nothing to report either way, so only for the others it can be seen from
the findings whether it is heard. -/
theorem evaluateClauses_isolates (path : String) (lines : List String) (clauses : List Clause) :
    (evaluateClauses path lines clauses).value =
        clauses.flatMap (fun c =>
          if c.isHeard lines then (c.matchedLines lines).map (c.findingAt path) else []) ∧
      (∀ c : Clause, (c.matchedLines lines).Pairwise (· < ·) ∧
        (∀ n, n ∈ c.matchedLines lines ↔
          ∃ i line, n = i + 1 ∧ lines[i]? = some line ∧ c.occursIn c.pattern line = true) ∧
        (c.matchedLines lines ≠ [] →
          ((evaluateClauses path lines [c]).value.map (·.line) = c.matchedLines lines ↔
            c.isHeard lines = true))) ∧
      (∀ more,
        (evaluateClauses path lines (clauses ++ more)).value =
            (evaluateClauses path lines clauses).value ++
              (evaluateClauses path lines more).value ∧
          (evaluateClauses path lines (clauses ++ more)).warnings =
            (evaluateClauses path lines clauses).warnings ++
              (evaluateClauses path lines more).warnings) ∧
      ∀ (c : Clause) (more : List Clause), c.isHeard lines = false →
        (evaluateClauses path lines (clauses ++ c :: more)).value =
          (evaluateClauses path lines (clauses ++ more)).value := by
  refine ⟨?_, ?_, ?_, ?_⟩
  · simp only [value_evaluateClauses, Clause.value_evaluate_eq]
  · intro c
    refine ⟨c.pairwise_matchedLines lines, c.mem_matchedLines lines, ?_⟩
    intro hmatched
    rw [value_evaluateClauses_singleton, Clause.value_evaluate_eq]
    cases c.isHeard lines with
    | true => simp [Function.comp_def, Clause.findingAt]
    | false => simpa using hmatched.symm
  · intro more
    exact ⟨value_evaluateClauses_append path lines clauses more,
      warnings_evaluateClauses_append path lines clauses more⟩
  · intro c more hsilent
    rw [← List.singleton_append, value_evaluateClauses_append, value_evaluateClauses_append,
      value_evaluateClauses_of_not_isHeard hsilent, List.nil_append,
      ← value_evaluateClauses_append]

/-- A clause that is heard, beside one whose negative pattern cannot be read and one that is
silenced. -/
theorem evaluateClauses_isolates_todo :
    let todo : Clause := { id := "no-todo", pattern := "TODO", message := "Avoid TODO."
                           severity := .warning }
    let broken : Clause := { id := "broken", pattern := "fine", negativePattern := some "["
                             message := "Not fine.", severity := .error }
    let silenced : Clause := { id := "silenced", pattern := "one", negativePattern := some "later"
                               message := "Not one.", severity := .info }
    let lines := ["// TODO one", "fine", "// TODO later"]
    todo.matchedLines lines = [1, 3] ∧ todo.isHeard lines = true ∧
      broken.isHeard lines = false ∧ silenced.isHeard lines = false ∧
      ((evaluateClauses "src/a.ts" lines [todo]).value.map (·.line) = todo.matchedLines lines ↔
        todo.isHeard lines = true) ∧
      (evaluateClauses "src/a.ts" lines ([todo] ++ broken :: [silenced])).value =
        (evaluateClauses "src/a.ts" lines ([todo] ++ [silenced])).value ∧
      (evaluateClauses "src/a.ts" lines ([todo] ++ silenced :: [])).value =
        (evaluateClauses "src/a.ts" lines ([todo] ++ [])).value := by
  intro todo broken silenced lines
  have hmatched : todo.matchedLines lines = [1, 3] := by decide
  have hbroken : broken.isHeard lines = false := by decide
  have hsilenced : silenced.isHeard lines = false := by decide
  have hne : todo.matchedLines lines ≠ [] := by
    rw [hmatched]
    exact List.cons_ne_nil _ _
  obtain ⟨-, hreported, -, hleftOut⟩ := evaluateClauses_isolates "src/a.ts" lines [todo]
  exact ⟨hmatched, by decide, hbroken, hsilenced, (hreported todo).2.2 hne,
    hleftOut broken [silenced] hbroken, hleftOut silenced [] hsilenced⟩

end PatchReview
