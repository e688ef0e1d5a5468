import PatchReview.Rules.Evaluation

/-!
# What a clause finds

A clause counts the lines it is given and reports the numbers of those that its
pattern occurs in, or none at all.  This module describes the outcome line by line,
without counting: which lines a clause reports depends on its patterns and on the
lines of the file, not on the place of a line among them.

Main results:

- Definition `Clause.reports`: whether a clause reports a line.
- Theorem `Clause.value_evaluate`: the findings of a clause, in the order of the lines.
- Theorem `value_evaluateClauses`: the findings of clauses, clause by clause.
- Theorem `eq_invalidPattern_of_mem_warnings_evaluateClauses`: the only fault is a
  pattern that cannot be read.
-/

namespace PatchReview

open Pattern

/-- The warnings of the single steps come one after the other. -/
theorem Logged.warnings_forAll {α β : Type} (f : α → Logged β) (l : List α) :
    (Logged.forAll f l).warnings = l.flatMap fun a => (f a).warnings := by
  induction l with
  | nil => rfl
  | cons a rest ih =>
      rw [Logged.forAll, Logged.warnings_bind, Logged.warnings_bind, Logged.warnings_pure, ih,
        List.append_nil, List.flatMap_cons]

namespace Clause

/-- Whether a pattern can be read with the letter case of the clause. -/
def canRead (c : Clause) (pattern : String) : Bool :=
  (c.readPattern pattern).isOk

/-- Whether a pattern can be read with the letter case of the clause and occurs in a
line. -/
def occursIn (c : Clause) (pattern line : String) : Bool :=
  match c.readPattern pattern with
  | .ok e => e.isMatch line.toList
  | .error _ => false

/-- Whether a clause reports a line among the lines of a file: its pattern occurs in the
line, and its negative pattern, if it has one, can be read and occurs in no line. -/
def reports (c : Clause) (lines : List String) (line : String) : Bool :=
  c.occursIn c.pattern line &&
    c.negativePattern.all fun pattern =>
      c.canRead pattern && !lines.any fun other => c.occursIn pattern other

/-- A pattern that is read occurs in the lines that it matches. -/
theorem occursIn_of_ok {c : Clause} {pattern : String} {e : Expr}
    (h : c.readPattern pattern = .ok e) (line : String) :
    c.occursIn pattern line = e.isMatch line.toList := by
  rw [occursIn, h]

/-- A pattern that cannot be read occurs in no line. -/
theorem occursIn_of_error {c : Clause} {pattern : String} {x : PatternError}
    (h : c.readPattern pattern = .error x) (line : String) : c.occursIn pattern line = false := by
  rw [occursIn, h]

/-- A clause made ready reports the lines that its pattern matches unless it is
silenced. -/
theorem reports_of_ok {c : Clause} {r : Ready} (h : c.ready? = .ok r) (lines : List String)
    (line : String) :
    c.reports lines line = (r.positive.isMatch line.toList && !r.isSilenced lines) := by
  unfold ready? at h
  cases hpositive : c.readPattern c.pattern with
  | error x =>
      rw [hpositive] at h
      cases h
  | ok positive =>
      rw [hpositive] at h
      rw [reports, occursIn_of_ok hpositive]
      cases hpattern : c.negativePattern with
      | none =>
          rw [hpattern] at h
          obtain rfl := Except.ok.inj h
          rfl
      | some pattern =>
          rw [hpattern] at h
          cases hnegative : c.readPattern pattern with
          | error x =>
              simp only [hnegative] at h
              cases h
          | ok negative =>
              simp only [hnegative] at h
              obtain rfl := Except.ok.inj h
              have hread : c.canRead pattern = true := by
                rw [canRead, hnegative]
                rfl
              have hoccurs : (fun other => c.occursIn pattern other) =
                  fun other => negative.isMatch other.toList :=
                funext fun other => occursIn_of_ok hnegative other
              rw [Option.all_some, hread, hoccurs, Bool.true_and]
              rfl

/-- A clause that cannot be made ready reports nothing. -/
theorem reports_of_error {c : Clause} {x : PatternError} (h : c.ready? = .error x)
    (lines : List String) (line : String) : c.reports lines line = false := by
  unfold ready? at h
  cases hpositive : c.readPattern c.pattern with
  | error y => rw [reports, occursIn_of_error hpositive, Bool.false_and]
  | ok positive =>
      rw [hpositive] at h
      cases hpattern : c.negativePattern with
      | none =>
          rw [hpattern] at h
          cases h
      | some pattern =>
          rw [hpattern] at h
          cases hnegative : c.readPattern pattern with
          | error y =>
              have hread : c.canRead pattern = false := by
                rw [canRead, hnegative]
                rfl
              rw [reports, hpattern, Option.all_some, hread, Bool.false_and, Bool.and_false]
          | ok negative =>
              simp only [hnegative] at h
              cases h

/-- The numbers of the lines that a pattern occurs in. -/
theorem matchingLines_eq (e : Expr) (first : Nat) (lines : List String) :
    matchingLines e first lines =
      ((lines.zipIdx first).filter fun l => e.isMatch l.1.toList).map Prod.snd := by
  induction lines generalizing first with
  | nil => rfl
  | cons line rest ih =>
      rw [matchingLines, List.zipIdx_cons, ih, List.filter_cons]
      split
      · rw [List.map_cons]
      · rfl

/-- The findings of a clause are at the lines that it reports, in order. -/
theorem value_evaluate (c : Clause) (path : String) (lines : List String) :
    (c.evaluate path lines).value =
      ((lines.zipIdx 1).filter fun l => c.reports lines l.1).map fun l => c.findingAt path l.2 := by
  rw [evaluate]
  cases hready : c.ready? with
  | error x =>
      have hnone : ((lines.zipIdx 1).filter fun l => c.reports lines l.1) = [] := by
        rw [List.filter_eq_nil_iff]
        intro l _
        rw [reports_of_error hready]
        exact Bool.false_ne_true
      rw [hnone]
      rfl
  | ok r =>
      simp only [reports_of_ok hready]
      split
      · next hsilenced => simp [hsilenced]
      · next hsilenced => simp [hsilenced, matchingLines_eq, Function.comp_def]

/-- A clause warns of nothing but patterns that cannot be read. -/
theorem eq_invalidPattern_of_mem_warnings {c : Clause} {path : String} {lines : List String}
    {w : Warning} (h : w ∈ (c.evaluate path lines).warnings) : w = .invalidPattern := by
  rw [evaluate] at h
  split at h
  · exact List.mem_singleton.1 h
  · split at h <;> cases h

end Clause

/-- The findings of clauses, clause by clause. -/
theorem value_evaluateClauses (path : String) (lines : List String) (clauses : List Clause) :
    (evaluateClauses path lines clauses).value =
      clauses.flatMap fun c => (c.evaluate path lines).value := by
  rw [evaluateClauses]
  split
  · next hempty =>
      -- Without lines the clauses find nothing, so that they are not asked makes no difference.
      obtain rfl := List.isEmpty_iff.1 hempty
      symm
      rw [Logged.value_pure, List.flatMap_eq_nil_iff]
      intro c _
      rw [Clause.value_evaluate]
      rfl
  · rw [Logged.value_map, Logged.value_forAll, List.flatMap_def]

/-- Clauses warn of nothing but patterns that cannot be read. -/
theorem eq_invalidPattern_of_mem_warnings_evaluateClauses {path : String} {lines : List String}
    {clauses : List Clause} {w : Warning}
    (h : w ∈ (evaluateClauses path lines clauses).warnings) : w = .invalidPattern := by
  rw [evaluateClauses] at h
  split at h
  · cases h
  · rw [Logged.warnings_map, Logged.warnings_forAll] at h
    obtain ⟨c, -, hw⟩ := List.mem_flatMap.1 h
    exact Clause.eq_invalidPattern_of_mem_warnings hw

end PatchReview
