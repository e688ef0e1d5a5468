import Mathlib.Data.List.Chain
import Mathlib.Data.List.DropRight
import PatchReview.Proofs.BuiltinRules
import PatchReview.Proofs.ClauseIsolation

/-!
# Lines with optional chaining

The pattern of the clause on optional values looks for a call in a line without `?.`.  It
has no assertion to say so: it walks over the line in steps that take question marks
together with the character behind them, which must not be a dot.  Such a walk covers just
the texts without `?.` that do not end in a question mark.  Behind the call question marks
at the end of the line are let through, but not right before the call, so a call that
follows a question mark directly is not found.

Main results:

- Definition `IsSettled`: the texts that the steps of the walk cover.
- Theorem `matches_star_step`: the walk covers just these texts.
- Theorem `matches_walk_marks`: with question marks at the end it covers the texts
  without `?.`.
- Theorem `occursIn_optionalValueClause_iff`: the lines that the clause finds.
- Theorem `mem_findings_optionalValue_iff`: what the built-in store reports by this clause.
-/

namespace PatchReview.OptionalChaining

open Pattern Pattern.Expr

/-! ## Texts without chaining -/

/-- No question mark has a dot right behind it. -/
def Unchained (w : List Char) : Prop :=
  w.IsChain fun c d => ¬ (c = '?' ∧ d = '.')

/-- No question mark has a dot right behind it, or nothing at all. -/
def IsSettled (w : List Char) : Prop :=
  Unchained w ∧ w.getLast? ≠ some '?'

/-- In such a text there is no `?.`, and the other way round. -/
theorem unchained_iff {w : List Char} : Unchained w ↔ ¬ "?.".toList <:+: w := by
  rw [Unchained, List.isChain_iff_forall_rel_of_append_cons_cons]
  constructor
  · rintro h ⟨u, v, rfl⟩
    exact @h '?' '.' u v (by simp) ⟨rfl, rfl⟩
  · rintro h c d u v rfl ⟨rfl, rfl⟩
    exact h ⟨u, v, by simp⟩

theorem isSettled_nil : IsSettled [] :=
  ⟨.nil, nofun⟩

/-- A question mark at the end is open. -/
theorem not_isSettled_mark : ¬ IsSettled ['?'] :=
  fun h => h.2 rfl

/-- Any other character is a step of its own. -/
theorem isSettled_cons_of_ne {c : Char} (hc : c ≠ '?') {w : List Char} :
    IsSettled (c :: w) ↔ IsSettled w := by
  cases w with
  | nil => simp [IsSettled, Unchained, hc]
  | cons d w => simp [IsSettled, Unchained, hc]

/-- Of several question marks the last one counts. -/
theorem isSettled_mark_mark {w : List Char} :
    IsSettled ('?' :: '?' :: w) ↔ IsSettled ('?' :: w) := by
  simp [IsSettled, Unchained]

/-- A question mark is settled by the character behind it unless this is a dot. -/
theorem isSettled_mark_cons {d : Char} (hd : d ≠ '?') {w : List Char} :
    IsSettled ('?' :: d :: w) ↔ d ≠ '.' ∧ IsSettled w := by
  have hw : IsSettled (d :: w) ↔ IsSettled w := isSettled_cons_of_ne hd
  rw [← hw]
  simp [IsSettled, Unchained, and_assoc]

/-! ## Steps of the walk -/

/-- Question marks and the character behind them. -/
def SettlesMarks (u : List Char) : Prop :=
  ∃ marks d, u = marks ++ [d] ∧ (∀ c ∈ marks, c = '?') ∧ d ≠ '.' ∧ d ≠ '?'

theorem not_settlesMarks_nil : ¬ SettlesMarks [] := by
  rintro ⟨marks, d, hnil, -⟩
  simp at hnil

theorem settlesMarks_cons {c : Char} {u : List Char} :
    SettlesMarks (c :: u) ↔ (c = '?' ∧ SettlesMarks u) ∨ (c ≠ '.' ∧ c ≠ '?' ∧ u = []) := by
  constructor
  · rintro ⟨marks, d, hu, hmarks, hd⟩
    rcases List.cons_eq_append_iff.1 hu with ⟨rfl, hu⟩ | ⟨marks, rfl, rfl⟩
    · obtain ⟨rfl, rfl⟩ := List.cons.inj hu
      exact Or.inr ⟨hd.1, hd.2, rfl⟩
    · rw [List.forall_mem_cons] at hmarks
      exact Or.inl ⟨hmarks.1, marks, d, rfl, hmarks.2, hd⟩
  · rintro (⟨rfl, marks, d, rfl, hmarks, hd⟩ | ⟨hdot, hmark, rfl⟩)
    · exact ⟨'?' :: marks, d, rfl, List.forall_mem_cons.2 ⟨rfl, hmarks⟩, hd⟩
    · exact ⟨[], c, rfl, nofun, hdot, hmark⟩

/-- What follows a question mark is settled if it starts with a step that settles the
mark. -/
theorem isSettled_mark_iff {w : List Char} :
    IsSettled ('?' :: w) ↔ ∃ u v, w = u ++ v ∧ SettlesMarks u ∧ IsSettled v := by
  induction w with
  | nil =>
      rw [exists_nil_eq_append]
      exact iff_of_false not_isSettled_mark fun h => not_settlesMarks_nil h.1
  | cons d w ih =>
      rw [exists_cons_eq_append, or_iff_right fun h => not_settlesMarks_nil h.1]
      simp only [settlesMarks_cons]
      by_cases hd : d = '?'
      · subst hd
        simpa [isSettled_mark_mark] using ih
      · rw [isSettled_mark_cons hd]
        simp [hd]

/-- A character that is no question mark, or question marks and the character behind
them. -/
def step : Expr :=
  .alt (.chars (.compl (.single '?')))
    (.seq (.plus (.char '?')) (.chars (.compl (.union (.single '.') (.single '?')))))

/-- Any number of question marks. -/
theorem matches_star_mark {u : List Char} {p n : Option Char} :
    Matches (.star (.char '?')) p u n ↔ ∀ c ∈ u, c = '?' := by
  simp only [char, matches_star_chars, CharSet.contains_single_iff]

/-- What a step reads after its first character. -/
theorem matches_step_cons {c : Char} {u : List Char} {p n : Option Char} :
    Matches step p (c :: u) n ↔ (c ≠ '?' ∧ u = []) ∨ (c = '?' ∧ SettlesMarks u) := by
  rw [step, matches_alt]
  refine or_congr ?_ ?_
  · simp only [matches_chars, CharSet.contains_compl_iff, CharSet.contains_single_iff]
    simp [and_comm]
  · simp only [plus, matches_seq, matches_star_mark, matches_char, matches_chars,
      CharSet.contains_compl_iff, CharSet.contains_union_iff, CharSet.contains_single_iff, not_or]
    constructor
    · rintro ⟨_, _, hcut, ⟨_, marks, rfl, rfl, hmarks⟩, d, rfl, hd⟩
      obtain ⟨rfl, rfl⟩ := List.cons.inj hcut
      exact ⟨rfl, marks, d, rfl, hmarks, hd⟩
    · rintro ⟨rfl, marks, d, rfl, hmarks, hd⟩
      exact ⟨'?' :: marks, [d], rfl, ⟨['?'], marks, rfl, rfl, hmarks⟩, d, rfl, hd⟩

/-- The walk covers just the settled texts. -/
theorem matches_star_step {w : List Char} {p n : Option Char} :
    Matches (.star step) p w n ↔ IsSettled w := by
  induction hlength : w.length using Nat.strong_induction_on generalizing w p with
  | _ length ih =>
  cases w with
  | nil => exact iff_of_true .starNil isSettled_nil
  | cons c w =>
      -- behind the first step the rest of the text is shorter
      have hrest : ∀ u v, w = u ++ v → ∀ p, Matches (.star step) p v n ↔ IsSettled v := by
        rintro u v rfl p
        refine ih v.length ?_ rfl
        rw [← hlength, List.length_cons, List.length_append]
        omega
      have hfirst : Matches (.star step) p (c :: w) n ↔ ∃ u v, w = u ++ v ∧
          ((c ≠ '?' ∧ u = []) ∨ (c = '?' ∧ SettlesMarks u)) ∧ IsSettled v := by
        rw [matches_star_cons]
        refine exists_congr fun u => exists_congr fun v => and_congr_right fun hw => ?_
        rw [matches_step_cons, hrest u v hw]
      rw [hfirst]
      by_cases hc : c = '?'
      · subst hc
        simp [isSettled_mark_iff]
      · simp [hc, isSettled_cons_of_ne hc]

/-- With question marks at the end the walk covers the texts without `?.`. -/
theorem matches_walk_marks {b : List Char} {p n : Option Char} :
    Matches (.seqAll [.star step, .star (.char '?')]) p b n ↔ Unchained b := by
  have htwo : Matches (.seqAll [.star step, .star (.char '?')]) p b n ↔
      ∃ u marks, b = u ++ marks ∧ IsSettled u ∧ ∀ c ∈ marks, c = '?' := by
    simp only [seqAll, matches_seq, matches_star_step, matches_star_mark]
  rw [htwo]
  constructor
  · rintro ⟨u, marks, rfl, ⟨hu, -⟩, hmarks⟩
    -- neither inside the question marks nor at their front a dot follows
    have hdot : ∀ c d, d ∈ marks → ¬ (c = '?' ∧ d = '.') := by
      rintro c d hd ⟨-, rfl⟩
      exact absurd (hmarks _ hd) (by decide)
    refine List.isChain_append.2 ⟨hu, ?_, fun c _ d hd => hdot c d (List.mem_of_mem_head? hd)⟩
    exact (List.pairwise_of_forall_mem_list fun c _ d hd => hdot c d hd).isChain
  · intro hb
    refine ⟨b.rdropWhile (· = '?'), b.rtakeWhile (· = '?'),
      List.rdropWhile_append_rtakeWhile.symm, ⟨?_, ?_⟩, ?_⟩
    · exact hb.prefix (List.rdropWhile_prefix _ _)
    · intro hlast
      have hne : b.rdropWhile (· = '?') ≠ [] := by
        intro hnil
        rw [hnil] at hlast
        cases hlast
      rw [← List.getLast_eq_iff_getLast?_eq_some hne] at hlast
      exact List.rdropWhile_last_not _ b hne (decide_eq_true hlast)
    · intro c hc
      simpa using List.mem_rtakeWhile_imp hc

/-! ## The clause on optional values -/

/-- The call that the clause looks for. -/
def call : List Char :=
  "label.toLowerCase()".toList

/-- The patterns that the pattern of the clause consists of between its anchors. -/
def walk : List Expr :=
  .star step :: (call.map .char ++ [.star step, .star (.char '?')])

/-- The pattern of the clause is read as an anchored walk. -/
theorem readPattern_optionalValueClause :
    Document.optionalValueClause.readPattern Document.optionalValueClause.pattern =
      .ok (.seqAll (.look .textStart :: (walk ++ [.look .textEnd]))) := by
  rw [Clause.readPattern]
  exact rfl

/-- The call does not make or end a `?.`. -/
theorem unchained_append_call {before after : List Char} :
    Unchained (before ++ call ++ after) ↔ Unchained before ∧ Unchained after := by
  have hcall : call.IsChain fun c d => ¬ (c = '?' ∧ d = '.') := by decide
  have hhead : call.head? = some 'l' := by decide
  have hlast : (before ++ call).getLast? = some ')' := by
    have hself : call.getLast? = some ')' := by decide
    rw [List.getLast?_append, hself]
    rfl
  rw [Unchained, List.isChain_append, List.isChain_append, hhead, hlast, and_iff_right hcall]
  simp [Unchained]

/-- The clause finds the lines without `?.` in which some call does not follow a question
mark directly. -/
theorem occursIn_optionalValueClause_iff (line : String) :
    Document.optionalValueClause.occursIn Document.optionalValueClause.pattern line = true ↔
      ¬ "?.".toList <:+: line.toList ∧ ∃ before after,
        line.toList = before ++ "label.toLowerCase()".toList ++ after ∧
          before.getLast? ≠ some '?' := by
  rw [Clause.occursIn_of_ok readPattern_optionalValueClause, isMatch_whole, walk,
    matches_seqAll_cons]
  simp only [matches_star_step, matches_seqAll_chars, matches_walk_marks, ← unchained_iff]
  constructor
  · rintro ⟨before, _, hline, ⟨hbefore, hlast⟩, after, rfl, hafter⟩
    rw [← List.append_assoc] at hline
    refine ⟨?_, before, after, hline, hlast⟩
    rw [hline]
    exact unchained_append_call.2 ⟨hbefore, hafter⟩
  · rintro ⟨hchained, before, after, hline, hlast⟩
    rw [hline] at hchained
    obtain ⟨hbefore, hafter⟩ := unchained_append_call.1 hchained
    exact ⟨before, call ++ after, by rw [hline, List.append_assoc]; rfl, ⟨hbefore, hlast⟩, after,
      rfl, hafter⟩

/-- The clause is heard in every file: it has no negative pattern. -/
theorem isHeard_optionalValueClause (lines : List String) :
    Document.optionalValueClause.isHeard lines = true := by
  rw [Clause.isHeard, Clause.canRead, readPattern_optionalValueClause]
  rfl

/-- The built-in store reports by the clause on optional values the lines of TypeScript
files that its pattern occurs in. -/
theorem mem_findings_iff_occursIn {path : String} {lines : List String} {f : LineFinding} :
    (f ∈ (evaluateClauses path lines (Store.builtin.value.rulesForFile path)).value ∧
        f.ruleId = "typescript-safety") ↔
      (FilePatternSet.ofList Document.typeScriptFiles).isMatch path = true ∧
        ∃ i line, lines[i]? = some line ∧
          Document.optionalValueClause.occursIn Document.optionalValueClause.pattern line = true ∧
          f = Document.optionalValueClause.findingAt path (i + 1) := by
  rw [value_evaluateClauses, List.mem_flatMap]
  constructor
  · rintro ⟨⟨c, hc, hf⟩, hid⟩
    obtain ⟨-, i, line, hget, hoccurs, rfl⟩ := Clause.mem_value_evaluate.1 hf
    obtain ⟨rfl, hts⟩ := Store.mem_rulesForFile_builtin_iff.1 ⟨hc, hid⟩
    exact ⟨hts, i, line, hget, hoccurs, rfl⟩
  · rintro ⟨hts, i, line, hget, hoccurs, rfl⟩
    obtain ⟨hc, hid⟩ := Store.mem_rulesForFile_builtin_iff.2 ⟨rfl, hts⟩
    exact ⟨⟨Document.optionalValueClause, hc, Clause.mem_value_evaluate.2
      ⟨isHeard_optionalValueClause lines, i, line, hget, hoccurs, rfl⟩⟩, hid⟩

/-- The built-in store reports by the clause on optional values just the lines of TypeScript
files, with no line feed in their directories, that have no `?.` and a call that does not
follow a question mark directly. -/
theorem mem_findings_optionalValue_iff (path : String) (lines : List String) (f : LineFinding) :
    (f ∈ (evaluateClauses path lines (Store.builtin.value.rulesForFile path)).value ∧
        f.ruleId = "typescript-safety") ↔
      ((".ts".toList <:+ path.toList ∨ ".tsx".toList <:+ path.toList) ∧
        '\n' ∉ FilePattern.directory path.toList) ∧
      ∃ i line, lines[i]? = some line ∧
        (¬ "?.".toList <:+: line.toList ∧ ∃ before after,
          line.toList = before ++ "label.toLowerCase()".toList ++ after ∧
            before.getLast? ≠ some '?') ∧
        f = Document.optionalValueClause.findingAt path (i + 1) := by
  rw [mem_findings_iff_occursIn, isMatch_typeScriptFiles_iff]
  simp only [occursIn_optionalValueClause_iff]

/-- A line with the call and without `?.` that is not reported: a question mark stands
right before the call. -/
theorem not_reported_behind_mark :
    let path := "src/a.ts"
    let line := "const s = ok ?label.toLowerCase() : other;"
    "label.toLowerCase()".toList <:+: line.toList ∧ ¬ "?.".toList <:+: line.toList ∧
      ¬ ∃ f ∈ (evaluateClauses path [line] (Store.builtin.value.rulesForFile path)).value,
        f.ruleId = "typescript-safety" := by
  intro path line
  have hsilent : Document.optionalValueClause.occursIn Document.optionalValueClause.pattern line =
      false := by decide +kernel
  refine ⟨by decide +kernel, by decide +kernel, ?_⟩
  rintro ⟨f, hf, hid⟩
  obtain ⟨-, i, other, hget, hoccurs, -⟩ := mem_findings_iff_occursIn.1 ⟨hf, hid⟩
  obtain rfl := List.mem_singleton.1 (List.mem_of_getElem? hget)
  exact Bool.false_ne_true (hsilent.symm.trans hoccurs)

end PatchReview.OptionalChaining
