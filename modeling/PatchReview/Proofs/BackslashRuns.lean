import Mathlib.Data.Nat.Init
import PatchReview.Proofs.MarkupScalars

/-!
# Runs of backslashes

A text is made of runs of backslashes and the other characters between them.  Where the
markup writes one backslash for each doubled one, each run is halved on its own, an odd one
upwards, and the other characters stay where they are.

Main definitions:

- `BackslashRuns`: the lengths of the runs, and the characters between them.
- `BackslashRuns.text`: the text with these runs.
- `BackslashRuns.ofChars`: the runs of a text.

Main results:

- Theorem `BackslashRuns.text_eq_iff`: every text has exactly one list of runs.
- Theorem `BackslashRuns.collapseBackslashes_text`: collapsing halves the runs.
- Theorem `collapseBackslashes_eq_self_iff`: which texts are left as they are.
- Theorem `unescapePattern_runs`: what unescaping does to any text.
-/

namespace PatchReview.Metadata

/-- The runs of backslashes in a text, the empty ones between other characters included; so
each of the runs is as long as it can be. -/
structure BackslashRuns where
  /-- The other characters in order, each with the number of backslashes right before it. -/
  parts : List (Nat × { c : Char // c ≠ '\\' })
  /-- The number of backslashes at the end. -/
  last : Nat
  deriving DecidableEq

namespace BackslashRuns

/-- The text with some runs. -/
def text (runs : BackslashRuns) : List Char :=
  runs.parts.flatMap (fun part => List.replicate part.1 '\\' ++ [part.2.1])
    ++ List.replicate runs.last '\\'

/-- Halve each run, upwards. -/
def halved (runs : BackslashRuns) : BackslashRuns where
  parts := runs.parts.map fun part => ((part.1 + 1) / 2, part.2)
  last := (runs.last + 1) / 2

/-- Put backslashes in front. -/
def lengthen (n : Nat) : BackslashRuns → BackslashRuns
  | ⟨[], last⟩ => ⟨[], n + last⟩
  | ⟨(k, c) :: parts, last⟩ => ⟨(n + k, c) :: parts, last⟩

/-- Put another character in front. -/
def precede (c : { c : Char // c ≠ '\\' }) (runs : BackslashRuns) : BackslashRuns :=
  { runs with parts := (0, c) :: runs.parts }

/-- The runs of a text. -/
def ofChars : List Char → BackslashRuns
  | [] => ⟨[], 0⟩
  | c :: rest => if h : c = '\\' then (ofChars rest).lengthen 1 else (ofChars rest).precede ⟨c, h⟩

@[simp]
theorem text_nil (last : Nat) : text ⟨[], last⟩ = List.replicate last '\\' := by
  simp [text]

@[simp]
theorem text_cons (n : Nat) (c : { c : Char // c ≠ '\\' })
    (parts : List (Nat × { c : Char // c ≠ '\\' })) (last : Nat) :
    text ⟨(n, c) :: parts, last⟩ = List.replicate n '\\' ++ c.1 :: text ⟨parts, last⟩ := by
  simp [text]

@[simp]
theorem text_lengthen (n : Nat) (runs : BackslashRuns) :
    (runs.lengthen n).text = List.replicate n '\\' ++ runs.text := by
  rcases runs with ⟨_ | ⟨⟨k, c⟩, parts⟩, last⟩
  · simp [lengthen]
  · rw [lengthen, text_cons, text_cons, ← List.append_assoc, List.replicate_append_replicate]

@[simp]
theorem text_precede (c : { c : Char // c ≠ '\\' }) (runs : BackslashRuns) :
    (runs.precede c).text = c.1 :: runs.text := by
  simp [precede]

/-- The runs of a text make it up. -/
@[simp]
theorem text_ofChars (s : List Char) : (ofChars s).text = s := by
  induction s with
  | nil => simp [ofChars]
  | cons c rest ih => by_cases h : c = '\\' <;> simp [ofChars, h, ih]

/-- Backslashes in front lengthen the first run. -/
theorem ofChars_replicate_append (n : Nat) (s : List Char) :
    ofChars (List.replicate n '\\' ++ s) = (ofChars s).lengthen n := by
  induction n with
  | zero => rcases hruns : ofChars s with ⟨_ | ⟨⟨k, c⟩, parts⟩, last⟩ <;> simp [hruns, lengthen]
  | succ n ih =>
      rw [List.replicate_succ, List.cons_append, ofChars, dif_pos rfl, ih]
      rcases ofChars s with ⟨_ | ⟨⟨k, c⟩, parts⟩, last⟩ <;> simp [lengthen] <;> omega

/-- A text has no other runs than those that it is made of. -/
@[simp]
theorem ofChars_text (runs : BackslashRuns) : ofChars runs.text = runs := by
  rcases runs with ⟨parts, last⟩
  induction parts with
  | nil =>
      have hruns := ofChars_replicate_append last []
      simpa [ofChars, lengthen] using hruns
  | cons part parts ih =>
      rcases part with ⟨n, c, hc⟩
      rw [text_cons, ofChars_replicate_append, ofChars, dif_neg hc, ih]
      simp [precede, lengthen]

/-- Every text has exactly one list of runs. -/
theorem text_eq_iff (runs : BackslashRuns) (s : List Char) :
    runs.text = s ↔ runs = ofChars s := by
  constructor
  · rintro rfl
    simp
  · rintro rfl
    simp

end BackslashRuns

/-! ## Collapsing -/

/-- Another character is left as it is. -/
theorem collapseBackslashes_cons {c : Char} (hc : c ≠ '\\') (s : List Char) :
    collapseBackslashes (c :: s) = c :: collapseBackslashes s := by
  cases s with
  | nil => rfl
  | cons d s => rw [collapseBackslashes, if_neg fun h => hc h.1]

/-- A run of backslashes is halved upwards, if no backslash follows it. -/
theorem collapseBackslashes_replicate_append {s : List Char} (hs : s.head? ≠ some '\\') (n : Nat) :
    collapseBackslashes (List.replicate n '\\' ++ s) =
      List.replicate ((n + 1) / 2) '\\' ++ collapseBackslashes s := by
  -- backslashes are taken off in pairs; a single one is left in front of what follows
  induction n using Nat.twoStepInduction with
  | zero => simp
  | one =>
      cases s with
      | nil => simp [collapseBackslashes]
      | cons d s =>
          have hd : d ≠ '\\' := by simpa using hs
          simp [collapseBackslashes, hd]
  | more n ih _ =>
      have hhalf : (n + 2 + 1) / 2 = (n + 1) / 2 + 1 := by omega
      rw [hhalf, List.replicate_succ, List.replicate_succ, List.replicate_succ]
      simp [collapseBackslashes, ih]

/-- Collapsing halves each run and changes nothing else. -/
theorem BackslashRuns.collapseBackslashes_text (runs : BackslashRuns) :
    collapseBackslashes runs.text = runs.halved.text := by
  rcases runs with ⟨parts, last⟩
  induction parts with
  | nil =>
      have hlast := collapseBackslashes_replicate_append (s := []) (by simp) last
      simpa [halved, collapseBackslashes] using hlast
  | cons part parts ih =>
      rcases part with ⟨n, c, hc⟩
      have hhead : (c :: text ⟨parts, last⟩).head? ≠ some '\\' := by simpa using hc
      rw [text_cons, collapseBackslashes_replicate_append hhead, collapseBackslashes_cons hc, ih]
      simp [halved]

/-- Collapsing makes no text longer. -/
theorem length_collapseBackslashes_le (s : List Char) :
    (collapseBackslashes s).length ≤ s.length := by
  fun_induction collapseBackslashes s with
  | case1 => simp
  | case2 => simp
  | case3 c d rest h ih =>
      simp only [List.length_cons]
      omega
  | case4 c d rest h ih =>
      simp only [List.length_cons] at ih ⊢
      omega

/-- A text is left as it is exactly if it has no two adjacent backslashes. -/
theorem collapseBackslashes_eq_self_iff (s : List Char) :
    collapseBackslashes s = s ↔ s.IsChain fun c d => ¬ (c = '\\' ∧ d = '\\') := by
  fun_induction collapseBackslashes s with
  | case1 => simp
  | case2 => simp
  | case3 c d rest h ih =>
      have hle := length_collapseBackslashes_le rest
      have hne : '\\' :: collapseBackslashes rest ≠ c :: d :: rest := by
        intro heq
        have hlength := congrArg List.length heq
        simp only [List.length_cons] at hlength
        omega
      rw [h.1, h.2] at hne
      simp [h, hne]
  | case4 c d rest h ih =>
      rw [List.isChain_cons_cons, List.cons_inj_right, ih]
      simp [h]

/-- Unescaping halves each run of backslashes, an odd one upwards, and keeps all other
characters and their order.  So it undoes the doubling of every backslash, and it leaves a
text as it is exactly if no two backslashes are adjacent in it. -/
theorem unescapePattern_runs (s : String) :
    ∃ runs : BackslashRuns, (∀ other : BackslashRuns, other.text = s.toList ↔ other = runs) ∧
      (unescapePattern s).toList = runs.halved.text ∧
      unescapePattern (String.ofList (doubleBackslashes s.toList)) = s ∧
      (unescapePattern s = s ↔ s.toList.IsChain fun c d => ¬ (c = '\\' ∧ d = '\\')) := by
  refine ⟨.ofChars s.toList, fun other => other.text_eq_iff s.toList, ?_, ?_, ?_⟩
  · rw [unescapePattern, String.toList_ofList, ← BackslashRuns.collapseBackslashes_text,
      BackslashRuns.text_ofChars]
  · simp [unescapePattern, collapseBackslashes_doubleBackslashes]
  · rw [← collapseBackslashes_eq_self_iff, unescapePattern, ← String.toList_inj,
      String.toList_ofList]

end PatchReview.Metadata
