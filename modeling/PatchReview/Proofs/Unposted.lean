import Mathlib.Data.List.Basic
import PatchReview.Proofs.CommentScan

/-!
# Findings still to be posted

Given the signatures that are known, posting keeps the first finding of every other
signature.  This module compares that scan with a description without recursion and
shows what becomes of it when some of these findings have been posted: the rest
stays, in the same order.

Main results:

- Definition `unposted`: the findings still to be posted on a thread.
- Theorem `newFindings_eq_unposted`: these are the findings that posting keeps.
- Theorem `newFindings_eq_filter`: what is left when more signatures are known.
- Theorem `newFindings_of_posted`: once the first of them are known, the others
  are left.
- Theorem `unposted_append_map_commentBody`: what is left when comments are added.
-/

namespace PatchReview

/-- The findings that are still to be posted on a thread: for every signature that no
comment carries the first finding with it, in the order of the findings. -/
def unposted (comments : List (Option String)) (findings : List Finding) : List Finding :=
  ((findings.map Finding.signature).filter (· ∉ carried comments)).eraseDups.filterMap
    fun s => findings.find? fun f => f.signature = s

namespace Posting

/-- Only which signatures are known matters, not their order or number. -/
theorem newFindings_congr {known known' : List String} (h : ∀ x, x ∈ known ↔ x ∈ known')
    (findings : List Finding) : newFindings known findings = newFindings known' findings := by
  induction findings generalizing known known' with
  | nil => rfl
  | cons f findings ih =>
      have hcons : ∀ x, x ∈ f.signature :: known ↔ x ∈ f.signature :: known' := by
        intro x
        rw [List.mem_cons, List.mem_cons, h]
      simp only [newFindings, h f.signature, ih h, ih hcons]

/-- The scan for new findings without recursion. -/
theorem newFindings_eq_filterMap (known : List String) (findings : List Finding) :
    newFindings known findings =
      ((findings.map Finding.signature).filter (· ∉ known)).eraseDups.filterMap
        fun s => findings.find? fun f => f.signature = s := by
  induction findings generalizing known with
  | nil => rfl
  | cons f findings ih =>
      -- A signature other than that of `f` is looked for behind `f`.
      have hskip : ∀ l : List String, f.signature ∉ l →
          (l.filterMap fun s => (f :: findings).find? fun g => g.signature = s) =
            l.filterMap fun s => findings.find? fun g => g.signature = s := by
        intro l hl
        apply List.filterMap_congr
        intro s hs
        have hne : f.signature ≠ s := fun e => hl (e ▸ hs)
        simp [hne]
      rw [List.map_cons, newFindings]
      by_cases hf : f.signature ∈ known
      · rw [if_pos hf, List.filter_cons_of_neg (by simpa using hf), ih, hskip]
        simp [List.mem_eraseDups, hf]
      · have hrest : (((findings.map Finding.signature).filter (· ∉ known)).filter
            fun s => !s == f.signature) =
              (findings.map Finding.signature).filter (· ∉ f.signature :: known) := by
          rw [List.filter_filter]
          apply List.filter_congr
          intro s _
          by_cases hs : s = f.signature <;> simp [hs]
        rw [if_neg hf, List.filter_cons_of_pos (by simpa using hf), List.eraseDups_cons, hrest,
          List.filterMap_cons, ih, hskip]
        · simp
        · simp [List.mem_eraseDups]

/-- Posting keeps the findings that are still to be posted. -/
theorem newFindings_eq_unposted {known : List String} {comments : List (Option String)}
    (h : ∀ x, x ∈ known ↔ x ∈ carried comments) (findings : List Finding) :
    newFindings known findings = unposted comments findings := by
  rw [newFindings_congr h, newFindings_eq_filterMap, unposted]

/-- New findings are findings, in their order. -/
theorem newFindings_sublist (known : List String) (findings : List Finding) :
    (newFindings known findings).Sublist findings := by
  induction findings generalizing known with
  | nil => exact List.Sublist.slnil
  | cons f findings ih =>
      rw [newFindings]
      split
      · exact (ih known).cons f
      · exact (ih (f.signature :: known)).cons_cons f

/-- What is still to be posted are findings, in their order. -/
theorem unposted_sublist (comments : List (Option String)) (findings : List Finding) :
    (unposted comments findings).Sublist findings := by
  rw [← newFindings_eq_unposted (fun _ => Iff.rfl)]
  exact newFindings_sublist (carried comments) findings

/-- The signature of a new finding is not known. -/
theorem signature_not_mem_of_mem_newFindings {known : List String} {findings : List Finding}
    {f : Finding} (h : f ∈ newFindings known findings) : f.signature ∉ known := by
  induction findings generalizing known with
  | nil => cases h
  | cons g findings ih =>
      rw [newFindings] at h
      split at h
      · exact ih h
      · next hg =>
          rcases List.mem_cons.1 h with rfl | h
          · exact hg
          · exact fun hmem => ih h (List.mem_cons_of_mem _ hmem)

/-- No two new findings have the same signature. -/
theorem nodup_signature_newFindings (known : List String) (findings : List Finding) :
    ((newFindings known findings).map Finding.signature).Nodup := by
  induction findings generalizing known with
  | nil => exact List.nodup_nil
  | cons f findings ih =>
      rw [newFindings]
      split
      · exact ih known
      · rw [List.map_cons, List.nodup_cons]
        refine ⟨?_, ih (f.signature :: known)⟩
        intro hmem
        obtain ⟨g, hg, hsig⟩ := List.mem_map.1 hmem
        exact signature_not_mem_of_mem_newFindings hg (hsig ▸ List.mem_cons_self)

/-- When more signatures are known, the new findings with the others are left. -/
theorem newFindings_eq_filter {known known' : List String} (h : ∀ x ∈ known, x ∈ known')
    (findings : List Finding) :
    newFindings known' findings =
      (newFindings known findings).filter fun f => f.signature ∉ known' := by
  induction findings generalizing known known' with
  | nil => rfl
  | cons f findings ih =>
      by_cases hf : f.signature ∈ known
      · rw [newFindings, if_pos (h _ hf), newFindings, if_pos hf]
        exact ih h
      rw [newFindings, newFindings, if_neg hf]
      by_cases hf' : f.signature ∈ known'
      · have hcons : ∀ x ∈ f.signature :: known, x ∈ known' := by
          intro x hx
          rcases List.mem_cons.1 hx with rfl | hx
          · exact hf'
          · exact h x hx
        rw [if_pos hf', List.filter_cons_of_neg (by simpa using hf')]
        exact ih hcons
      · have hcons : ∀ x ∈ f.signature :: known, x ∈ f.signature :: known' := by
          intro x hx
          rcases List.mem_cons.1 hx with rfl | hx
          · exact List.mem_cons_self
          · exact List.mem_cons_of_mem _ (h x hx)
        rw [if_neg hf', List.filter_cons_of_pos (by simpa using hf'), ih hcons]
        congr 1
        -- The findings behind `f` that are new have other signatures than `f`.
        apply List.filter_congr
        intro g hg
        have hne : g.signature ∉ f.signature :: known := signature_not_mem_of_mem_newFindings hg
        rw [List.mem_cons, not_or] at hne
        simp [hne.1]

/-- Once the first of the new findings are known, the others are left. -/
theorem newFindings_of_posted {known known' : List String} {findings posted left : List Finding}
    (hsplit : newFindings known findings = posted ++ left)
    (hknown : ∀ x, x ∈ known' ↔ x ∈ known ∨ x ∈ posted.map Finding.signature) :
    newFindings known' findings = left := by
  have hdistinct := nodup_signature_newFindings known findings
  rw [hsplit, List.map_append] at hdistinct
  have hposted : (posted.filter fun f => f.signature ∉ known') = [] := by
    rw [List.filter_eq_nil_iff]
    intro f hf
    have hmem : f.signature ∈ known' := (hknown _).2 (Or.inr (List.mem_map_of_mem hf))
    simpa using hmem
  have hleft : (left.filter fun f => f.signature ∉ known') = left := by
    rw [List.filter_eq_self]
    intro f hf
    have hnew : f ∈ newFindings known findings := hsplit ▸ List.mem_append_right posted hf
    have hother : f.signature ∉ posted.map Finding.signature := fun hmem =>
      (List.nodup_append.1 hdistinct).2.2 _ hmem _ (List.mem_map_of_mem hf) rfl
    have hnot : f.signature ∉ known' := by
      rw [hknown, not_or]
      exact ⟨signature_not_mem_of_mem_newFindings hnew, hother⟩
    simpa using hnot
  rw [newFindings_eq_filter (fun x hx => (hknown x).2 (Or.inl hx)), hsplit, List.filter_append,
    hposted, hleft, List.nil_append]

/-- When comments for findings are added, the findings whose signatures are not read back
from them are still to be posted. -/
theorem unposted_append_map_commentBody (comments : List (Option String))
    (findings posted : List Finding) :
    unposted (comments ++ posted.map fun f => some f.commentBody) findings =
      (unposted comments findings).filter fun f =>
        f.signature ∉ posted.map Finding.readSignature := by
  have hsub : ∀ x ∈ carried comments,
      x ∈ carried comments ++ posted.map Finding.readSignature :=
    fun _ hx => List.mem_append_left _ hx
  rw [← newFindings_eq_unposted (fun _ => Iff.rfl), ← newFindings_eq_unposted (fun _ => Iff.rfl),
    carried_append, carried_map_commentBody, newFindings_eq_filter hsub]
  apply List.filter_congr
  intro f hf
  have hnot : f.signature ∉ carried comments := signature_not_mem_of_mem_newFindings hf
  simp [hnot]

end Posting

end PatchReview
