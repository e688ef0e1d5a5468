/-!
# Steps that may fail

A step that may fail answers in `Except` or `Option`.  Steps are taken one after the other, or
once for each element of a list; they succeed only if each of them does.

Main statements:

- `exists_of_bind_eq_ok`: two steps that succeed succeed one after the other.
- `eq_ok_of_mapError_eq_ok`: other words for an error do not make a success.
- `exists_of_mem_mapM` and `mapM_eq_filterMap`: the results of a step for each element.
-/

namespace PatchReview

/-- Two steps that can fail succeed only if both do. -/
theorem exists_of_bind_eq_ok {e : Except ε α} {f : α → Except ε β} {b : β}
    (h : e >>= f = .ok b) : ∃ a, e = .ok a ∧ f a = .ok b := by
  cases e with
  | error m => cases h
  | ok a => exact ⟨a, rfl, h⟩

/-- A step whose error is reported in other words succeeds only if it does by itself. -/
theorem eq_ok_of_mapError_eq_ok {e : Except ε α} {f : ε → δ} {a : α}
    (h : e.mapError f = .ok a) : e = .ok a := by
  cases e with
  | error m => cases h
  | ok b => exact congrArg Except.ok (Except.ok.inj h)

/-! ## A step for each element -/

/-- Every result of an action on each element of a list is the result for one of them. -/
theorem exists_of_mem_mapM {f : α → Option β} {as : List α} {bs : List β} {b : β}
    (h : as.mapM f = some bs) (hb : b ∈ bs) : ∃ a ∈ as, f a = some b := by
  induction as generalizing bs with
  | nil =>
      cases h
      cases hb
  | cons a as ih =>
      rw [List.mapM_cons] at h
      obtain ⟨first, hfirst, h⟩ := Option.bind_eq_some_iff.1 h
      obtain ⟨rest, hrest, h⟩ := Option.bind_eq_some_iff.1 h
      cases h
      rcases List.mem_cons.1 hb with rfl | hb
      · exact ⟨a, List.mem_cons_self, hfirst⟩
      · obtain ⟨a', ha', hresult⟩ := ih hrest hb
        exact ⟨a', List.mem_cons_of_mem _ ha', hresult⟩

/-- If an action gives a result on each element of a list, these are all its results. -/
theorem mapM_eq_filterMap {f : α → Option β} {as : List α}
    (h : ∀ a ∈ as, (f a).isSome = true) : as.mapM f = some (as.filterMap f) := by
  induction as with
  | nil => rfl
  | cons a as ih =>
      obtain ⟨ha, has⟩ := List.forall_mem_cons.1 h
      obtain ⟨b, hb⟩ := Option.isSome_iff_exists.1 ha
      simp [List.mapM_cons, hb, ih has]

end PatchReview
