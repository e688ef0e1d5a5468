/-!
# Cutting a list into chunks

`chunks n l` cuts a list into pieces of `n` elements; only the last may be shorter.
A size of zero counts as one.

Main statements:

- `flatten_chunks`: the pieces concatenate to the list.
- `length_chunks`: how many pieces there are.
- `length_of_chunks_eq_append`: only the last piece may be shorter.
-/

namespace PatchReview.Text

/-- Cut a list into pieces of `n` elements. -/
def chunks (n : Nat) : List α → List (List α)
  | [] => []
  | a :: rest => (a :: rest.take (n - 1)) :: chunks n (rest.drop (n - 1))
termination_by l => l.length

theorem flatten_chunks (n : Nat) (l : List α) : (chunks n l).flatten = l := by
  induction l using chunks.induct n with
  | case1 => simp [chunks]
  | case2 a rest ih => simp [chunks, ih]

/-- The number of pieces is the length divided by the size, rounded up. -/
theorem length_chunks {n : Nat} (hn : 1 ≤ n) (l : List α) :
    (chunks n l).length = (l.length + n - 1) / n := by
  induction l using chunks.induct n with
  | case1 =>
      rw [chunks, List.length_nil, List.length_nil, Nat.div_eq_of_lt]
      omega
  | case2 a rest ih =>
      have hsize : (a :: rest).length + n - 1 = rest.length + n := by
        rw [List.length_cons]
        omega
      rw [chunks, List.length_cons, ih, List.length_drop, hsize, Nat.add_div_right _ (by omega)]
      congr 1
      by_cases hlong : n - 1 ≤ rest.length
      · congr 1
        omega
      · rw [Nat.div_eq_of_lt (by omega), Nat.div_eq_of_lt (by omega)]

/-- No piece is empty, and none is larger than the size. -/
theorem length_of_mem_chunks {n : Nat} (hn : 1 ≤ n) {l piece : List α} (h : piece ∈ chunks n l) :
    1 ≤ piece.length ∧ piece.length ≤ n := by
  induction l using chunks.induct n with
  | case1 => simp [chunks] at h
  | case2 a rest ih =>
      rw [chunks, List.mem_cons] at h
      rcases h with rfl | h
      · rw [List.length_cons, List.length_take]
        omega
      · exact ih h

/-- A piece that another one follows has the full size. -/
theorem length_of_chunks_eq_append {n : Nat} (hn : 1 ≤ n) {l : List α}
    {first last : List (List α)} (h : chunks n l = first ++ last) (hlast : last ≠ [])
    {piece : List α} (hpiece : piece ∈ first) : piece.length = n := by
  induction l using chunks.induct n generalizing first with
  | case1 =>
      rw [chunks, eq_comm, List.append_eq_nil_iff] at h
      exact absurd h.2 hlast
  | case2 a rest ih =>
      cases first with
      | nil => cases hpiece
      | cons head first =>
          rw [chunks, List.cons_append, List.cons.injEq] at h
          obtain ⟨rfl, hrest⟩ := h
          rcases List.mem_cons.1 hpiece with rfl | hpiece
          · -- Something follows, so the list does not end within the piece.
            have hlong : n - 1 < rest.length := by
              apply Nat.lt_of_not_le
              intro hshort
              rw [List.drop_eq_nil_of_le hshort, chunks, eq_comm, List.append_eq_nil_iff] at hrest
              exact hlast hrest.2
            rw [List.length_cons, List.length_take]
            omega
          · exact ih hrest hpiece

end PatchReview.Text
