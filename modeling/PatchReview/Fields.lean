/-!
# Named fields

The fields of an object are kept in the order of their names, each name once.
Setting a field that exists replaces its value.

Main statements:

- `get?_eq_none_iff`: a field is missing if its name is not among the names.
- `get?_set`: what a field reads after one of them is set.
- `get?_ofList`: fields from a list with different names read as they do in the list.
- `mem_of_get?` and `get?_of_mem`: what is read is a field, and a field of a name that comes
  once is read.
- `mem_of_mem_ofList`: fields from a list are among those of the list.
-/

namespace PatchReview

/-- Values under names. -/
abbrev Fields (α : Type) := List (String × α)

namespace Fields

variable {α : Type}

/-- The value of a field. -/
def get? (fields : Fields α) (name : String) : Option α :=
  match fields with
  | [] => none
  | (n, v) :: rest => if n = name then some v else get? rest name

/-- Set a field, in its place in the order of names. -/
def set (fields : Fields α) (name : String) (value : α) : Fields α :=
  match fields with
  | [] => [(name, value)]
  | (n, v) :: rest =>
    if name = n then (name, value) :: rest
    else if name < n then (name, value) :: (n, v) :: rest
    else (n, v) :: set rest name value

/-- Fields from a list of names and values; of two values for one name the later
one counts. -/
def ofList (entries : List (String × α)) : Fields α :=
  entries.foldl (fun fields (name, value) => set fields name value) []

theorem get?_eq_none_iff {fields : Fields α} {name : String} :
    fields.get? name = none ↔ name ∉ fields.map (·.1) := by
  induction fields with
  | nil => simp [get?]
  | cons entry rest ih =>
    obtain ⟨n, v⟩ := entry
    by_cases h : n = name
    · simp [get?, h]
    · simp [get?, h, ih, Ne.symm h]

theorem get?_set (fields : Fields α) (name : String) (value : α) (other : String) :
    (set fields name value).get? other = if name = other then some value else fields.get? other := by
  induction fields with
  | nil => rfl
  | cons entry rest ih =>
    obtain ⟨n, v⟩ := entry
    simp only [set]
    split
    · next h => subst h; simp only [get?]; split <;> rfl
    · split
      · rfl
      · next h _ =>
        simp only [get?, ih]
        split
        · next hn => subst hn; simp [h]
        · rfl

theorem get?_ofList {entries : List (String × α)} (h : (entries.map (·.1)).Nodup) (name : String) :
    (ofList entries).get? name = get? entries name := by
  suffices hfold : ∀ fields : Fields α,
      (entries.foldl (fun fields (name, value) => set fields name value) fields).get? name =
        (get? entries name).or (fields.get? name) by
    rw [ofList, hfold, get?, Option.or_none]
  induction entries with
  | nil => exact fun _ => rfl
  | cons entry rest ih =>
    obtain ⟨n, v⟩ := entry
    rw [List.map_cons, List.nodup_cons] at h
    intro fields
    rw [List.foldl_cons, ih h.2, get?_set, get?]
    split
    · next hn =>
      rw [hn] at h
      rw [get?_eq_none_iff.2 h.1]
      rfl
    · rfl

theorem mem_of_get? {fields : Fields α} {name : String} {value : α}
    (h : fields.get? name = some value) : (name, value) ∈ fields := by
  induction fields with
  | nil => cases h
  | cons entry rest ih =>
    obtain ⟨n, v⟩ := entry
    simp only [get?] at h
    split at h
    · next hn =>
      cases h
      exact hn ▸ List.mem_cons_self
    · exact List.mem_cons_of_mem _ (ih h)

theorem get?_of_mem {fields : Fields α} (hnames : (fields.map (·.1)).Nodup) {name : String}
    {value : α} (h : (name, value) ∈ fields) : fields.get? name = some value := by
  induction fields with
  | nil => cases h
  | cons entry rest ih =>
    rw [List.map_cons, List.nodup_cons] at hnames
    rcases List.mem_cons.1 h with rfl | hrest
    · simp [get?]
    · have hne : entry.1 ≠ name := by
        rintro rfl
        exact hnames.1 (List.mem_map.2 ⟨_, hrest, rfl⟩)
      simp [get?, hne, ih hnames.2 hrest]

theorem mem_of_mem_set {fields : Fields α} {name : String} {value : α} {entry : String × α}
    (h : entry ∈ set fields name value) : entry = (name, value) ∨ entry ∈ fields := by
  induction fields with
  | nil => exact Or.inl (List.mem_singleton.1 h)
  | cons first rest ih =>
    obtain ⟨n, v⟩ := first
    simp only [set] at h
    split at h
    · exact (List.mem_cons.1 h).imp_right (List.mem_cons_of_mem _)
    · split at h
      · exact List.mem_cons.1 h
      · rcases List.mem_cons.1 h with rfl | h
        · exact Or.inr List.mem_cons_self
        · exact (ih h).imp_right (List.mem_cons_of_mem _)

theorem mem_of_mem_ofList {entries : List (String × α)} {entry : String × α}
    (h : entry ∈ ofList entries) : entry ∈ entries := by
  suffices hfold : ∀ fields : Fields α,
      entry ∈ entries.foldl (fun fields (name, value) => set fields name value) fields →
        entry ∈ fields ∨ entry ∈ entries from (hfold [] h).resolve_left List.not_mem_nil
  clear h
  induction entries with
  | nil => exact fun _ h => Or.inl h
  | cons first rest ih =>
    intro fields h
    rcases ih _ h with h | h
    · rcases mem_of_mem_set h with rfl | h
      · exact Or.inr List.mem_cons_self
      · exact Or.inl h
    · exact Or.inr (List.mem_cons_of_mem _ h)

end Fields

end PatchReview
