import Mathlib.Data.List.Induction
import Mathlib.Data.List.Nodup
import PatchReview.Fields

/-!
# Fields in order

Fields that are set one after the other stand in the order of their names, each name
once.  So fields that are made from entries with different names are the entries in that
order, and two arrangements of the same entries give the same fields.

Main results:

- Definition `Fields.IsOrdered`: the names increase.
- Theorem `Fields.isOrdered_ofList`: fields that are made from entries are in order.
- Theorem `Fields.ofList_eq_of_perm`: they are the one arrangement of the entries that is.
- Theorem `Fields.IsOrdered.ext`: fields in order are known by what they read.
- Definition `Fields.override`: fields laid over others, where both have a name.
- Theorem `Fields.override_ofList`: laying the fields of entries over others is setting these
  entries.
-/

namespace PatchReview

namespace Fields

variable {α : Type}

/-- The names of the fields increase. -/
def IsOrdered (fields : Fields α) : Prop :=
  fields.Pairwise fun a b => a.1 < b.1

instance (fields : Fields α) : Decidable fields.IsOrdered :=
  inferInstanceAs (Decidable (List.Pairwise _ _))

theorem isOrdered_nil : IsOrdered ([] : Fields α) :=
  List.Pairwise.nil

theorem isOrdered_singleton (field : String × α) : IsOrdered [field] :=
  List.pairwise_singleton _ _

/-- Names that increase are different. -/
theorem IsOrdered.nodup {fields : Fields α} (h : fields.IsOrdered) :
    (fields.map (·.1)).Nodup := by
  rw [List.nodup_iff_pairwise_ne, List.pairwise_map]
  refine List.Pairwise.imp ?_ h
  intro a b hlt heq
  rw [heq] at hlt
  exact String.lt_irrefl _ hlt

/-- One of two different names is less than the other. -/
theorem lt_of_not_lt {a b : String} (hne : a ≠ b) (h : ¬ a < b) : b < a := by
  by_cases hba : b < a
  · exact hba
  · exact absurd (String.le_antisymm (String.not_lt.1 hba) (String.not_lt.1 h)) hne

/-- Setting a field keeps the order. -/
theorem isOrdered_set {fields : Fields α} (h : fields.IsOrdered) (name : String) (value : α) :
    (set fields name value).IsOrdered := by
  induction fields with
  | nil => exact isOrdered_singleton _
  | cons entry rest ih =>
      obtain ⟨n, v⟩ := entry
      obtain ⟨hfirst, hrest⟩ := List.pairwise_cons.1 h
      rw [set]
      split
      · next heq =>
        rw [heq]
        exact List.pairwise_cons.2 ⟨hfirst, hrest⟩
      · next hne =>
        split
        · next hlt =>
          refine List.pairwise_cons.2 ⟨List.forall_mem_cons.2 ⟨hlt, ?_⟩, h⟩
          intro field hfield
          exact String.lt_trans hlt (hfirst field hfield)
        · next hnot =>
          refine List.pairwise_cons.2 ⟨?_, ih hrest⟩
          intro field hfield
          rcases mem_of_mem_set hfield with rfl | hfield
          · exact lt_of_not_lt hne hnot
          · exact hfirst field hfield

/-- Fields are made from entries by setting one after the other. -/
theorem ofList_concat (entries : List (String × α)) (entry : String × α) :
    ofList (entries ++ [entry]) = set (ofList entries) entry.1 entry.2 := by
  rw [ofList, List.foldl_append]
  rfl

/-- Fields that are made from entries are in order. -/
theorem isOrdered_ofList (entries : List (String × α)) : (ofList entries).IsOrdered := by
  induction entries using List.reverseRecOn with
  | nil => exact isOrdered_nil
  | append_singleton entries entry ih =>
      rw [ofList_concat]
      exact isOrdered_set ih entry.1 entry.2

/-- Setting a field of a new name adds it to the fields. -/
theorem set_perm {fields : Fields α} {name : String} (h : name ∉ fields.map (·.1)) (value : α) :
    (set fields name value).Perm ((name, value) :: fields) := by
  induction fields with
  | nil => exact List.Perm.refl _
  | cons entry rest ih =>
      obtain ⟨n, v⟩ := entry
      rw [List.map_cons, List.mem_cons, not_or] at h
      rw [set, if_neg h.1]
      split
      · exact List.Perm.refl _
      · exact ((ih h.2).cons _).trans (List.Perm.swap _ _ _)

/-- Fields that are made from entries with different names are these entries. -/
theorem ofList_perm {entries : List (String × α)} (h : (entries.map (·.1)).Nodup) :
    (ofList entries).Perm entries := by
  induction entries using List.reverseRecOn with
  | nil => exact List.Perm.refl _
  | append_singleton entries entry ih =>
      rw [List.map_append, List.nodup_append] at h
      obtain ⟨hentries, -, hdisjoint⟩ := h
      have hperm := ih hentries
      have hnew : entry.1 ∉ (ofList entries).map (·.1) := by
        rw [(hperm.map (·.1)).mem_iff]
        intro hmem
        exact hdisjoint entry.1 hmem entry.1 (List.mem_singleton.2 rfl) rfl
      rw [ofList_concat]
      exact ((set_perm hnew entry.2).trans (hperm.cons entry)).trans
        (List.perm_append_singleton entry entries).symm

/-- Fields in order are made from every arrangement of them. -/
theorem ofList_eq_of_perm {entries : List (String × α)} {fields : Fields α}
    (hfields : fields.IsOrdered) (h : entries.Perm fields) : ofList entries = fields := by
  have hnodup : (entries.map (·.1)).Nodup := (h.map (·.1)).nodup_iff.2 hfields.nodup
  refine List.Perm.eq_of_pairwise ?_ (isOrdered_ofList entries) hfields ((ofList_perm hnodup).trans h)
  exact fun a b _ _ hab hba => absurd hba (String.lt_asymm hab)

/-- Fields in order are made from themselves. -/
theorem ofList_eq_self {fields : Fields α} (h : fields.IsOrdered) : ofList fields = fields :=
  ofList_eq_of_perm h (List.Perm.refl fields)

/-- Fields in order are known by what they read under each name. -/
theorem IsOrdered.ext {first second : Fields α} (hfirst : first.IsOrdered)
    (hsecond : second.IsOrdered) (h : ∀ name, first.get? name = second.get? name) :
    first = second := by
  have hmem : ∀ {a b : Fields α}, a.IsOrdered → (∀ name, a.get? name = b.get? name) →
      ∀ field ∈ a, field ∈ b := by
    intro a b ha hread field hfield
    exact mem_of_get? ((hread field.1).symm.trans (get?_of_mem ha.nodup hfield))
  have hperm : first.Perm second := by
    refine (List.perm_ext_iff_of_nodup (List.Nodup.of_map _ hfirst.nodup)
      (List.Nodup.of_map _ hsecond.nodup)).2 fun field => ⟨?_, ?_⟩
    · exact hmem hfirst h field
    · exact hmem hsecond (fun name => (h name).symm) field
  rw [← ofList_eq_self hfirst, ofList_eq_of_perm hsecond hperm]

/-! ## Fields laid over others -/

/-- Set entries one after the other. -/
def setAll (fields : Fields α) (entries : List (String × α)) : Fields α :=
  entries.foldl (fun fields (name, value) => set fields name value) fields

/-- Fields laid over others: where both have a name, theirs counts. -/
def override (base later : Fields α) : Fields α :=
  base.setAll later

theorem setAll_append (fields : Fields α) (first second : List (String × α)) :
    fields.setAll (first ++ second) = (fields.setAll first).setAll second :=
  List.foldl_append

/-- Fields stay in order when entries are set. -/
theorem isOrdered_setAll {fields : Fields α} (h : fields.IsOrdered) (entries : List (String × α)) :
    (fields.setAll entries).IsOrdered := by
  induction entries generalizing fields with
  | nil => exact h
  | cons entry rest ih => exact ih (isOrdered_set h entry.1 entry.2)

/-- Entries that are set count before what was there. -/
theorem get?_setAll (fields : Fields α) (entries : List (String × α)) (name : String) :
    (fields.setAll entries).get? name = ((ofList entries).get? name).or (fields.get? name) := by
  induction entries using List.reverseRecOn with
  | nil => rfl
  | append_singleton entries entry ih =>
      have hset : fields.setAll (entries ++ [entry]) =
          set (fields.setAll entries) entry.1 entry.2 := setAll_append fields entries [entry]
      rw [hset, ofList_concat, get?_set, get?_set, ih]
      split
      · rfl
      · rfl

/-- Of the entries of a name the last one counts. -/
theorem get?_ofList_append (before : List (String × α)) (name : String) (value : α)
    {after : List (String × α)} (h : name ∉ after.map (·.1)) :
    (ofList (before ++ (name, value) :: after)).get? name = some value := by
  have hafter : (ofList after).get? name = none := by
    rw [get?_eq_none_iff]
    intro hmem
    obtain ⟨entry, hentry, hname⟩ := List.mem_map.1 hmem
    exact h (List.mem_map.2 ⟨entry, mem_of_mem_ofList hentry, hname⟩)
  have hcut : ofList (before ++ (name, value) :: after) =
      (set (ofList before) name value).setAll after := by
    have hconcat : ofList (before ++ [(name, value)]) = set (ofList before) name value :=
      ofList_concat before (name, value)
    rw [← List.singleton_append, ← List.append_assoc, ← hconcat]
    exact setAll_append [] (before ++ [(name, value)]) after
  rw [hcut, get?_setAll, hafter, Option.none_or, get?_set, if_pos rfl]

/-- Where fields are laid over others, theirs are read first. -/
theorem get?_override (base : Fields α) {later : Fields α} (hlater : later.IsOrdered) (name : String) :
    (base.override later).get? name = (later.get? name).or (base.get? name) := by
  rw [override, get?_setAll, ofList_eq_self hlater]

/-- Laying the fields of some entries over others is setting these entries. -/
theorem override_ofList {base : Fields α} (hbase : base.IsOrdered) (entries : List (String × α)) :
    base.override (ofList entries) = base.setAll entries := by
  refine IsOrdered.ext (isOrdered_setAll hbase _) (isOrdered_setAll hbase _) fun name => ?_
  rw [get?_override base (isOrdered_ofList entries), get?_setAll]

end Fields

end PatchReview
