import PatchReview.Fields

/-!
# Values of a configuration

Every source of a configuration is read as a table of values.  Tables are merged
key by key; any other value takes the place of what was there.

Main statements:

- `get?_mergeFields`: what a merged table holds under a key.
-/

namespace PatchReview.Config

/-- A value of a configuration. -/
inductive Value where
  | null
  | bool (b : Bool)
  | int (i : Int)
  /-- A number that is no integer; which one does not matter to any setting. -/
  | real
  | text (s : String)
  | list (items : List Value)
  | table (fields : List (String × Value))
  deriving Repr, Inhabited

namespace Value

mutual

/-- Merge a later value into an earlier one. -/
def merge (old : Value) (new : Value) : Value :=
  match new with
  | .table fields =>
    match old with
    | .table earlier => .table (mergeFields earlier fields)
    | _ => .table fields
  | other => other

/-- Merge the fields of a later table into those of an earlier one. -/
def mergeFields (old : List (String × Value)) (new : List (String × Value)) :
    List (String × Value) :=
  match new with
  | [] => old
  | (name, value) :: rest =>
    let merged := match Fields.get? old name with
      | some earlier => merge earlier value
      | none => value
    mergeFields (Fields.set old name merged) rest

end

/-- What a merged table holds under a key: the later value, merged into the earlier one
if there is one. -/
def mergedField (old new : Option Value) : Option Value :=
  match new with
  | none => old
  | some value => some (match old with
    | some earlier => merge earlier value
    | none => value)

theorem get?_mergeFields (old new : List (String × Value)) (h : (new.map (·.1)).Nodup)
    (key : String) :
    Fields.get? (mergeFields old new) key
      = mergedField (Fields.get? old key) (Fields.get? new key) := by
  induction new generalizing old with
  | nil => simp [mergeFields, mergedField, Fields.get?]
  | cons entry rest ih =>
    obtain ⟨name, value⟩ := entry
    simp only [List.map_cons, List.nodup_cons] at h
    rw [mergeFields, ih _ h.2, Fields.get?_set]
    by_cases hk : name = key
    · subst hk
      have hr : Fields.get? rest name = none := by
        rw [Fields.get?_eq_none_iff]
        exact h.1
      simp only [if_pos, hr, mergedField, Fields.get?]
    · simp [hk, Fields.get?]

/-- A field of a table; other values have none. -/
def field? (v : Value) (name : String) : Option Value :=
  match v with
  | .table fields => Fields.get? fields name
  | _ => none

end Value

/-- The source of a configuration: its table. -/
abbrev Table := Fields Value

/-- Merge the tables of some sources; later ones count more. -/
def Table.mergeAll (tables : List Table) : Table :=
  tables.foldl Value.mergeFields []

end PatchReview.Config
