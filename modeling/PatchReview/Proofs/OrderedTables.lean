import PatchReview.Config.Load
import PatchReview.Proofs.OrderedFields

/-!
# Tables hold each key once

However a source of a configuration is written, it is read as a table whose keys stand in
order, each once, and so are the tables inside it.  Merging keeps them so.

Main results:

- Definition `Value.IsOrdered`: all tables in a value are in order.
- Theorems `Value.isOrdered_merge`, `Table.isOrdered_mergeAll`: merging keeps the order.
- Theorems `Value.isOrdered_ofJson`, `isOrdered_tableOfYaml`: JSON and YAML are read in order.
-/

namespace PatchReview

namespace Config

/-! ## Values in order -/

/-- A value that is no table. -/
def Value.IsPlain (v : Value) : Prop :=
  ∀ fields, v ≠ .table fields

/-- A value whose tables hold their keys in order, each once; lists are not looked into. -/
inductive Value.IsOrdered : Value → Prop where
  | plain {v : Value} (h : v.IsPlain) : IsOrdered v
  | table {fields : List (String × Value)} (names : Fields.IsOrdered fields)
      (values : ∀ field ∈ fields, IsOrdered field.2) : IsOrdered (.table fields)

namespace Value

theorem isOrdered_table_iff {fields : List (String × Value)} :
    (Value.table fields).IsOrdered ↔
      Fields.IsOrdered fields ∧ ∀ field ∈ fields, field.2.IsOrdered := by
  constructor
  · intro h
    cases h with
    | plain h => exact absurd rfl (h fields)
    | table names values => exact ⟨names, values⟩
  · rintro ⟨names, values⟩
    exact .table names values

/-- A table that is made from entries is in order. -/
theorem isOrdered_ofList {entries : List (String × Value)}
    (h : ∀ entry ∈ entries, entry.2.IsOrdered) : (Value.table (Fields.ofList entries)).IsOrdered :=
  .table (Fields.isOrdered_ofList entries) fun entry hentry =>
    h entry (Fields.mem_of_mem_ofList hentry)

/-- Setting a key to a value in order keeps a table in order. -/
theorem isOrdered_set {fields : List (String × Value)} (h : (Value.table fields).IsOrdered)
    (name : String) {v : Value} (hv : v.IsOrdered) :
    (Value.table (Fields.set fields name v)).IsOrdered := by
  obtain ⟨names, values⟩ := isOrdered_table_iff.1 h
  refine .table (Fields.isOrdered_set names name v) fun field hfield => ?_
  rcases Fields.mem_of_mem_set hfield with rfl | hfield
  · exact hv
  · exact values field hfield

/-! ## Merging -/

/-- Merging the fields of a table keeps the order if merging each of them does. -/
theorem isOrdered_mergeFields {fields : List (String × Value)}
    (h : ∀ field ∈ fields, field.2.IsOrdered ∧ ∀ old : Value, old.IsOrdered →
      (merge old field.2).IsOrdered)
    {old : List (String × Value)} (hold : (Value.table old).IsOrdered) :
    (Value.table (mergeFields old fields)).IsOrdered := by
  induction fields generalizing old with
  | nil => exact hold
  | cons field rest ih =>
      obtain ⟨name, v⟩ := field
      obtain ⟨⟨hv, hmerge⟩, hrest⟩ := List.forall_mem_cons.1 h
      rw [mergeFields]
      -- the value that is set is merged into the earlier one, which is in order as well
      refine ih hrest (isOrdered_set hold name ?_)
      split
      · next earlier hearlier =>
        have hmem := Fields.mem_of_get? hearlier
        exact hmerge earlier ((isOrdered_table_iff.1 hold).2 _ hmem)
      · exact hv

/-- A value that is no table takes the place of what was there. -/
theorem merge_of_isPlain {v : Value} (h : v.IsPlain) (old : Value) : merge old v = v := by
  cases v with
  | table fields => exact absurd rfl (h fields)
  | _ => rfl

/-- Merging keeps the order. -/
theorem isOrdered_merge {old new : Value} (hold : old.IsOrdered) (hnew : new.IsOrdered) :
    (merge old new).IsOrdered := by
  induction hnew generalizing old with
  | plain h =>
      rw [merge_of_isPlain h]
      exact .plain h
  | table names values ih =>
      unfold merge
      split
      · exact isOrdered_mergeFields (fun field hfield =>
          ⟨values field hfield, fun _ h => ih field hfield h⟩) hold
      · exact .table names values

end Value

/-- A table in order. -/
def Table.IsOrdered (t : Table) : Prop :=
  (Value.table t).IsOrdered

theorem Table.isOrdered_nil : Table.IsOrdered [] :=
  .table Fields.isOrdered_nil nofun

theorem Table.isOrdered_mergeFields {old new : Table} (hold : old.IsOrdered)
    (hnew : new.IsOrdered) : Table.IsOrdered (Value.mergeFields old new) := by
  have h := Value.isOrdered_merge hold hnew
  rwa [Value.merge] at h

/-- Tables are merged one after the other. -/
theorem Table.mergeAll_concat (tables : List Table) (t : Table) :
    Table.mergeAll (tables ++ [t]) = Value.mergeFields (Table.mergeAll tables) t := by
  rw [mergeAll, List.foldl_append]
  rfl

/-- Tables in order are merged to one. -/
theorem Table.isOrdered_mergeAll {tables : List Table} (h : ∀ t ∈ tables, Table.IsOrdered t) :
    (Table.mergeAll tables).IsOrdered := by
  induction tables using List.reverseRecOn with
  | nil => exact isOrdered_nil
  | append_singleton tables t ih =>
      obtain ⟨htables, ht⟩ := List.forall_mem_append.1 h
      rw [mergeAll_concat]
      exact isOrdered_mergeFields (ih htables) (List.forall_mem_singleton.1 ht)

end Config

/-! ## JSON -/

/-- A JSON value whose objects hold their names in order, each once. -/
inductive Json.IsOrdered : Json → Prop where
  | plain {j : Json} (h : ∀ fields, j ≠ .object fields) : IsOrdered j
  | object {fields : List (String × Json)} (names : Fields.IsOrdered fields)
      (values : ∀ field ∈ fields, IsOrdered field.2) : IsOrdered (.object fields)

namespace Json

open Text (Reader)

section

variable {α : Type} {item : Reader α} {P : α → Prop}
  (hitem : ∀ cs a rest, item cs = some (a, rest) → P a)
include hitem

/-- What is read of every item is true of the items after a first one. -/
theorem forall_of_readMore {closing : Char} {fuel : Nat} {cs rest : List Char} {as : List α}
    (h : readMore item closing fuel cs = some (as, rest)) : ∀ a ∈ as, P a := by
  induction fuel generalizing cs as rest with
  | zero => cases h
  | succ fuel ih =>
      rw [readMore] at h
      split at h
      · simp only [Option.bind_eq_bind, Option.bind_eq_some_iff, Option.pure_def, Option.some.injEq,
          Prod.mk.injEq, Prod.exists] at h
        obtain ⟨a, rest₁, hfirst, more, rest₂, hmore, rfl, -⟩ := h
        exact List.forall_mem_cons.2 ⟨hitem _ _ _ hfirst, ih hmore⟩
      · split at h
        · cases h
          exact nofun
        · cases h
      · cases h

/-- What is read of every item is true of the items of a sequence. -/
theorem forall_of_readSequence {closing : Char} {cs rest : List Char} {as : List α}
    (h : readSequence item closing cs = some (as, rest)) : ∀ a ∈ as, P a := by
  rw [readSequence] at h
  split at h
  · cases h
  · split at h
    · cases h
      exact nofun
    · simp only [Option.bind_eq_bind, Option.bind_eq_some_iff, Option.pure_def, Option.some.injEq,
        Prod.mk.injEq, Prod.exists] at h
      obtain ⟨a, rest₁, hfirst, more, rest₂, hmore, rfl, -⟩ := h
      exact List.forall_mem_cons.2 ⟨hitem _ _ _ hfirst, forall_of_readMore hitem hmore⟩

end

/-- A number is no object. -/
theorem isOrdered_readUnsigned {negative : Bool} {cs rest : List Char} {j : Json}
    (h : readUnsigned negative cs = some (j, rest)) : j.IsOrdered := by
  simp only [readUnsigned, realOf, Option.bind_eq_bind, Option.bind_eq_some_iff, Option.pure_def,
    Prod.exists] at h
  obtain ⟨digits, rest₁, -, fraction, rest₂, -, exponent, rest₃, -, h⟩ := h
  split at h
  · cases h
    exact .plain nofun
  · split at h
    · cases h
      exact .plain nofun
    · obtain ⟨j', hreal, h⟩ := Option.bind_eq_some_iff.1 h
      obtain ⟨-, hreal⟩ := Option.ite_none_right_eq_some.1 hreal
      cases hreal
      cases h
      exact .plain nofun

theorem isOrdered_readNumber {cs rest : List Char} {j : Json} (h : readNumber cs = some (j, rest)) :
    j.IsOrdered := by
  unfold readNumber at h
  split at h <;> exact isOrdered_readUnsigned h

theorem isOrdered_readWord {word cs rest : List Char} {j j' : Json} (hj : j.IsOrdered)
    (h : readWord word j cs = some (j', rest)) : j'.IsOrdered := by
  obtain ⟨-, h⟩ := Option.ite_none_right_eq_some.1 h
  cases h
  exact hj

/-- What is read of every value is true of the value of a field. -/
theorem of_readField {value : Reader Json} {P : Json → Prop}
    (hvalue : ∀ cs j rest, value cs = some (j, rest) → P j) {cs rest : List Char}
    {field : String × Json} (h : readField value cs = some (field, rest)) : P field.2 := by
  unfold readField at h
  split at h
  · obtain ⟨⟨name, rest₁⟩, -, h⟩ := Option.bind_eq_some_iff.1 h
    dsimp only at h
    split at h
    · obtain ⟨⟨v, rest₂⟩, hv, h⟩ := Option.bind_eq_some_iff.1 h
      cases h
      exact hvalue _ _ _ hv
    · cases h
  · cases h

/-- JSON text is read as a value in order. -/
theorem isOrdered_readValue {depth : Nat} {cs rest : List Char} {j : Json}
    (h : readValue depth cs = some (j, rest)) : j.IsOrdered := by
  induction depth generalizing cs j rest with
  | zero => cases h
  | succ depth ih =>
      unfold readValue at h
      split at h
      · obtain ⟨⟨s, _⟩, -, h⟩ := Option.map_eq_some_iff.1 h
        cases h
        exact .plain nofun
      · obtain ⟨⟨items, _⟩, -, h⟩ := Option.map_eq_some_iff.1 h
        cases h
        exact .plain nofun
      · obtain ⟨⟨fields, _⟩, hfields, h⟩ := Option.map_eq_some_iff.1 h
        cases h
        have hvalues : ∀ field ∈ fields, field.2.IsOrdered := by
          refine forall_of_readSequence (fun cs field rest hfield => ?_) hfields
          exact of_readField (fun _ _ _ hv => ih hv) hfield
        exact .object (Fields.isOrdered_ofList fields) fun field hfield =>
          hvalues field (Fields.mem_of_mem_ofList hfield)
      · exact isOrdered_readWord (j := .null) (.plain nofun) h
      · exact isOrdered_readWord (j := .bool true) (.plain nofun) h
      · exact isOrdered_readWord (j := .bool false) (.plain nofun) h
      · exact isOrdered_readNumber h

theorem isOrdered_ofText? {text : String} {j : Json} (h : ofText? text = some j) : j.IsOrdered := by
  unfold ofText? at h
  split at h
  · next hread =>
    obtain ⟨-, h⟩ := Option.ite_none_right_eq_some.1 h
    cases h
    exact isOrdered_readValue hread
  · cases h

end Json

namespace Config

/-- The fields of a JSON object keep their names. -/
theorem Value.ofFields_eq (fields : List (String × Json)) :
    Value.ofFields fields = fields.map fun (name, j) => (name, Value.ofJson j) := by
  induction fields with
  | nil => rfl
  | cons field rest ih => rw [Value.ofFields, ih, List.map_cons]

/-- A JSON value in order is a value in order. -/
theorem Value.isOrdered_ofJson {j : Json} (h : j.IsOrdered) : (Value.ofJson j).IsOrdered := by
  induction h with
  | plain h =>
      rename_i j
      cases j with
      | object fields => exact absurd rfl (h fields)
      | _ => exact .plain nofun
  | object names values ih =>
      rw [Value.ofJson, Value.ofFields_eq]
      refine .table (List.pairwise_map.2 names) ?_
      exact List.forall_mem_map.2 ih

/-! ## YAML -/

/-- What is read of every node is true of the values of a mapping. -/
theorem Value.forall_of_ofEntries {depth : Nat} {P : Value → Prop}
    (hnode : ∀ n v, Value.ofNode depth n = some v → P v) {entries : List (Yaml.Node × Yaml.Node)}
    {fields : List (String × Value)} (h : Value.ofEntries depth entries = some fields) :
    ∀ field ∈ fields, P field.2 := by
  induction entries generalizing fields with
  | nil =>
      cases h
      exact nofun
  | cons entry rest ih =>
      obtain ⟨k, n⟩ := entry
      simp only [Value.ofEntries, Option.bind_eq_bind, Option.bind_eq_some_iff, Option.pure_def,
        Option.some.injEq] at h
      obtain ⟨key, -, v, hv, more, hmore, rfl⟩ := h
      exact List.forall_mem_cons.2 ⟨hnode n v hv, ih hmore⟩

theorem Value.isPlain_ofPlain (text : List Char) : (Value.ofPlain text).IsPlain := by
  unfold Value.ofPlain
  split <;> exact nofun

theorem Value.isPlain_of_ofScalar {tag : Option String} {plain : Bool} {text : List Char} {v : Value}
    (h : Value.ofScalar tag plain text = some v) : v.IsPlain := by
  unfold Value.ofScalar at h
  split at h
  · cases h
    split
    · exact isPlain_ofPlain text
    · exact nofun
  · split at h
    · obtain ⟨b, -, rfl⟩ := Option.map_eq_some_iff.1 h
      exact nofun
    split at h
    · obtain ⟨i, -, rfl⟩ := Option.map_eq_some_iff.1 h
      exact nofun
    split at h
    · obtain ⟨-, h⟩ := Option.ite_none_right_eq_some.1 h
      cases h
      exact nofun
    split at h
    · obtain ⟨-, h⟩ := Option.ite_none_right_eq_some.1 h
      cases h
      exact nofun
    · cases h
      exact nofun

/-- A YAML node is read as a value in order. -/
theorem Value.isOrdered_of_ofNode {depth : Nat} {n : Yaml.Node} {v : Value}
    (h : Value.ofNode depth n = some v) : v.IsOrdered := by
  induction depth generalizing n v with
  | zero =>
      unfold Value.ofNode at h
      split at h
      · obtain ⟨-, h⟩ := Option.ite_none_left_eq_some.1 h
        exact .plain (isPlain_of_ofScalar h)
      · cases h
      · cases h
  | succ depth ih =>
      unfold Value.ofNode at h
      split at h
      · obtain ⟨-, h⟩ := Option.ite_none_left_eq_some.1 h
        exact .plain (isPlain_of_ofScalar h)
      · obtain ⟨-, h⟩ := Option.ite_none_left_eq_some.1 h
        obtain ⟨items, -, rfl⟩ := Option.map_eq_some_iff.1 h
        exact .plain nofun
      · obtain ⟨-, h⟩ := Option.ite_none_left_eq_some.1 h
        obtain ⟨fields, hfields, rfl⟩ := Option.map_eq_some_iff.1 h
        exact isOrdered_ofList (forall_of_ofEntries (fun _ _ hv => ih hv) hfields)

/-- YAML text is read as a table in order. -/
theorem isOrdered_tableOfYaml {text : String} {t : Table} (h : tableOfYaml text = some t) :
    t.IsOrdered := by
  unfold tableOfYaml at h
  split at h
  · cases h
  · cases h
    exact Table.isOrdered_nil
  · obtain ⟨-, h⟩ := Option.ite_none_right_eq_some.1 h
    cases h
    exact Table.isOrdered_nil
  · cases h
  · obtain ⟨fields, hfields, rfl⟩ := Option.map_eq_some_iff.1 h
    exact Value.isOrdered_ofList
      (Value.forall_of_ofEntries (fun _ _ hv => Value.isOrdered_of_ofNode hv) hfields)

end Config

end PatchReview
