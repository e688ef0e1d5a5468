import PatchReview.Config.Environment
import PatchReview.Config.Extraction
import PatchReview.Proofs.OrderedTables

/-!
# The keys of settings

Each setting has a key: a path of names through the tables of a configuration.  Tables
whose values are of the right kind are merged key by key, so that after any number of
them a key has its last value, whatever is set beside it.

Main results:

- Definition `Key`: the keys, each with its path and the kind of its values.
- Definition `Table.Fits`: what a table sets is of the right kind.
- Theorem `Table.at?_mergeFields`: of two tables the later one that sets a key counts.
- Theorem `Table.at?_mergeAll`: of several tables the last one that sets a key counts.
-/

namespace PatchReview.Config

/-! ## Keys -/

/-- The keys of the settings for the host. -/
inductive HostKey where
  | apiUrl
  | token
  | defaultOwner
  | defaultRepo
  deriving DecidableEq, Repr

/-- The keys of the settings for posting. -/
inductive PostingKey where
  | batchSize
  | perPage
  | maxCommentPages
  deriving DecidableEq, Repr

/-- The keys of all settings. -/
inductive Key where
  | rulesDir
  | builtinRules
  | dryRun
  | host (key : HostKey)
  | posting (key : PostingKey)
  deriving DecidableEq, Repr

/-- The kinds of values that settings have. -/
inductive Kind where
  | text
  /-- A text that may be missing. -/
  | optionalText
  | truth
  /-- A natural number below a bound. -/
  | natBelow (bound : Nat)
  deriving DecidableEq, Repr

/-- Whether a value is of a kind. -/
def Kind.accepts : Kind → Value → Bool
  | .text, .text _ => true
  | .optionalText, .null => true
  | .optionalText, .text _ => true
  | .truth, .bool _ => true
  | .natBelow bound, .int i => 0 ≤ i ∧ i < bound
  | _, _ => false

theorem Kind.isPlain_of_accepts {kind : Kind} {v : Value} (h : kind.accepts v = true) :
    v.IsPlain := by
  rintro fields rfl
  cases kind <;> cases h

/-- The name of a key in its table. -/
def HostKey.name : HostKey → String
  | .apiUrl => "api_url"
  | .token => "token"
  | .defaultOwner => "default_owner"
  | .defaultRepo => "default_repo"

/-- The kind of the values of a key. -/
def HostKey.kind : HostKey → Kind
  | .apiUrl => .text
  | .token | .defaultOwner | .defaultRepo => .optionalText

/-- The name of a key in its table. -/
def PostingKey.name : PostingKey → String
  | .batchSize => "batch_size"
  | .perPage => "per_page"
  | .maxCommentPages => "max_comment_pages"

/-- The kind of the values of a key. -/
def PostingKey.kind : PostingKey → Kind
  | .batchSize => .natBelow Text.bound64
  | .perPage | .maxCommentPages => .natBelow Text.bound32

/-- The first name on the path of a key. -/
def Key.head : Key → String
  | .rulesDir => "rules_dir"
  | .builtinRules => "builtin_rules"
  | .dryRun => "dry_run"
  | .host _ => "github"
  | .posting _ => "posting"

/-- The names on the path of a key after the first one. -/
def Key.rest : Key → List String
  | .host key => [key.name]
  | .posting key => [key.name]
  | _ => []

/-- The path of a key. -/
def Key.path (key : Key) : List String :=
  key.head :: key.rest

/-- The kind of the values of a key. -/
def Key.kind : Key → Kind
  | .rulesDir => .text
  | .builtinRules | .dryRun => .truth
  | .host key => key.kind
  | .posting key => key.kind

/-- All keys. -/
def Key.all : List Key :=
  [.rulesDir, .builtinRules, .dryRun, .host .apiUrl, .host .token, .host .defaultOwner,
    .host .defaultRepo, .posting .batchSize, .posting .perPage, .posting .maxCommentPages]

theorem Key.mem_all (key : Key) : key ∈ Key.all := by
  cases key with
  | host key => cases key <;> decide
  | posting key => cases key <;> decide
  | _ => decide

/-- A key stands on its own or inside of one group. -/
theorem Key.rest_eq (key : Key) : key.rest = [] ∨ ∃ name, key.rest = [name] := by
  cases key with
  | host key => exact Or.inr ⟨key.name, rfl⟩
  | posting key => exact Or.inr ⟨key.name, rfl⟩
  | _ => exact Or.inl rfl

/-! ## What a table sets -/

/-- The value at the end of a path. -/
def Value.at? (v : Value) : List String → Option Value
  | [] => some v
  | name :: rest => (v.field? name).bind (·.at? rest)

/-- The value that a table sets under a key. -/
def Table.at? (t : Table) (key : Key) : Option Value :=
  (Value.table t).at? key.path

/-- The group of settings that a table sets under a name. -/
def Table.group (t : Table) (name : String) : Table :=
  match Fields.get? t name with
  | some (.table fields) => fields
  | _ => []

/-- What a table sets is of the right kind: the value of each key, and a table where there
are keys inside. -/
structure Table.Fits (t : Table) : Prop where
  /-- The value of a key is of its kind. -/
  value {key : Key} {v : Value} (h : t.at? key = some v) : key.kind.accepts v = true
  /-- What other keys are inside of is a table. -/
  group {key : Key} {v : Value} (hkey : key.rest ≠ []) (h : Fields.get? t key.head = some v) :
    ∃ fields, v = .table fields

/-- Whether a value is a table. -/
def Value.isTable : Value → Bool
  | .table _ => true
  | _ => false

theorem Value.isTable_iff {v : Value} : v.isTable = true ↔ ∃ fields, v = .table fields := by
  cases v <;> simp [isTable]

namespace Table

theorem fits_iff_all {t : Table} :
    t.Fits ↔ ∀ key ∈ Key.all, (t.at? key).all key.kind.accepts = true ∧
      (key.rest ≠ [] → (Fields.get? t key.head).all Value.isTable = true) := by
  simp only [Option.all_eq_true, Value.isTable_iff]
  constructor
  · intro h key _
    exact ⟨fun _ => h.value, fun hkey _ => h.group hkey⟩
  · intro h
    exact ⟨fun {key v} => (h key key.mem_all).1 v, fun {key v} hkey => (h key key.mem_all).2 hkey v⟩

instance (t : Table) : Decidable t.Fits :=
  decidable_of_iff _ fits_iff_all.symm

theorem at?_of_rest_eq_nil {key : Key} (hkey : key.rest = []) (t : Table) :
    t.at? key = Fields.get? t key.head := by
  simp [at?, Key.path, hkey, Value.at?, Value.field?]

/-- The value of a key inside a group is what the table of the group sets. -/
theorem at?_of_rest_eq_singleton {key : Key} {name : String} (hkey : key.rest = [name])
    (t : Table) : t.at? key = Fields.get? (t.group key.head) name := by
  simp only [at?, Key.path, hkey, Value.at?, Value.field?, group]
  cases Fields.get? t key.head with
  | none => rfl
  | some v => cases v <;> simp [Fields.get?]

theorem fits_nil : Table.Fits [] where
  value h := by simp [at?, Key.path, Value.at?, Value.field?, Fields.get?] at h
  group _ h := by simp [Fields.get?] at h

theorem IsOrdered.nodup {t : Table} (ht : t.IsOrdered) : (t.map (·.1)).Nodup :=
  (Value.isOrdered_table_iff.1 ht).1.nodup

theorem IsOrdered.of_get? {t : Table} (ht : t.IsOrdered) {name : String}
    {fields : List (String × Value)} (hget : Fields.get? t name = some (.table fields)) :
    Table.IsOrdered fields :=
  (Value.isOrdered_table_iff.1 ht).2 _ (Fields.mem_of_get? hget)

/-! ## Merging -/

section

variable {old new : Table} (hordered : new.IsOrdered)
include hordered

/-- What a group of merged tables holds is merged from their groups. -/
theorem get?_group_mergeFields (hold : old.Fits) (hnew : new.Fits) {key : Key}
    (hkey : key.rest ≠ []) (name : String) :
    Fields.get? (Table.group (Value.mergeFields old new) key.head) name =
      Value.mergedField (Fields.get? (old.group key.head) name)
        (Fields.get? (new.group key.head) name) := by
  have hmerged := Value.get?_mergeFields old new hordered.nodup key.head
  -- a group that only one of the tables has is taken over as it is
  cases hn : Fields.get? new key.head with
  | none =>
      have hnone : new.group key.head = [] := by simp [group, hn]
      have hsame : Table.group (Value.mergeFields old new) key.head = old.group key.head := by
        simp only [group, hmerged, hn, Value.mergedField]
      rw [hsame, hnone]
      rfl
  | some v =>
      obtain ⟨later, rfl⟩ := hnew.group hkey hn
      have hlater : new.group key.head = later := by simp [group, hn]
      cases ho : Fields.get? old key.head with
      | none =>
          have hnone : old.group key.head = [] := by simp [group, ho]
          have hsame : Table.group (Value.mergeFields old new) key.head = later := by
            simp only [group, hmerged, hn, ho, Value.mergedField]
          rw [hsame, hnone, hlater]
          cases Fields.get? later name <;> rfl
      | some v =>
          obtain ⟨earlier, rfl⟩ := hold.group hkey ho
          have hearlier : old.group key.head = earlier := by simp [group, ho]
          have hsame : Table.group (Value.mergeFields old new) key.head =
              Value.mergeFields earlier later := by
            simp only [group, hmerged, hn, ho, Value.mergedField, Value.merge]
          rw [hsame, hearlier, hlater]
          exact Value.get?_mergeFields earlier later (hordered.of_get? hn).nodup name

/-- Of two tables the later one that sets a key counts. -/
theorem at?_mergeFields (hold : old.Fits) (hnew : new.Fits) (key : Key) :
    Table.at? (Value.mergeFields old new) key = (new.at? key).or (old.at? key) := by
  have hplain {v : Value} (h : new.at? key = some v) (earlier : Value) :
      Value.merge earlier v = v :=
    Value.merge_of_isPlain (Kind.isPlain_of_accepts (hnew.value h)) earlier
  have hmerged : Table.at? (Value.mergeFields old new) key =
      Value.mergedField (old.at? key) (new.at? key) := by
    rcases key.rest_eq with hkey | ⟨name, hkey⟩
    · simp only [at?_of_rest_eq_nil hkey]
      exact Value.get?_mergeFields old new hordered.nodup key.head
    · simp only [at?_of_rest_eq_singleton hkey]
      exact get?_group_mergeFields hordered hold hnew (by simp [hkey]) name
  -- the later value is no table, so nothing of the earlier one is left in it
  rw [hmerged]
  cases hn : new.at? key with
  | none => rfl
  | some v => cases old.at? key <;> simp [Value.mergedField, hplain hn]

/-- Merging tables that fit gives a table that fits. -/
theorem Fits.mergeFields (hold : old.Fits) (hnew : new.Fits) :
    Table.Fits (Value.mergeFields old new) where
  value {key v} h := by
    rw [at?_mergeFields hordered hold hnew, Option.or_eq_some_iff] at h
    rcases h with h | ⟨-, h⟩
    · exact hnew.value h
    · exact hold.value h
  group {key v} hkey h := by
    rw [Value.get?_mergeFields old new hordered.nodup] at h
    cases hn : Fields.get? new key.head with
    | none =>
        simp only [hn, Value.mergedField] at h
        exact hold.group hkey h
    | some later =>
        obtain ⟨later, rfl⟩ := hnew.group hkey hn
        cases ho : Fields.get? old key.head with
        | none => exact ⟨later, by simpa [hn, ho, Value.mergedField] using h.symm⟩
        | some earlier =>
            obtain ⟨earlier, rfl⟩ := hold.group hkey ho
            exact ⟨_, by simpa [hn, ho, Value.mergedField, Value.merge] using h.symm⟩

end

/-! ## Single values -/

/-- The table with one value at the path of a key sets this key, and no other. -/
theorem at?_nest_path (key other : Key) (v : Value) :
    Table.at? (Environment.nest key.path v) other = if other = key then some v else none := by
  cases key with
  | host key =>
      cases other with
      | host other => cases key <;> cases other <;> rfl
      | _ => rfl
  | posting key =>
      cases other with
      | posting other => cases key <;> cases other <;> rfl
      | _ => rfl
  | _ => cases other <;> rfl

/-! ## The last of several tables -/

/-- The last value of a key in some tables. -/
def lastAt (tables : List Table) (key : Key) : Option Value :=
  (tables.filterMap (·.at? key)).getLast?

theorem lastAt_nil (key : Key) : lastAt [] key = none :=
  rfl

theorem lastAt_append (earlier later : List Table) (key : Key) :
    lastAt (earlier ++ later) key = (lastAt later key).or (lastAt earlier key) := by
  simp [lastAt, List.getLast?_append]

theorem lastAt_singleton (t : Table) (key : Key) : lastAt [t] key = t.at? key := by
  cases h : t.at? key <;> simp [lastAt, h]

theorem lastAt_cons (first : Table) (rest : List Table) (key : Key) :
    lastAt (first :: rest) key = (lastAt rest key).or (first.at? key) := by
  rw [← List.singleton_append, lastAt_append, lastAt_singleton]

/-- Tables that fit are merged to one that fits, and of several tables the last one that sets
a key counts. -/
theorem at?_mergeAll {tables : List Table} (hordered : ∀ t ∈ tables, t.IsOrdered)
    (hfits : ∀ t ∈ tables, t.Fits) :
    (Table.mergeAll tables).Fits ∧ ∀ key, (Table.mergeAll tables).at? key = lastAt tables key := by
  induction tables using List.reverseRecOn with
  | nil => exact ⟨fits_nil, fun _ => rfl⟩
  | append_singleton tables t ih =>
      obtain ⟨htables, ht⟩ := List.forall_mem_append.1 hordered
      obtain ⟨hfits, hfit⟩ := List.forall_mem_append.1 hfits
      rw [List.forall_mem_singleton] at ht hfit
      obtain ⟨hmerged, hlast⟩ := ih htables hfits
      rw [mergeAll_concat]
      refine ⟨hmerged.mergeFields ht hfit, fun key => ?_⟩
      rw [at?_mergeFields ht hmerged hfit, hlast, lastAt_append, lastAt_singleton]

end Table

end PatchReview.Config
