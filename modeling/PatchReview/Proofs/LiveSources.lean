import PatchReview.Config.Load
import PatchReview.Results

/-!
# Where a live run comes from

Settings are merged from many tables, and nothing is posted unless one of these tables
says so: a merged table holds a value other than a table only where one of the sources
has it, and the setting for a dry run starts out true.

Main results:

- Theorem `Table.mem_of_mem_mergeAll`: each plain value of a merged table is from a source.
- Theorem `Settings.dryRun_of_ofTable`: settings are dry unless the table says otherwise.
- Theorem `Sources.dryRun_of_load`: loaded settings are dry unless a source says otherwise.
-/

namespace PatchReview

namespace Config

/-! ## Merging -/

namespace Value

/-- A value that is no table comes out of a merge only if the later value is that value. -/
theorem eq_of_merge_eq {old new v : Value} (hv : ∀ fields, v ≠ .table fields)
    (h : merge old new = v) : new = v := by
  cases new with
  | table fields =>
      unfold merge at h
      split at h <;> exact absurd h.symm (hv _)
  | _ => exact h

/-- A value that is no table is in a merged table only if one of the two tables has it. -/
theorem mem_of_mem_mergeFields {old new : List (String × Value)} {key : String} {v : Value}
    (hv : ∀ fields, v ≠ .table fields) (h : (key, v) ∈ mergeFields old new) :
    (key, v) ∈ old ∨ (key, v) ∈ new := by
  induction new generalizing old with
  | nil => exact Or.inl h
  | cons entry rest ih =>
      obtain ⟨name, value⟩ := entry
      rw [mergeFields] at h
      rcases ih h with h | h
      -- the value is the one just set, which is from one of the two tables, or it was there
      · rcases Fields.mem_of_mem_set h with hset | h
        · obtain ⟨rfl, hmerged⟩ := Prod.mk.inj hset
          right
          split at hmerged
          · rw [eq_of_merge_eq hv hmerged.symm]
            exact List.mem_cons_self
          · rw [hmerged]
            exact List.mem_cons_self
        · exact Or.inl h
      · exact Or.inr (List.mem_cons_of_mem _ h)

end Value

/-- A value that is no table is in the table merged from several sources only if one of
the sources has it. -/
theorem Table.mem_of_mem_mergeAll {tables : List Table} {key : String} {v : Value}
    (hv : ∀ fields, v ≠ .table fields) (h : (key, v) ∈ Table.mergeAll tables) :
    ∃ t ∈ tables, (key, v) ∈ t := by
  suffices hfold : ∀ t₀ : Table, (key, v) ∈ tables.foldl Value.mergeFields t₀ →
      (key, v) ∈ t₀ ∨ ∃ t ∈ tables, (key, v) ∈ t from (hfold [] h).resolve_left List.not_mem_nil
  clear h
  induction tables with
  | nil => exact fun _ h => Or.inl h
  | cons first rest ih =>
      intro t₀ h
      rcases ih _ h with h | ⟨t, ht, hmem⟩
      · rcases Value.mem_of_mem_mergeFields hv h with h | h
        · exact Or.inl h
        · exact Or.inr ⟨first, List.mem_cons_self, h⟩
      · exact Or.inr ⟨t, List.mem_cons_of_mem _ ht, hmem⟩

/-! ## Sources that ask for a live run -/

/-- A table asks for a live run: it sets `dry_run` to false. -/
def Table.AsksToPost (t : Table) : Prop :=
  ("dry_run", Value.bool false) ∈ t

/-- Whether a value is the truth value false. -/
def Value.isFalse : Value → Bool
  | .bool false => true
  | _ => false

theorem Value.isFalse_iff {v : Value} : v.isFalse = true ↔ v = .bool false := by
  constructor
  · intro h
    unfold isFalse at h
    split at h
    · rfl
    · cases h
  · rintro rfl
    rfl

theorem Table.asksToPost_iff_any {t : Table} :
    t.AsksToPost ↔ (t.any fun field => field.1 == "dry_run" && field.2.isFalse) = true := by
  rw [List.any_eq_true]
  constructor
  · exact fun h => ⟨_, h, rfl⟩
  · rintro ⟨⟨key, v⟩, hmem, h⟩
    rw [Bool.and_eq_true, beq_iff_eq, Value.isFalse_iff] at h
    obtain ⟨rfl, rfl⟩ := h
    exact hmem

instance (t : Table) : Decidable t.AsksToPost :=
  decidable_of_iff _ Table.asksToPost_iff_any.symm

/-- The variables of an environment ask for a live run: one of them sets `dry_run` to
false. -/
def Environment.AsksToPost (env : Environment) : Prop :=
  ∃ t ∈ env.settingTables, Table.AsksToPost t

instance (env : Environment) : Decidable env.AsksToPost :=
  inferInstanceAs (Decidable (∃ t ∈ env.settingTables, Table.AsksToPost t))

/-- A file or the environment asks for a live run. -/
def Sources.AsksToPost (s : Sources) : Prop :=
  (∃ file ∈ (discover s.root s.globalDir s.projectDir).value, ∃ t ∈ file.table? s.root,
    Table.AsksToPost t) ∨ s.environment.AsksToPost

instance (s : Sources) : Decidable s.AsksToPost :=
  inferInstanceAs (Decidable (_ ∨ _))

/-- Merged tables ask for a live run only if one of them does. -/
theorem Table.asksToPost_of_mergeAll {tables : List Table}
    (h : (Table.mergeAll tables).AsksToPost) : ∃ t ∈ tables, t.AsksToPost :=
  Table.mem_of_mem_mergeAll nofun h

/-- A variable asks for a live run only if its name leads to `dry_run` and its text is
false. -/
theorem Environment.asksToPost_nest {keys : List String} {v : Value} :
    (nest keys v).AsksToPost ↔ keys = ["dry_run"] ∧ v = .bool false := by
  unfold Table.AsksToPost
  match keys with
  | [] => simp [nest]
  | [key] => simp [nest, eq_comm]
  | key :: next :: rest => simp [nest]

/-- What the environment sets asks for a live run only if a variable other than the token
does. -/
theorem Environment.asksToPost_of_mem_tables {env : Environment} {t : Table}
    (ht : t ∈ env.tables) (h : t.AsksToPost) : env.AsksToPost := by
  rw [tables, List.mem_cons, List.mem_singleton] at ht
  rcases ht with rfl | rfl
  · exact Table.asksToPost_of_mergeAll h
  · obtain ⟨token, htoken, hasks⟩ := Table.asksToPost_of_mergeAll h
    obtain ⟨⟨name, text⟩, -, hvariable⟩ := List.mem_filterMap.1 htoken
    obtain ⟨-, hvariable⟩ := Option.ite_none_right_eq_some.1 hvariable
    cases hvariable
    exact absurd (asksToPost_nest.1 hasks).1 (by decide)

/-- The command line asks for a live run only by overriding the setting. -/
theorem Overrides.dryRun_of_asksToPost_table {o : Overrides} (h : o.table.AsksToPost) :
    o.dryRun = some false := by
  have hmem := Fields.mem_of_mem_ofList h
  simpa using hmem

/-! ## The setting -/

namespace Settings

/-- A field of a table keeps dry settings dry, unless it asks for a live run. -/
theorem dryRun_of_putField {s s' : Settings} {field : String × Value}
    (h : putField settingsSlots s field = .ok s') (hdry : s.dryRun = true)
    (hfield : field ≠ ("dry_run", .bool false)) : s'.dryRun = true := by
  obtain ⟨name, v⟩ := field
  unfold putField at h
  split at h
  · next put hput =>
    have hslot := Fields.mem_of_get? hput
    have hvalue := eq_ok_of_mapError_eq_ok h
    simp only [settingsSlots, List.mem_cons, Prod.mk.injEq, List.not_mem_nil, or_false] at hslot
    rcases hslot with ⟨-, rfl⟩ | ⟨-, rfl⟩ | ⟨rfl, rfl⟩ | ⟨-, rfl⟩ | ⟨-, rfl⟩ <;>
      obtain ⟨_, hread, hset⟩ := exists_of_bind_eq_ok hvalue <;> cases hset
    · exact hdry
    · exact hdry
    · cases v <;> cases hread
      rw [Ne, Prod.mk.injEq, Value.bool.injEq, not_and, Bool.not_eq_false] at hfield
      exact hfield rfl
    · exact hdry
    · exact hdry
  · cases h
    exact hdry

/-- Dry settings stay dry under the fields of a table that does not ask for a live run. -/
theorem dryRun_of_putFields {s s' : Settings} {t : Table}
    (h : putFields settingsSlots s t = .ok s') (hdry : s.dryRun = true) (ht : ¬ t.AsksToPost) :
    s'.dryRun = true := by
  induction t generalizing s with
  | nil =>
      cases h
      exact hdry
  | cons field rest ih =>
      rw [Table.AsksToPost, List.mem_cons, not_or] at ht
      rw [putFields] at h
      split at h
      · cases h
      · next settings hput =>
        exact ih h (dryRun_of_putField hput hdry (Ne.symm ht.1)) ht.2

/-- The settings of a table that does not ask for a live run are dry. -/
theorem dryRun_of_ofTable {t : Table} {s : Settings} (h : ofTable t = .ok s)
    (ht : ¬ t.AsksToPost) : s.dryRun = true := by
  unfold ofTable at h
  split at h
  · cases h
  · next settings hvalue =>
    split at h
    · cases h
    · cases h
      exact dryRun_of_putFields hvalue rfl ht

end Settings

/-- Every table of configuration files is the table of one of them. -/
theorem exists_of_mem_fileTables {root : Files.Node} {files : List ConfigFile}
    {tables : List Table} {t : Table} (h : fileTables root files = .ok tables) (ht : t ∈ tables) :
    ∃ file ∈ files, file.table? root = some t := by
  unfold fileTables at h
  split at h
  · next read hread =>
    cases h
    exact exists_of_mem_mapM hread ht
  · cases h

/-- Loaded settings are dry if neither a file nor the environment nor the command line
asks for a live run. -/
theorem Sources.dryRun_of_load {sources : Sources} {s : Settings}
    (h : sources.load.value = .ok s) (hsources : ¬ sources.AsksToPost)
    (hoverrides : sources.overrides.dryRun ≠ some false) : s.dryRun = true := by
  rw [load, Logged.value_bind] at h
  split at h
  · cases h
  · next tables htables =>
    refine Settings.dryRun_of_ofTable h ?_
    intro hasks
    obtain ⟨t, ht, hasks⟩ := Table.asksToPost_of_mergeAll hasks
    rw [Sources.tables, List.mem_append, List.mem_append, List.mem_singleton] at ht
    rcases ht with (ht | ht) | rfl
    · obtain ⟨file, hfile, htable⟩ := exists_of_mem_fileTables htables ht
      exact hsources (Or.inl ⟨file, hfile, t, htable, hasks⟩)
    · exact hsources (Or.inr (Environment.asksToPost_of_mem_tables ht hasks))
    · exact hoverrides (Overrides.dryRun_of_asksToPost_table hasks)

end Config

end PatchReview
