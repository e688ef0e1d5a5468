import PatchReview.Proofs.OrderedToml

/-!
# Every source is a table in order

Files in each format, the environment and the command line are read as tables whose keys
stand in order, each once.

Main results:

- Theorem `isOrdered_of_readTable`: the tables of files.
- Theorems `Environment.isOrdered_of_mem_settingTables`,
  `Environment.isOrdered_of_mem_tokenTables`: the tables of variables.
- Theorem `Overrides.isOrdered_table`: the table of the command line.
-/

namespace PatchReview.Config

/-! ## Literals -/

namespace Literal

open Text (Reader)

theorem isPlain_ofBare (s : List Char) : (ofBare s).IsPlain := by
  unfold ofBare
  extract_lets digits
  split
  · exact nofun
  · split
    · exact nofun
    · split <;> exact nofun

/-- What is read of every item is true of the items in brackets. -/
theorem forall_of_readItems {α : Type} {item : Reader α} {P : α → Prop}
    (hitem : ∀ cs a rest, item cs = some (a, rest) → P a) {closing : Char} {fuel : Nat}
    {cs rest : List Char} {as : List α} (h : readItems item closing fuel cs = some (as, rest)) :
    ∀ a ∈ as, P a := by
  induction fuel generalizing cs as rest with
  | zero => cases h
  | succ fuel ih =>
      unfold readItems at h
      split at h
      · cases h
        exact nofun
      · split at h
        · cases h
        · next hfirst =>
          obtain ⟨⟨more, rest'⟩, hmore, h⟩ := Option.map_eq_some_iff.1 h
          cases h
          exact List.forall_mem_cons.2 ⟨hitem _ _ _ hfirst, ih hmore⟩
        · next hfirst =>
          obtain ⟨-, h⟩ := Option.ite_none_right_eq_some.1 h
          cases h
          exact List.forall_mem_singleton.2 (hitem _ _ _ hfirst)

section

variable {value : Reader Value} (hvalue : ∀ cs v rest, value cs = some (v, rest) → v.IsOrdered)
include hvalue

theorem isOrdered_of_readEntry {cs rest : List Char} {entry : String × Value}
    (h : readEntry value cs = some (entry, rest)) : entry.2.IsOrdered := by
  unfold readEntry at h
  split at h
  · cases h
  · split at h
    · obtain ⟨⟨v, rest'⟩, hv, h⟩ := Option.map_eq_some_iff.1 h
      cases h
      exact hvalue _ _ _ hv
    · cases h

theorem isOrdered_of_readCore {cs rest : List Char} {v : Value}
    (h : readCore value cs = some (v, rest)) : v.IsOrdered := by
  unfold readCore at h
  split at h
  · cases h
    exact .plain nofun
  · cases h
    exact .plain nofun
  · obtain ⟨⟨entries, rest'⟩, hentries, h⟩ := Option.map_eq_some_iff.1 h
    cases h
    refine Value.isOrdered_ofList (forall_of_readItems (fun cs entry rest hentry => ?_) hentries)
    exact isOrdered_of_readEntry hvalue hentry
  · obtain ⟨⟨items, rest'⟩, -, h⟩ := Option.map_eq_some_iff.1 h
    cases h
    exact .plain nofun
  · obtain ⟨⟨s, rest'⟩, -, h⟩ := Option.map_eq_some_iff.1 h
    cases h
    exact .plain nofun
  · cases h
    exact .plain nofun
  · cases h
  · cases h
    exact .plain (isPlain_ofBare _)

end

theorem isOrdered_of_readValue {depth : Nat} {cs rest : List Char} {v : Value}
    (h : readValue depth cs = some (v, rest)) : v.IsOrdered := by
  induction depth generalizing cs v rest with
  | zero => cases h
  | succ depth ih =>
      obtain ⟨⟨v', rest'⟩, hcore, h⟩ := Option.map_eq_some_iff.1 h
      cases h
      exact isOrdered_of_readCore (fun _ _ _ hv => ih hv) hcore

end Literal

/-- A literal stands for a value in order. -/
theorem Value.isOrdered_ofLiteral (text : String) : (Value.ofLiteral text).IsOrdered := by
  unfold Value.ofLiteral
  dsimp only
  split
  · next hread => exact Literal.isOrdered_of_readValue hread
  · exact .plain nofun

/-! ## The environment -/

namespace Environment

theorem isOrdered_nest (keys : List String) {v : Value} (hv : v.IsOrdered) :
    (nest keys v).IsOrdered := by
  induction keys with
  | nil => exact Table.isOrdered_nil
  | cons key rest ih =>
      cases rest with
      | nil => exact .table (Fields.isOrdered_singleton _) (List.forall_mem_singleton.2 hv)
      | cons next rest =>
          exact .table (Fields.isOrdered_singleton _) (List.forall_mem_singleton.2 ih)

theorem isOrdered_of_mem_settingTables {env : Environment} {t : Table}
    (h : t ∈ env.settingTables) : t.IsOrdered := by
  obtain ⟨⟨name, text⟩, -, ht⟩ := List.mem_filterMap.1 h
  obtain ⟨keys, -, rfl⟩ := Option.map_eq_some_iff.1 ht
  exact isOrdered_nest keys (Value.isOrdered_ofLiteral text)

theorem isOrdered_of_mem_tokenTables {env : Environment} {t : Table}
    (h : t ∈ env.tokenTables) : t.IsOrdered := by
  obtain ⟨⟨name, text⟩, -, ht⟩ := List.mem_filterMap.1 h
  obtain ⟨-, ht⟩ := Option.ite_none_right_eq_some.1 ht
  cases ht
  exact isOrdered_nest _ (Value.isOrdered_ofLiteral text)

end Environment

/-! ## The command line and files -/

theorem Overrides.isOrdered_table (o : Overrides) : o.table.IsOrdered := by
  refine Value.isOrdered_ofList fun entry hentry => ?_
  simp only [List.mem_append, Option.mem_toList, Option.map_eq_some_iff] at hentry
  rcases hentry with (⟨dir, -, rfl⟩ | ⟨b, -, rfl⟩) | ⟨b, -, rfl⟩ <;> exact .plain nofun

/-- A file in any format is read as a table in order. -/
theorem isOrdered_of_readTable {format : Format} {text : String} {t : Table}
    (h : format.readTable text = some t) : t.IsOrdered := by
  cases format with
  | toml => exact Toml.isOrdered_ofText? h
  | yaml => exact isOrdered_tableOfYaml h
  | json =>
      unfold Format.readTable at h
      dsimp only at h
      split at h
      · next hread =>
        cases h
        have hvalue := Value.isOrdered_ofJson (Json.isOrdered_ofText? hread)
        rwa [Value.ofJson] at hvalue
      · cases h

/-- So is a configuration file. -/
theorem isOrdered_of_table? {root : Files.Node} {file : ConfigFile} {t : Table}
    (h : file.table? root = some t) : t.IsOrdered := by
  unfold ConfigFile.table? at h
  split at h
  · exact isOrdered_of_readTable h
  · cases h

end PatchReview.Config
