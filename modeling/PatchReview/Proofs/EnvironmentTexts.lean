import PatchReview.Proofs.LiteralTexts
import PatchReview.Proofs.LoadedSettings

/-!
# Texts in the environment

Three variables set a text for the host: the default owner, the default repository and the
token.  The text of a variable is read as a literal first, so a name arrives there exactly if
it is not spelled as a truth value or a number.

Main definitions:

- `TextVariable`: the variables, each with its name and its key.
- `Sources.SetsOnly`: nothing but one variable sets anything.

Main results:

- Theorem `Sources.mergeAll_tables`: the table that is left of the sources then.
- Theorem `TextVariable.ofTable_text`: what becomes of a text in it.
- Theorem `TextVariable.ofTable_typed`: what becomes of a truth value or a number.
- Theorem `Sources.load_name_iff`: which names are loaded, and how the others fail.
-/

namespace PatchReview.Config

/-! ## Variables -/

/-- The variables that set a text for the host. -/
inductive TextVariable where
  | owner
  | repo
  | token
  deriving DecidableEq, Repr

namespace TextVariable

/-- The name of a variable. -/
def name : TextVariable → String
  | .owner => "DIFFWARDEN_GITHUB__DEFAULT_OWNER"
  | .repo => "DIFFWARDEN_GITHUB__DEFAULT_REPO"
  | .token => "GITHUB_TOKEN"

/-- The key that a variable sets. -/
def key : TextVariable → HostKey
  | .owner => .defaultOwner
  | .repo => .defaultRepo
  | .token => .token

/-- The default settings with a text under the key of a variable. -/
def settings (x : TextVariable) (v : String) : Settings where
  host := match x with
    | .owner => { defaultOwner := some v }
    | .repo => { defaultRepo := some v }
    | .token => { token := some v }

/-- The table with one value, under the key of a variable. -/
def table (x : TextVariable) (v : Value) : Table :=
  [("github", .table [(x.key.name, v)])]

/-- A text for the host does not keep settings from being used. -/
theorem check_settings (x : TextVariable) (v : String) : (x.settings v).check = .ok () := by
  have haddress : (x.settings v).host.apiUrl = ({} : HostSettings).apiUrl := by
    cases x <;> rfl
  have hposting : (x.settings v).posting = {} := rfl
  rw [Settings.check_eq_ok_iff, haddress, hposting]
  decide

/-- A text under the key of a variable gives the settings with it. -/
theorem ofTable_text (x : TextVariable) (v : String) :
    Settings.ofTable (x.table (.text v)) = .ok (x.settings v) := by
  have hvalue : Settings.ofValue (.table (x.table (.text v))) = .ok (x.settings v) := by
    cases x <;> rfl
  rw [Settings.ofTable, hvalue]
  simp only [check_settings]

/-- A truth value or a number there is an error at this key. -/
theorem ofTable_typed (x : TextVariable) {w : Value} (hw : Literal.IsTyped w) :
    Settings.ofTable (x.table w) = .error (.parse .wrongType ["github", x.key.name]) := by
  cases hw <;> cases x <;> rfl

end TextVariable

/-! ## Sources with one variable -/

namespace Environment

/-- A variable with this name sets nothing. -/
def IsSilent (name : String) : Prop :=
  settingKeys? name = none ∧ sameLetters (Text.trim name.toList) tokenName = false

instance (name : String) : Decidable (IsSilent name) :=
  inferInstanceAs (Decidable (_ ∧ _))

/-- Between silent variables, one of the variables for a text gives its own table. -/
theorem tables_append_cons {before after : Environment}
    (hsilent : ∀ y ∈ before ++ after, IsSilent y.1) (x : TextVariable) (v : String) :
    Table.mergeAll (tables (before ++ (x.name, v) :: after)) =
      x.table (Value.ofLiteral v) := by
  have hsetting : ∀ {env : Environment}, (∀ y ∈ env, IsSilent y.1) → settingTables env = [] := by
    intro env henv
    rw [settingTables, List.filterMap_eq_nil_iff]
    intro y hy
    simp [(henv y hy).1]
  have htoken : ∀ {env : Environment}, (∀ y ∈ env, IsSilent y.1) → tokenTables env = [] := by
    intro env henv
    rw [tokenTables, List.filterMap_eq_nil_iff]
    intro y hy
    simp [(henv y hy).2]
  rw [List.forall_mem_append] at hsilent
  have hsettings : settingTables (before ++ (x.name, v) :: after) =
      settingTables [(x.name, v)] := by
    rw [settingTables, List.filterMap_append, List.filterMap_cons, ← settingTables,
      ← settingTables, hsetting hsilent.1, hsetting hsilent.2]
    rfl
  have htokens : tokenTables (before ++ (x.name, v) :: after) = tokenTables [(x.name, v)] := by
    rw [tokenTables, List.filterMap_append, List.filterMap_cons, ← tokenTables,
      ← tokenTables, htoken hsilent.1, htoken hsilent.2]
    rfl
  rw [tables, hsettings, htokens]
  cases x <;> rfl

end Environment

namespace Sources

/-- Nothing but one variable sets anything: there are no configuration files, the other
variables are silent, and the command line overrides nothing. -/
structure SetsOnly (s : Sources) (x : TextVariable) (v : String) : Prop where
  files : ∀ scope name, s.file? scope name = none
  environment : ∃ before after, s.environment = before ++ (x.name, v) :: after ∧
    ∀ y ∈ before ++ after, Environment.IsSilent y.1
  overrides : s.overrides = {}

variable {s : Sources} {x : TextVariable} {v : String}

/-- The table that is left of the sources has one value. -/
theorem mergeAll_tables (h : s.SetsOnly x v) :
    Table.mergeAll (s.tables []) = x.table (Value.ofLiteral v) := by
  rcases h.environment with ⟨before, after, henvironment, hsilent⟩
  have hoverrides : s.overrides.table = [] := by
    rw [h.overrides]
    rfl
  rw [tables, List.nil_append, hoverrides, Table.mergeAll, List.foldl_append, ← Table.mergeAll,
    henvironment, Environment.tables_append_cons hsilent]
  rfl

/-- What is loaded is what this table gives. -/
theorem load_of_setsOnly (h : s.SetsOnly x v) :
    s.load.value = Settings.ofTable (x.table (Value.ofLiteral v)) := by
  have hfiles : Layer.files.flatMap s.given = [] := by
    simp [Layer.files, given, h.files]
  have hread : s.IsReadable := by
    intro scope name file hfile
    rw [h.files] at hfile
    cases hfile
  rw [load, Logged.value_bind, s.fileTables_discover hread, hfiles, ← mergeAll_tables h]
  rfl

/-- A name in the environment is loaded as it is exactly if it is not spelled as a truth value
or a number; else loading fails with a value of a wrong type at the key of the variable. -/
theorem load_name_iff (hv : Literal.IsName v) (h : s.SetsOnly x v) :
    (s.load.value = .ok (x.settings v) ↔ ¬ Literal.SpellsTyped v) ∧
      (s.load.value = .error (.parse .wrongType ["github", x.key.name]) ↔
        Literal.SpellsTyped v) := by
  rw [load_of_setsOnly h]
  rcases Literal.ofLiteral_name hv with ⟨hspelled, htyped⟩ | ⟨hspelled, htext⟩
  · simp [x.ofTable_typed htyped, hspelled]
  · simp [htext, x.ofTable_text, hspelled]

/-- Sources with an environment only. -/
def ofEnvironment (env : Environment) : Sources where
  root := .directory []
  globalDir := none
  projectDir := none
  environment := env

theorem file?_ofEnvironment (env : Environment) (scope : Scope) (name : FileName) :
    (ofEnvironment env).file? scope name = none := by
  cases scope <;> rfl

/-- A name with digits and a point that is no number is loaded. -/
theorem load_name_iff_release :
    let s := ofEnvironment [("HOME", "/root"), ("DIFFWARDEN_GITHUB__DEFAULT_REPO", "v2.0")]
    Literal.IsName "v2.0" ∧ s.SetsOnly .repo "v2.0" ∧
      (s.load.value = .ok (TextVariable.settings .repo "v2.0") ↔ ¬ Literal.SpellsTyped "v2.0") ∧
      (s.load.value = .error (.parse .wrongType ["github", "default_repo"]) ↔
        Literal.SpellsTyped "v2.0") := by
  intro s
  have hname : Literal.IsName "v2.0" := by decide
  have honly : s.SetsOnly .repo "v2.0" := by
    refine ⟨file?_ofEnvironment _, ⟨[("HOME", "/root")], [], rfl, ?_⟩, rfl⟩
    decide
  exact ⟨hname, honly, load_name_iff hname honly⟩

/-- An owner of digits only is not loaded. -/
theorem not_load_owner_digits :
    let s := ofEnvironment [("DIFFWARDEN_GITHUB__DEFAULT_OWNER", "123")]
    Literal.IsName "123" ∧ s.SetsOnly .owner "123" ∧
      s.load.value = .error (.parse .wrongType ["github", "default_owner"]) ∧
      s.load.value ≠ .ok (TextVariable.settings .owner "123") := by
  intro s
  have hload : s.load.value = .error (.parse .wrongType ["github", "default_owner"]) := by
    decide +kernel
  refine ⟨by decide, ⟨file?_ofEnvironment _, ⟨[], [], rfl, by decide⟩, rfl⟩, hload, ?_⟩
  rw [hload]
  exact nofun

end Sources

end PatchReview.Config
