import Mathlib.Data.List.Basic
import PatchReview.Proofs.OrderedSources
import PatchReview.Proofs.SettingValues

/-!
# The last source of a setting counts

Up to eleven sources give settings: four files in each of two directories, the variables
with settings, the variable with the token, and the command line.  Each setting has the
value of the last source that sets its key, whatever else any of them sets.

Main results:

- Definition `Layer.precedence`: the sources in the order in which they count.
- Definition `Sources.lastGiven`: the value of a key in the last source that sets it.
- Theorem `Sources.value_discover`: the files that are found, in this order.
- Theorem `Sources.at?_of_mem_environment`: a variable sets the key that its name spells.
- Theorem `Sources.load_last_given`: what is loaded, key by key, and when it cannot be used.
-/

namespace PatchReview.Config

/-! ## Files -/

/-- The names of configuration files. -/
inductive FileName where
  | toml
  | yaml
  | yml
  | json
  deriving DecidableEq, Repr

namespace FileName

/-- All names, in the order in which the files count. -/
def all : List FileName :=
  [.toml, .yaml, .yml, .json]

/-- The spelling of a name. -/
def text : FileName → String
  | .toml => "config.toml"
  | .yaml => "config.yaml"
  | .yml => "config.yml"
  | .json => "config.json"

/-- The format of the file of a name. -/
def format : FileName → Format
  | .toml => .toml
  | .yaml => .yaml
  | .yml => .yaml
  | .json => .json

theorem fileNames_eq : fileNames = all.map text :=
  rfl

/-- The extension of a name is that of its format. -/
theorem format_eq (name : FileName) :
    (Files.extension? name.text).bind Format.ofExtension? = some name.format := by
  cases name <;> decide

end FileName

/-! ## Sources -/

/-- What the command line gives a key. -/
def Overrides.value? (o : Overrides) : Key → Option Value
  | .rulesDir => o.rulesDir.map .text
  | .builtinRules => o.builtinRules.map .bool
  | .dryRun => o.dryRun.map .bool
  | _ => none

theorem Overrides.at?_table (o : Overrides) (key : Key) : o.table.at? key = o.value? key := by
  obtain ⟨rulesDir, builtinRules, dryRun⟩ := o
  cases rulesDir <;> cases builtinRules <;> cases dryRun <;> cases key <;> rfl

/-- The sources of settings. -/
inductive Layer where
  /-- A configuration file. -/
  | file (scope : Scope) (name : FileName)
  /-- The variables with settings. -/
  | settingVariables
  /-- The variable with the token. -/
  | tokenVariable
  /-- The command line. -/
  | overrides
  deriving DecidableEq, Repr

/-- The files in the order in which they count: the global ones before those of the
project. -/
def Layer.files : List Layer :=
  FileName.all.map (.file .everywhere) ++ FileName.all.map (.file .project)

/-- The sources in the order in which they count. -/
def Layer.precedence : List Layer :=
  files ++ [.settingVariables, .tokenVariable, .overrides]

namespace Sources

variable (s : Sources)

/-- The path of a configuration directory. -/
def dir? : Scope → Option String
  | .everywhere => s.globalDir
  | .project => s.projectDir

/-- The configuration file of a name, if there is one. -/
def file? (scope : Scope) (name : FileName) : Option ConfigFile :=
  (s.dir? scope).bind fun dir =>
    let path := Files.join dir name.text
    if s.root.isDirectory dir ∧ s.root.isFile path then some ⟨path, name.format, scope⟩ else none

/-- The tables that a source gives, in the order in which they count. -/
def given : Layer → List Table
  | .file scope name => ((s.file? scope name).bind (·.table? s.root)).toList
  | .settingVariables => s.environment.settingTables
  | .tokenVariable => s.environment.tokenTables
  | .overrides => [s.overrides.table]

/-- The value of a key in the last source that sets it. -/
def lastGiven (key : Key) : Option Value :=
  Table.lastAt (Layer.precedence.flatMap s.given) key

/-- Every configuration file can be read. -/
def IsReadable : Prop :=
  ∀ scope name, ∀ file ∈ s.file? scope name, (file.table? s.root).isSome = true

/-- What the sources give is of the right kind. -/
def Fits : Prop :=
  ∀ layer, ∀ t ∈ s.given layer, t.Fits

/-! ## Finding the files -/

/-- The files that are found in one directory. -/
theorem value_filesIn (scope : Scope) :
    ((s.dir? scope).elim (pure []) (filesIn s.root scope)).value =
      FileName.all.filterMap (s.file? scope) := by
  cases hdir : s.dir? scope with
  | none => simp [file?, hdir]
  | some dir =>
      have hfile (name : FileName) : s.file? scope name =
          if s.root.isDirectory dir ∧ s.root.isFile (Files.join dir name.text) then
            some ⟨Files.join dir name.text, name.format, scope⟩ else none := by
        simp [file?, hdir]
      simp only [Option.elim_some, filesIn]
      split
      · next hresolve => simp [hfile, Files.Node.isDirectory, hresolve]
      · next hresolve =>
        simp only [Logged.value_pure, FileName.fileNames_eq, List.filter_map, List.filterMap_map,
          List.filterMap_filter]
        congr 1
        funext name
        obtain ⟨extension, hextension, hformat⟩ := Option.bind_eq_some_iff.1 name.format_eq
        simp [hfile, Files.Node.isDirectory, hresolve, hextension, hformat]
      · next node hnode hresolve =>
        have hnot : s.root.isDirectory dir = false := by
          rw [Files.Node.isDirectory, hresolve]
          cases node with
          | directory entries => exact absurd rfl (hnode entries)
          | _ => rfl
        simp [hfile, hnot, Logged.warning]

/-- The files that are found, in the order in which they count. -/
theorem value_discover : (discover s.root s.globalDir s.projectDir).value =
    FileName.all.filterMap (s.file? .everywhere) ++ FileName.all.filterMap (s.file? .project) := by
  rw [← value_filesIn, ← value_filesIn]
  rfl

/-- The tables of the files in one directory. -/
theorem flatMap_given_file (scope : Scope) :
    (FileName.all.map (Layer.file scope)).flatMap s.given =
      (FileName.all.filterMap (s.file? scope)).filterMap (·.table? s.root) := by
  rw [List.filterMap_filterMap, List.flatMap_map, List.filterMap_eq_flatMap_toList]
  rfl

/-- Readable files give their tables. -/
theorem fileTables_discover (h : s.IsReadable) :
    fileTables s.root (discover s.root s.globalDir s.projectDir).value =
      .ok (Layer.files.flatMap s.given) := by
  have hread : ∀ file ∈ (discover s.root s.globalDir s.projectDir).value,
      (file.table? s.root).isSome = true := by
    intro file hfile
    rw [value_discover, List.mem_append, List.mem_filterMap, List.mem_filterMap] at hfile
    rcases hfile with ⟨name, -, hname⟩ | ⟨name, -, hname⟩
    · exact h .everywhere name file hname
    · exact h .project name file hname
  rw [fileTables, mapM_eq_filterMap hread, value_discover, Layer.files, List.flatMap_append,
    flatMap_given_file, flatMap_given_file, List.filterMap_append]

/-! ## All tables -/

/-- The sources one by one, from the one that counts most. -/
theorem lastGiven_eq (key : Key) :
    s.lastGiven key = (s.overrides.value? key).or
      ((Table.lastAt (s.given .tokenVariable) key).or
        ((Table.lastAt (s.given .settingVariables) key).or
          (Table.lastAt (Layer.files.flatMap s.given) key))) := by
  have hgiven : Layer.precedence.flatMap s.given = Layer.files.flatMap s.given ++
      (s.given .settingVariables ++ (s.given .tokenVariable ++ [s.overrides.table])) := by
    simp [Layer.precedence, given]
  rw [lastGiven, hgiven]
  simp only [Table.lastAt_append, Table.lastAt_singleton, Overrides.at?_table, Option.or_assoc]

section

variable {s}

/-- Every table of a source is in order. -/
theorem isOrdered_of_mem_given {layer : Layer} {t : Table} (h : t ∈ s.given layer) :
    t.IsOrdered := by
  cases layer with
  | file scope name =>
      obtain ⟨file, -, htable⟩ := Option.bind_eq_some_iff.1 (Option.mem_toList.1 h)
      exact isOrdered_of_table? htable
  | settingVariables => exact Environment.isOrdered_of_mem_settingTables h
  | tokenVariable => exact Environment.isOrdered_of_mem_tokenTables h
  | overrides =>
      rw [List.mem_singleton.1 h]
      exact s.overrides.isOrdered_table

/-- The variables of a source are merged to one table first; it sets a key as the last of
them does. -/
theorem merged_variables (hfits : s.Fits) (layer : Layer) :
    (Table.mergeAll (s.given layer)).IsOrdered ∧ (Table.mergeAll (s.given layer)).Fits ∧
      ∀ key, (Table.mergeAll (s.given layer)).at? key = Table.lastAt (s.given layer) key := by
  have hordered : ∀ t ∈ s.given layer, t.IsOrdered := fun _ ht => isOrdered_of_mem_given ht
  exact ⟨Table.isOrdered_mergeAll hordered, Table.at?_mergeAll hordered (hfits layer)⟩

/-- All tables that are merged are in order and fit, and the last of them that sets a key is
the last one that a source gives. -/
theorem lastAt_tables (hfits : s.Fits) :
    (∀ t ∈ s.tables (Layer.files.flatMap s.given), t.IsOrdered ∧ t.Fits) ∧
      ∀ key, Table.lastAt (s.tables (Layer.files.flatMap s.given)) key = s.lastGiven key := by
  obtain ⟨hordered₁, hfits₁, hlast₁⟩ := merged_variables hfits .settingVariables
  obtain ⟨hordered₂, hfits₂, hlast₂⟩ := merged_variables hfits .tokenVariable
  constructor
  · intro t ht
    simp only [tables, Environment.tables, List.mem_append, List.mem_flatMap, List.mem_cons,
      List.not_mem_nil, or_false] at ht
    rcases ht with (⟨layer, -, ht⟩ | rfl | rfl) | rfl
    · exact ⟨isOrdered_of_mem_given ht, hfits layer t ht⟩
    · exact ⟨hordered₁, hfits₁⟩
    · exact ⟨hordered₂, hfits₂⟩
    · have hmem : s.overrides.table ∈ s.given .overrides := List.mem_singleton.2 rfl
      exact ⟨isOrdered_of_mem_given hmem, hfits .overrides _ hmem⟩
  · intro key
    have htables : s.tables (Layer.files.flatMap s.given) = Layer.files.flatMap s.given ++
        [Table.mergeAll (s.given .settingVariables), Table.mergeAll (s.given .tokenVariable),
          s.overrides.table] := by
      simp [tables, Environment.tables, given]
    rw [lastGiven_eq, htables]
    simp only [Table.lastAt_append, Table.lastAt_cons, Table.lastAt_nil, hlast₁, hlast₂,
      Overrides.at?_table, Option.or_assoc, Option.none_or]

end

end Sources

/-! ## Settings that can be used -/

namespace Settings

/-- Settings that can be used: batches and pages are not empty, pages are not too large, and
there is an address. -/
structure IsUsable (c : Settings) : Prop where
  batch : 0 < c.posting.batchSize
  page : 0 < c.posting.perPage
  page_le : c.posting.perPage ≤ maxPerPage
  pages : 0 < c.posting.maxCommentPages
  address : Text.trim c.host.apiUrl.toList ≠ []

theorem isUsable_iff {c : Settings} : c.IsUsable ↔ c.check = .ok () := by
  rw [check_eq_ok_iff]
  constructor
  · rintro ⟨hbatch, hpage, hle, hpages, haddress⟩
    exact ⟨hbatch, ⟨hpage, hle⟩, hpages, haddress⟩
  · rintro ⟨hbatch, ⟨hpage, hle⟩, hpages, haddress⟩
    exact ⟨hbatch, hpage, hle, hpages, haddress⟩

/-- Settings that cannot be used are reported by the key of one of them. -/
theorem exists_of_check_eq_error {c : Settings} {e : ConfigError} (h : c.check = .error e) :
    ∃ key reason, e = .invalid key reason := by
  unfold check at h
  split at h
  · cases h
    exact ⟨_, _, rfl⟩
  split at h
  · cases h
    exact ⟨_, _, rfl⟩
  split at h
  · cases h
    exact ⟨_, _, rfl⟩
  split at h
  · cases h
    exact ⟨_, _, rfl⟩
  · cases h

/-- A table of settings is refused exactly if they cannot be used. -/
theorem ofTable_iff_isUsable {t : Table} {c : Settings} (h : ofValue (.table t) = .ok c) :
    (ofTable t = .ok c ↔ c.IsUsable) ∧
      ((∃ key reason, ofTable t = .error (.invalid key reason)) ↔ ¬ c.IsUsable) := by
  rw [isUsable_iff, ofTable, h]
  cases hcheck : c.check with
  | ok _ => simp [hcheck]
  | error e =>
      obtain ⟨key, reason, rfl⟩ := exists_of_check_eq_error hcheck
      simp [hcheck]

end Settings

namespace Sources

/-! ## A project with a file -/

/-- The text of a configuration file in JSON. -/
def projectText : String :=
  "\x7b\"dry_run\": false, \"github\": \x7b\"default_owner\": \"acme\"\x7d\x7d"

/-- A project with one configuration file, some variables and an override. -/
def ofProject : Sources where
  root := .directory [("conf", .directory [("config.json", .file projectText.toUTF8)])]
  globalDir := none
  projectDir := some "conf"
  environment := [("DIFFWARDEN_GITHUB__DEFAULT_REPO", "widgets"),
    ("DIFFWARDEN_POSTING__PER_PAGE", "50"), ("GITHUB_TOKEN", "secret")]
  overrides := { dryRun := some true }

theorem resolve_ofProject (name : FileName) :
    ofProject.root.resolve ("conf/" ++ name.text) =
      if name = .json then .ok (.file projectText.toUTF8) else .error .notFound := by
  have hnames : Files.names ("conf/" ++ name.text) = ["conf", name.text] := by
    cases name <;> decide
  have hwalk : ofProject.root.resolve ("conf/" ++ name.text) =
      ofProject.root.walk 40 [] ofProject.root ["conf", name.text] := by
    rw [Files.Node.resolve, hnames]
    cases name <;> rfl
  rw [hwalk]
  cases name <;> simp [ofProject, Files.Node.walk, Fields.get?, FileName.text] <;> rfl

theorem isDirectory_ofProject : ofProject.root.isDirectory "conf" = true := by
  have hnames : Files.names "conf" = ["conf"] := by decide
  rw [Files.Node.isDirectory, Files.Node.resolve, hnames]
  simp [ofProject, Files.Node.walk, Fields.get?]
  rfl

/-- There is no other file. -/
theorem file?_ofProject (scope : Scope) (name : FileName) :
    ofProject.file? scope name = if scope = .project ∧ name = .json then
      some ⟨"conf/config.json", .json, .project⟩ else none := by
  cases scope with
  | everywhere => rfl
  | project =>
      have hdir : ofProject.dir? .project = some "conf" := rfl
      have hjoin : Files.join "conf" name.text = "conf/" ++ name.text := by
        cases name <;> decide
      simp only [file?, hdir, Option.bind_some, hjoin, isDirectory_ofProject, Files.Node.isFile,
        resolve_ofProject]
      cases name <;> simp [FileName.text, FileName.format]

/-- The file is read as its text is. -/
theorem table?_ofProject :
    ConfigFile.table? ofProject.root ⟨"conf/config.json", .json, .project⟩ =
      Format.json.readTable projectText := by
  have hresolve : ofProject.root.resolve "conf/config.json" = .ok (.file projectText.toUTF8) :=
    resolve_ofProject .json
  have htext : String.fromUTF8? projectText.toUTF8 = some projectText :=
    dif_pos projectText.isValidUTF8
  rw [ConfigFile.table?, Files.Node.readText, hresolve]
  dsimp only
  rw [htext]

/-! ## Loading -/

/-- A variable whose name spells the path of a key gives this key the value that its text
stands for, and no other key. -/
theorem at?_of_mem_environment {s : Sources} {name text : String}
    (h : (name, text) ∈ s.environment) {key : Key}
    (hkeys : Environment.settingKeys? name = some key.path) :
    ∃ t ∈ s.given .settingVariables,
      ∀ other, t.at? other = if other = key then some (Value.ofLiteral text) else none := by
  refine ⟨_, List.mem_filterMap.2 ⟨_, h, ?_⟩, fun other => Table.at?_nest_path key other _⟩
  simp [hkeys]

/-- The variable with the token gives no other key. -/
theorem eq_token_of_at? {s : Sources} {t : Table} (h : t ∈ s.given .tokenVariable) {key : Key}
    {v : Value} (hv : t.at? key = some v) : key = .host .token := by
  obtain ⟨⟨name, text⟩, -, ht⟩ := List.mem_filterMap.1 h
  obtain ⟨-, ht⟩ := Option.ite_none_right_eq_some.1 ht
  cases ht
  by_contra hne
  have hnone := Table.at?_nest_path (.host .token) key (Value.ofLiteral text)
  rw [if_neg hne] at hnone
  exact absurd (hv.symm.trans hnone) nofun

/-- Each loaded setting has the value of the last source that sets its key, or its default
if none does.  A variable sets the key that its name spells and no other one, and so does the
variable with the token.  Loading fails exactly if these settings cannot be used. -/
theorem load_last_given (s : Sources) (hread : s.IsReadable) (hfits : s.Fits) :
    (∀ name text key, (name, text) ∈ s.environment →
        Environment.settingKeys? name = some key.path → ∃ t ∈ s.given .settingVariables,
          ∀ other, t.at? other = if other = key then some (Value.ofLiteral text) else none) ∧
      (∀ t ∈ s.given .tokenVariable, ∀ key v, t.at? key = some v → key = .host .token) ∧
      ∃ c : Settings, (∀ key, c.get key = (s.lastGiven key).getD (({} : Settings).get key)) ∧
        (s.load.value = .ok c ↔ c.IsUsable) ∧
        ((∃ key reason, s.load.value = .error (.invalid key reason)) ↔ ¬ c.IsUsable) := by
  refine ⟨fun name text key hmem hkeys => at?_of_mem_environment hmem hkeys,
    fun t ht key v hv => eq_token_of_at? ht hv, ?_⟩
  obtain ⟨htables, hlast⟩ := lastAt_tables hfits
  have hordered := fun t ht => (htables t ht).1
  obtain ⟨hmerged, hat⟩ := Table.at?_mergeAll hordered fun t ht => (htables t ht).2
  obtain ⟨c, hc, hget⟩ := Settings.get_of_ofValue (Table.isOrdered_mergeAll hordered) hmerged
  have hload : s.load.value =
      Settings.ofTable (Table.mergeAll (s.tables (Layer.files.flatMap s.given))) := by
    rw [load, Logged.value_bind, s.fileTables_discover hread]
    rfl
  refine ⟨c, fun key => ?_, ?_⟩
  · rw [hget key, hat key, hlast key]
  · rw [hload]
    exact Settings.ofTable_iff_isUsable hc

/-- The settings of this project. -/
theorem load_last_given_ofProject : ofProject.IsReadable ∧ ofProject.Fits ∧
    (∀ name text key, (name, text) ∈ ofProject.environment →
        Environment.settingKeys? name = some key.path → ∃ t ∈ ofProject.given .settingVariables,
          ∀ other, t.at? other = if other = key then some (Value.ofLiteral text) else none) ∧
      (∀ t ∈ ofProject.given .tokenVariable, ∀ key v, t.at? key = some v → key = .host .token) ∧
      ∃ c : Settings,
        (∀ key, c.get key = (ofProject.lastGiven key).getD (({} : Settings).get key)) ∧
        (ofProject.load.value = .ok c ↔ c.IsUsable) ∧
        ((∃ key reason, ofProject.load.value = .error (.invalid key reason)) ↔ ¬ c.IsUsable) := by
  have hread : ofProject.IsReadable := by
    intro scope name file hfile
    rw [Option.mem_def, file?_ofProject] at hfile
    obtain ⟨-, hfile⟩ := Option.ite_none_right_eq_some.1 hfile
    cases hfile
    rw [table?_ofProject]
    decide +kernel
  have hfits : ofProject.Fits := by
    intro layer
    cases layer with
    | file scope name =>
        rw [given, file?_ofProject]
        split
        · rw [Option.bind_some, table?_ofProject]
          decide +kernel
        · exact nofun
    | settingVariables => decide +kernel
    | tokenVariable => decide +kernel
    | overrides => decide +kernel
  exact ⟨hread, hfits, load_last_given ofProject hread hfits⟩

end Sources

end PatchReview.Config
