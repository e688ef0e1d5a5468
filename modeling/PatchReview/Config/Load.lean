import PatchReview.Config.Extraction
import PatchReview.Config.Sources

/-!
# Loading settings

The settings come from the defaults, the global and the project files, the environment,
and the command line.  Where several set the same key the later one counts.
-/

namespace PatchReview.Config

/-- Where the settings come from. -/
structure Sources where
  /-- The files. -/
  root : Files.Node
  /-- The path of the global configuration directory. -/
  globalDir : Option String
  /-- The path of the project's configuration directory. -/
  projectDir : Option String
  /-- The environment. -/
  environment : Environment
  /-- What the command line overrides. -/
  overrides : Overrides := {}

/-- The tables of configuration files, unless one cannot be read. -/
def fileTables (root : Files.Node) (files : List ConfigFile) : Except ConfigError (List Table) :=
  match files.mapM (ConfigFile.table? root) with
  | some tables => .ok tables
  | none => .error (.parse .unreadable [])

/-- The settings that a table gives, if they can be used. -/
def Settings.ofTable (t : Table) : Except ConfigError Settings :=
  match Settings.ofValue (.table t) with
  | .error m => .error (.parse m.fault m.key)
  | .ok s =>
    match s.check with
    | .error e => .error e
    | .ok () => .ok s

/-- All tables in the order in which they count, given those of the files. -/
def Sources.tables (s : Sources) (files : List Table) : List Table :=
  files ++ s.environment.tables ++ [s.overrides.table]

/-- Load the settings. -/
def Sources.load (s : Sources) : Logged (Except ConfigError Settings) := do
  let files ← discover s.root s.globalDir s.projectDir
  match fileTables s.root files with
  | .error e => pure (.error e)
  | .ok tables => pure (Settings.ofTable (Table.mergeAll (s.tables tables)))

end PatchReview.Config
