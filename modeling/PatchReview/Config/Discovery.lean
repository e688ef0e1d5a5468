import PatchReview.Files.Tree
import PatchReview.Warning

/-!
# Configuration files

A configuration directory may hold one file for each of four names.  Those of the
global directory come before those of the project directory, so the latter count more.
-/

namespace PatchReview.Config

open Files

/-- The format of a configuration file. -/
inductive Format where
  | toml
  | yaml
  | json
  deriving DecidableEq, Repr

/-- The format that an extension stands for, in any letter case. -/
def Format.ofExtension? (extension : String) : Option Format :=
  match String.ofList (extension.toList.map Char.toLower) with
  | "toml" => some .toml
  | "yaml" => some .yaml
  | "yml" => some .yaml
  | "json" => some .json
  | _ => none

/-- The two configuration directories. -/
inductive Scope where
  /-- The user's own directory. -/
  | everywhere
  /-- The directory of the project. -/
  | project
  deriving DecidableEq, Repr

/-- A configuration file. -/
structure ConfigFile where
  /-- Its path. -/
  path : String
  /-- Its format. -/
  format : Format
  /-- The directory that it is in. -/
  scope : Scope
  deriving DecidableEq, Repr

/-- The names that a configuration file may have, in the order in which they count. -/
def fileNames : List String :=
  ["config.toml", "config.yaml", "config.yml", "config.json"]

/-- The configuration files in a directory.  A missing directory has none, and so has
anything else in its place, with a warning. -/
def filesIn (root : Node) (scope : Scope) (dir : String) : Logged (List ConfigFile) :=
  match root.resolve dir with
  | .error _ => pure []
  | .ok (.directory _) =>
    pure ((fileNames.filter fun name => root.isFile (join dir name)).filterMap fun name => do
      let extension ← extension? name
      let format ← Format.ofExtension? extension
      pure ⟨join dir name, format, scope⟩)
  | .ok _ => .warning .notAConfigurationDirectory []

/-- The configuration files of both directories, in the order in which they count. -/
def discover (root : Node) (globalDir projectDir : Option String) :
    Logged (List ConfigFile) := do
  let inGlobal ← globalDir.elim (pure []) (filesIn root .everywhere)
  let inProject ← projectDir.elim (pure []) (filesIn root .project)
  pure (inGlobal ++ inProject)

end PatchReview.Config
