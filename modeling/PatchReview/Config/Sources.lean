import PatchReview.Config.Discovery
import PatchReview.Config.Environment
import PatchReview.Json.Reader
import PatchReview.Toml.Reader
import PatchReview.Yaml.Node
import PatchReview.Yaml.Scalar

/-!
# Sources of a configuration

Each source of a configuration gives a table: a file in one of three formats, the
environment, and the command line.
-/

namespace PatchReview.Config

/-! ## Values of JSON -/

mutual

/-- A JSON value as a value of a configuration. -/
def Value.ofJson : Json → Value
  | .null => .null
  | .bool b => .bool b
  | .int i => .int i
  | .real _ => .real
  | .string s => .text s
  | .array items => .list (Value.ofItems items)
  | .object fields => .table (Value.ofFields fields)

/-- The items of a JSON array. -/
def Value.ofItems : List Json → List Value
  | [] => []
  | item :: rest => Value.ofJson item :: Value.ofItems rest

/-- The fields of a JSON object. -/
def Value.ofFields : List (String × Json) → List (String × Value)
  | [] => []
  | (name, j) :: rest => (name, Value.ofJson j) :: Value.ofFields rest

end

/-! ## Values of YAML -/

/-- What the tags of the core schema start with. -/
def coreTag (name : String) : String :=
  "tag:yaml.org,2002:" ++ name

/-- Whether a tag has a meaning in one document only. -/
def isLocalTag (tag : Option String) : Bool :=
  tag.any fun t => t.toList.head? == some '!'

/-- What a plain scalar without tag is. -/
def Value.ofPlain (text : List Char) : Value :=
  match Yaml.Scalar.ofPlain text with
  | .null => .null
  | .bool b => .bool b
  | .int i => .int i
  | .real => .real
  | .text => .text (String.ofList text)

/-- What a scalar is.  A tag of the core schema demands its spelling. -/
def Value.ofScalar (tag : Option String) (plain : Bool) (text : List Char) : Option Value :=
  match tag with
  | none => some (if plain then Value.ofPlain text else .text (String.ofList text))
  | some t =>
    if t = coreTag "bool" then (Yaml.readBool text).map .bool
    else if t = coreTag "int" then (Yaml.readInt text).map .int
    else if t = coreTag "float" then (if Yaml.isReal text then some .real else none)
    else if t = coreTag "null" then
      if Yaml.isNull text ∧ text ≠ [] then some .null else none
    else some (.text (String.ofList text))

/-- The key that a node is: the text of a scalar. -/
def keyOfNode : Yaml.Node → Option String
  | .scalar _ _ text => some (String.ofList text)
  | _ => none

mutual

/-- A node as a value, if fewer than `depth` collections are inside each other.  Tags of
one document have no meaning. -/
def Value.ofNode (depth : Nat) : Yaml.Node → Option Value
  | .scalar tag plain s =>
    if isLocalTag tag then none else Value.ofScalar tag plain s
  | .sequence tag items =>
    match depth with
    | 0 => none
    | depth + 1 =>
      if isLocalTag tag then none else (Value.ofNodes depth items).map .list
  | .mapping tag entries =>
    match depth with
    | 0 => none
    | depth + 1 =>
      if isLocalTag tag then none
      else (Value.ofEntries depth entries).map fun fields => .table (Fields.ofList fields)

/-- The items of a sequence. -/
def Value.ofNodes (depth : Nat) : List Yaml.Node → Option (List Value)
  | [] => some []
  | n :: rest => do
    let v ← Value.ofNode depth n
    let more ← Value.ofNodes depth rest
    pure (v :: more)

/-- The fields of a mapping, whose keys are scalars. -/
def Value.ofEntries (depth : Nat) : List (Yaml.Node × Yaml.Node) → Option (List (String × Value))
  | [] => some []
  | (k, n) :: rest => do
    let key ← keyOfNode k
    let v ← Value.ofNode depth n
    let more ← Value.ofEntries depth rest
    pure ((key, v) :: more)

end

/-- The largest number of YAML collections inside each other. -/
def maxDepth : Nat :=
  128

/-- The table of a YAML text: a mapping, or nothing at all. -/
def tableOfYaml (text : String) : Option Table :=
  match Yaml.Node.ofText? text with
  | none => none
  | some none => some []
  | some (some (.scalar _ plain text)) => if plain ∧ text = [] then some [] else none
  | some (some (.sequence _ _)) => none
  | some (some (.mapping _ entries)) => (Value.ofEntries (maxDepth - 1) entries).map Fields.ofList

/-! ## Tables of sources -/

/-- The table of a text in some format. -/
def Format.readTable (format : Format) (text : String) : Option Table :=
  match format with
  | .toml => Toml.ofText? text
  | .yaml => tableOfYaml text
  | .json =>
    match Json.ofText? text with
    | some (.object fields) => some (Value.ofFields fields)
    | _ => none

/-- The table of a configuration file. -/
def ConfigFile.table? (root : Files.Node) (file : ConfigFile) : Option Table :=
  match root.readText file.path with
  | .ok text => file.format.readTable text
  | .error _ => none

/-- The settings that the command line overrides. -/
structure Overrides where
  /-- The rules directory. -/
  rulesDir : Option String := none
  /-- Whether the built-in rules count. -/
  builtinRules : Option Bool := none
  /-- Whether nothing is to be posted. -/
  dryRun : Option Bool := none
  deriving DecidableEq, Repr

/-- The table of what the command line overrides. -/
def Overrides.table (o : Overrides) : Table :=
  Fields.ofList (
    (o.rulesDir.map fun dir => ("rules_dir", Value.text dir)).toList
    ++ (o.builtinRules.map fun b => ("builtin_rules", Value.bool b)).toList
    ++ (o.dryRun.map fun b => ("dry_run", Value.bool b)).toList)

end PatchReview.Config
