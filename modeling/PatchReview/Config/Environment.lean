import PatchReview.Config.Literal
import PatchReview.Text.Split

/-!
# Settings in the environment

A variable whose name starts with the prefix sets the value at the path of keys that
the rest of its name spells; two underscores lead into a table.  The token has a
variable of its own.  Letter case does not matter in the names of variables.
-/

namespace PatchReview.Config

/-- The variables of an environment: names and texts, in order. -/
abbrev Environment := List (String × String)

namespace Environment

/-- What the names of variables with settings start with. -/
def leading : List Char :=
  "DIFFWARDEN_".toList

/-- The name of the variable with the token. -/
def tokenName : List Char :=
  "GITHUB_TOKEN".toList

/-- Whether two texts differ at most in the case of ASCII letters. -/
def sameLetters (s t : List Char) : Bool :=
  s.map Char.toLower == t.map Char.toLower

/-- What follows the prefix in the name of a variable. -/
def dropPrefix? (name : List Char) : Option (List Char) :=
  if sameLetters (name.take leading.length) leading then some (name.drop leading.length) else none

/-- Write a dot for every two underscores. -/
def dotted : List Char → List Char
  | '_' :: '_' :: rest => '.' :: dotted rest
  | c :: rest => c :: dotted rest
  | [] => []

/-- The keys on the path that a text with dots spells; there is no path with an empty
key. -/
def keysOf (s : List Char) : Option (List String) :=
  let keys := Text.fields (· == '.') (Text.trim s)
  if keys.contains [] then none
  else some (keys.map fun key => String.ofList (key.map Char.toLower))

/-- The keys of the setting that a variable gives. -/
def settingKeys? (name : String) : Option (List String) :=
  (dropPrefix? (Text.trim name.toList)).bind fun rest => keysOf (dotted rest)

/-- The table with one value, at the end of a path of keys. -/
def nest : List String → Value → Table
  | [], _ => []
  | [key], v => [(key, v)]
  | key :: rest, v => [(key, .table (nest rest v))]

/-- The tables of the variables with settings, in order. -/
def settingTables (env : Environment) : List Table :=
  env.filterMap fun (name, text) =>
    (settingKeys? name).map fun keys => nest keys (Value.ofLiteral text)

/-- The tables of the variables with the token, in order. -/
def tokenTables (env : Environment) : List Table :=
  env.filterMap fun (name, text) =>
    if sameLetters (Text.trim name.toList) tokenName then
      some (nest ["github", "token"] (Value.ofLiteral text))
    else none

/-- What the environment sets: the variables with the prefix, then the token. -/
def tables (env : Environment) : List Table :=
  [Table.mergeAll env.settingTables, Table.mergeAll env.tokenTables]

end Environment

end PatchReview.Config
