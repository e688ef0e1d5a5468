import PatchReview.Pattern.CharSet
import PatchReview.Unicode.Binary
import PatchReview.Unicode.Category
import PatchReview.Unicode.Script

/-!
# Character properties in patterns

A pattern names sets of characters by a general category, a script or a binary
property: `\pL`, `\p\x7bGreek\x7d`, `\p\x7bsc=Latin\x7d`.  Names are compared
loosely.

Current gaps:

- The age of a character (`age`) and the classes of its part in grapheme clusters, words and
  sentences (`gcb`, `wb`, `sb`) belong to the notation and have no tables here.  A pattern
  that names one of them is refused as if the property did not exist.
-/

namespace PatchReview.Pattern

open Unicode

/-- The general categories by their loose names. -/
def categories : List NamedTable := [
  ⟨["lu", "uppercaseletter"], Category.uppercaseLetter⟩,
  ⟨["ll", "lowercaseletter"], Category.lowercaseLetter⟩,
  ⟨["lt", "titlecaseletter"], Category.titlecaseLetter⟩,
  ⟨["lm", "modifierletter"], Category.modifierLetter⟩,
  ⟨["lo", "otherletter"], Category.otherLetter⟩,
  ⟨["mn", "nonspacingmark"], Category.nonspacingMark⟩,
  ⟨["mc", "spacingmark"], Category.spacingMark⟩,
  ⟨["me", "enclosingmark"], Category.enclosingMark⟩,
  ⟨["nd", "decimalnumber", "digit"], digitTable⟩,
  ⟨["nl", "letternumber"], Category.letterNumber⟩,
  ⟨["no", "othernumber"], Category.otherNumber⟩,
  ⟨["pc", "connectorpunctuation"], Category.connectorPunctuation⟩,
  ⟨["pd", "dashpunctuation"], Category.dashPunctuation⟩,
  ⟨["ps", "openpunctuation"], Category.openPunctuation⟩,
  ⟨["pe", "closepunctuation"], Category.closePunctuation⟩,
  ⟨["pi", "initialpunctuation"], Category.initialPunctuation⟩,
  ⟨["pf", "finalpunctuation"], Category.finalPunctuation⟩,
  ⟨["po", "otherpunctuation"], Category.otherPunctuation⟩,
  ⟨["sm", "mathsymbol"], Category.mathSymbol⟩,
  ⟨["sc", "currencysymbol"], Category.currencySymbol⟩,
  ⟨["sk", "modifiersymbol"], Category.modifierSymbol⟩,
  ⟨["so", "othersymbol"], Category.otherSymbol⟩,
  ⟨["zs", "spaceseparator"], Category.spaceSeparator⟩,
  ⟨["zl", "lineseparator"], Category.lineSeparator⟩,
  ⟨["zp", "paragraphseparator"], Category.paragraphSeparator⟩,
  ⟨["cc", "control", "cntrl"], Category.control⟩,
  ⟨["cf", "format"], Category.format⟩,
  ⟨["co", "privateuse"], Category.privateUse⟩,
  ⟨["cn", "unassigned"], Category.unassigned⟩]

/-- The unions of general categories: their loose names and their members. -/
def categoryGroups : List (List String × List String) := [
  (["l", "letter"], ["lu", "ll", "lt", "lm", "lo"]),
  (["lc", "casedletter"], ["lu", "ll", "lt"]),
  (["m", "mark", "combiningmark"], ["mn", "mc", "me"]),
  (["n", "number"], ["nd", "nl", "no"]),
  (["p", "punctuation", "punct"], ["pc", "pd", "ps", "pe", "pi", "pf", "po"]),
  (["s", "symbol"], ["sm", "sc", "sk", "so"]),
  (["z", "separator"], ["zs", "zl", "zp"]),
  (["c", "other"], ["cc", "cf", "co", "cn"])]

namespace CharSet

/-- The set of a general category or a union of them, by its loose name. -/
def ofCategory (name : String) : Option CharSet :=
  if name = "any" then some .all
  else if name = "assigned" then some (.compl (.table Category.unassigned))
  else if name = "ascii" then some (.range '\x00' '\x7f')
  else match findTable categories name with
    | some t => some (.table t)
    | none =>
      (categoryGroups.find? (·.1.contains name)).map fun (_, members) =>
        .unionAll ((members.filterMap (findTable categories)).map .table)

/-- The set of a script, by its loose name. -/
def ofScript (name : String) : Option CharSet :=
  (findTable scripts name).map .table

/-- The set of a script with the characters it shares, by its loose name. -/
def ofScriptExtensions (name : String) : Option CharSet :=
  match findTable scriptExtensions name with
  | some t => some (.table t)
  | none => ofScript name

/-- The set of a binary property, by its loose name. -/
def ofBinary (name : String) : Option CharSet :=
  if ["alphabetic", "alpha"].contains name then some (.table alphabeticTable)
  else if ["whitespace", "wspace", "space"].contains name then some .blank
  else if ["joincontrol", "joinc"].contains name then some (.range '\u200c' '\u200d')
  else if ["graphemeextend", "grext"].contains name then some (.table graphemeExtendTable)
  else (findTable binaryProperties name).map .table

/-- The set that a name stands for alone: a binary property, a category or a
script.  Three names are both properties and categories, and mean the category. -/
def ofName (name : List Char) : Option CharSet :=
  let loose := looseName name
  let binary := if ["cf", "sc", "lc"].contains loose then none else ofBinary loose
  binary.or ((ofCategory loose).or (ofScript loose))

/-- The set of the characters whose property `name` has the value `value`. -/
def ofValue (name value : List Char) : Option CharSet :=
  let loose := looseName name
  if ["gc", "generalcategory"].contains loose then ofCategory (looseName value)
  else if ["sc", "script"].contains loose then ofScript (looseName value)
  else if ["scx", "scriptextensions"].contains loose then ofScriptExtensions (looseName value)
  else none

end CharSet

end PatchReview.Pattern
