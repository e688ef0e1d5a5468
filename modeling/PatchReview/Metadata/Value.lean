import PatchReview.Fields

/-!
# Metadata values

The metadata of a rule document is a set of named values.  Its markup can write
scalars, lists of texts and lists of objects; a value is kept with the type that
its spelling has.
-/

namespace PatchReview.Metadata

/-- A metadata value. -/
inductive Value where
  | null
  | bool (b : Bool)
  | int (i : Int)
  | text (s : String)
  | list (items : List Value)
  | object (fields : List (String × Value))
  deriving Repr, Inhabited

/-- The text of a scalar; null, lists and objects have none. -/
def Value.asText? : Value → Option String
  | .text s => some s
  | .int i => some (toString i)
  | .bool b => some (toString b)
  | _ => none

/-- The items of a list. -/
def Value.items? : Value → Option (List Value)
  | .list items => some items
  | _ => none

end PatchReview.Metadata

namespace PatchReview

/-- The metadata of a rule document. -/
abbrev Metadata := Fields Metadata.Value

end PatchReview
