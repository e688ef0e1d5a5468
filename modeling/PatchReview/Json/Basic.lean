import PatchReview.Fields

/-!
# JSON values

The values that JSON text can write.  A whole number that fits 64 bits is kept as
an integer; any other number is kept as it is spelled, since nothing here reckons
with it.  The fields of an object keep the order in which they are to be written.
-/

namespace PatchReview

/-- A JSON value. -/
inductive Json where
  | null
  | bool (b : Bool)
  /-- A whole number from `-2^63` up to `2^64 - 1`. -/
  | int (i : Int)
  /-- Any other number, as it is spelled. -/
  | real (spelling : String)
  | string (s : String)
  | array (items : List Json)
  | object (fields : List (String × Json))
  deriving Repr, Inhabited

namespace Json

/-- A natural number. -/
def nat (n : Nat) : Json :=
  .int n

/-- A list of texts. -/
def strings (items : List String) : Json :=
  .array (items.map .string)

/-- A text, or null. -/
def optional : Option String → Json
  | some s => .string s
  | none => .null

/-- A field of an object; other values have none. -/
def field? (j : Json) (name : String) : Option Json :=
  match j with
  | .object fields => Fields.get? fields name
  | _ => none

end Json

end PatchReview
