import PatchReview.Json.Reader

/-!
# Parts of a JSON value

A record is written as an object with named fields, or as an array of its parts in
order.
-/

namespace PatchReview.Json

/-- Read a text. -/
def text? : Json → Option String
  | .string s => some s
  | _ => none

/-- Read a natural number below a bound. -/
def natBelow? (bound : Nat) : Json → Option Nat
  | .int i => if 0 ≤ i ∧ i < bound then some i.toNat else none
  | _ => none

/-- Read a part that may be absent or null. -/
def optional? (read : Json → Option α) : Option Json → Option (Option α)
  | none => some none
  | some .null => some none
  | some j => (read j).map some

/-- The parts of a record; those that are absent have no value.  An array has no more parts
than there are names. -/
def parts? (names : List String) (j : Json) : Option (List (Option Json)) :=
  match j with
  | .object _ => some (names.map j.field?)
  | .array items =>
    if names.length < items.length then none
    else some (items.map some ++ List.replicate (names.length - items.length) none)
  | _ => none

end PatchReview.Json
