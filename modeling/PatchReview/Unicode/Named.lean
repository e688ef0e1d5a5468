import PatchReview.Unicode.Table

/-!
# Tables under their names

A property can be asked for by name.  Names are compared loosely: letter case,
spaces, hyphens, underscores and a leading `is` do not count.
-/

namespace PatchReview.Unicode

/-- A table with the names it goes by, in the form that `looseName` gives. -/
structure NamedTable where
  /-- The names of the property. -/
  names : List String
  /-- The characters that have it. -/
  table : Table

/-- The form in which names are compared. -/
def looseName (name : List Char) : String :=
  let (bare, hadIs) := match name with
    | i :: s :: rest => if i.toLower = 'i' ∧ s.toLower = 's' then (rest, true) else (name, false)
    | _ => (name, false)
  let plain := (bare.filter fun c => c.toNat < 0x80 && c != ' ' && c != '_' && c != '-').map
    Char.toLower
  if hadIs ∧ plain = ['c'] then "isc" else String.ofList plain

/-- Find the table of a loose name. -/
def findTable (tables : List NamedTable) (name : String) : Option Table :=
  (tables.find? (·.names.contains name)).map (·.table)

end PatchReview.Unicode
