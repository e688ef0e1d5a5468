import PatchReview.Config.Settings
import PatchReview.Config.Value
import PatchReview.Text.Number

/-!
# Settings from a table

A table of values gives the settings that it has keys for; the others keep their
defaults, and keys without a setting do not count.  A group of settings can also be
written as a list of its values.  Of several values that do not fit, the one whose key
comes first is reported.
-/

namespace PatchReview.Config

/-- A value that does not fit: what is wrong, and the keys on the way to it. -/
structure Misfit where
  /-- What is wrong. -/
  fault : Fault
  /-- The keys on the way to the value, outermost first. -/
  key : List String := []
  deriving DecidableEq, Repr

/-- A misfit within the value of a key. -/
def Misfit.under (key : String) (m : Misfit) : Misfit :=
  { m with key := key :: m.key }

/-- A misfit of a value itself. -/
def misfit (fault : Fault) : Except Misfit α :=
  .error { fault }

namespace Value

/-- Read a truth value. -/
def asBool : Value → Except Misfit Bool
  | .bool b => .ok b
  | _ => misfit .wrongType

/-- Read a text. -/
def asText : Value → Except Misfit String
  | .text s => .ok s
  | _ => misfit .wrongType

/-- Read a text that may be null. -/
def asOptionalText : Value → Except Misfit (Option String)
  | .null => .ok none
  | v => some <$> v.asText

/-- Read a natural number below `bound`.  A number that is out of range only because of
`bound` is told apart from one of more than 64 bits. -/
def asNatBelow (bound : Nat) : Value → Except Misfit Nat
  | .int i =>
    if 0 ≤ i ∧ i < bound then .ok i.toNat
    else if -Text.signedBound64 ≤ i ∧ i < Text.bound64 then misfit .outOfRange
    else misfit .wrongType
  | _ => misfit .wrongType

end Value

/-- A setting of a group: its key, and how its value changes the group. -/
abbrev Slot (α : Type) := String × (Value → α → Except Misfit α)

/-- Change a group by a value if its key names a setting. -/
def putField (slots : List (Slot α)) (a : α) (field : String × Value) : Except Misfit α :=
  match Fields.get? slots field.1 with
  | some put => (put field.2 a).mapError (Misfit.under field.1)
  | none => .ok a

/-- Change a group by the fields of a table, in order. -/
def putFields (slots : List (Slot α)) (a : α) : List (String × Value) → Except Misfit α
  | [] => .ok a
  | field :: rest =>
    match putField slots a field with
    | .error m => .error m
    | .ok a => putFields slots a rest

/-- Change a group by the items of a list: the first item is for the first setting, and so
on.  Further items do not count.  `index` is the place of the next item. -/
def putItems (a : α) (index : Nat) : List (Slot α) → List Value → Except Misfit α
  | slot :: slots, item :: items =>
    match (slot.2 item a).mapError (Misfit.under (toString index)) with
    | .error m => .error m
    | .ok a => putItems a (index + 1) slots items
  | _, _ => .ok a

/-- Change a group by a value: a table or a list. -/
def putGroup (slots : List (Slot α)) (value : Value) (a : α) : Except Misfit α :=
  match value with
  | .table fields => putFields slots a fields
  | .list items => putItems a 0 slots items
  | _ => misfit .wrongType

/-- How the code host is reached: the settings in the order of a list. -/
def hostSlots : List (Slot HostSettings) := [
  ("api_url", fun v h => do pure { h with apiUrl := ← v.asText }),
  ("token", fun v h => do pure { h with token := ← v.asOptionalText }),
  ("default_owner", fun v h => do pure { h with defaultOwner := ← v.asOptionalText }),
  ("default_repo", fun v h => do pure { h with defaultRepo := ← v.asOptionalText })]

/-- How comments are listed and posted: the settings in the order of a list. -/
def postingSlots : List (Slot PostingOptions) := [
  ("batch_size", fun v p => do pure { p with batchSize := ← v.asNatBelow Text.bound64 }),
  ("per_page", fun v p => do pure { p with perPage := ← v.asNatBelow Text.bound32 }),
  ("max_comment_pages", fun v p => do pure { p with maxCommentPages := ← v.asNatBelow Text.bound32 })]

/-- All settings in the order of a list. -/
def settingsSlots : List (Slot Settings) := [
  ("rules_dir", fun v s => do pure { s with rulesDir := ← v.asText }),
  ("builtin_rules", fun v s => do pure { s with builtinRules := ← v.asBool }),
  ("dry_run", fun v s => do pure { s with dryRun := ← v.asBool }),
  ("github", fun v s => do pure { s with host := ← putGroup hostSlots v {} }),
  ("posting", fun v s => do pure { s with posting := ← putGroup postingSlots v {} })]

/-- The settings that a value gives. -/
def Settings.ofValue (v : Value) : Except Misfit Settings :=
  putGroup settingsSlots v {}

end PatchReview.Config
