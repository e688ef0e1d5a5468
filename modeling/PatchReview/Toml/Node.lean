import PatchReview.Config.Value

/-!
# Tables under construction

A TOML text builds up a tree of tables, line by line.  Whether a table can still be
added to depends on how it came about: by a header of its own, by a header further
below it, or by a key with dots.
-/

namespace PatchReview.Toml

open Config (Value)

/-- How a table came about. -/
inductive Origin where
  /-- By its own header, or by braces. -/
  | defined
  /-- By the header of a table below it. -/
  | implied
  /-- By a key with dots. -/
  | dotted
  deriving DecidableEq, Repr

/-- A value or a table under construction. -/
inductive Node where
  | value (v : Value)
  | table (origin : Origin) (entries : List (String × Node))
  /-- A list of tables; only the last one can still be added to. -/
  | tables (earlier : List (List (String × Node))) (last : List (String × Node))

/-- The entries of a table under construction. -/
abbrev Entries := List (String × Node)

/-- Change the table at the end of a path of keys.  Tables on the way that are missing are
made; a path of dotted keys does not lead through tables with a header of their own. -/
def Entries.update (dotted : Bool) (change : Origin → Entries → Option Entries) :
    List String → Origin → Entries → Option Entries
  | [], origin, entries => change origin entries
  | key :: rest, _, entries =>
    match Fields.get? entries key with
    | none =>
      let origin := if dotted then .dotted else .implied
      (update dotted change rest origin []).map fun below =>
        Fields.set entries key (.table origin below)
    | some (.value _) => none
    | some (.tables earlier last) =>
      (update dotted change rest .defined last).map fun below =>
        Fields.set entries key (.tables earlier below)
    | some (.table origin below) =>
      if dotted ∧ origin = .defined then none
      else (update dotted change rest origin below).map fun below =>
        Fields.set entries key (.table origin below)

/-- Put a value at a path of dotted keys and a last key, which must be new.  Only a table
that dotted keys made can be added to by dotted keys. -/
def Entries.put (path : List String) (key : String) (v : Value) (entries : Entries) :
    Option Entries :=
  entries.update true (fun origin table =>
    if (origin = .dotted) = (path = []) then none
    else match Fields.get? table key with
      | some _ => none
      | none => some (Fields.set table key (.value v))) path .defined

/-- Put a value as `put` does, in the table under a header. -/
def Entries.putUnder (header path : List String) (key : String) (v : Value) (entries : Entries) :
    Option Entries :=
  entries.update false (fun _ table => table.put path key v) header .defined

/-- Open the table of a header.  It must be new, or known only from headers below it. -/
def Entries.openTable (path : List String) (key : String) (entries : Entries) : Option Entries :=
  entries.update false (fun _ table =>
    match Fields.get? table key with
    | none => some (Fields.set table key (.table .defined []))
    | some (.table .implied below) => some (Fields.set table key (.table .defined below))
    | some _ => none) path .defined

/-- Open the next table of the list of tables of a header. -/
def Entries.openNext (path : List String) (key : String) (entries : Entries) : Option Entries :=
  entries.update false (fun _ table =>
    match Fields.get? table key with
    | none => some (Fields.set table key (.tables [] []))
    | some (.tables earlier last) => some (Fields.set table key (.tables (earlier ++ [last]) []))
    | some _ => none) path .defined

mutual

/-- A node as a value. -/
def Node.toValue : Node → Value
  | .value v => v
  | .table _ entries => .table (Entries.toFields entries)
  | .tables earlier last => .list (Entries.toTables earlier ++ [.table (Entries.toFields last)])

/-- Entries as the fields of a table. -/
def Entries.toFields : List (String × Node) → List (String × Value)
  | [] => []
  | (key, node) :: rest => (key, node.toValue) :: Entries.toFields rest

/-- Several tables as values. -/
def Entries.toTables : List (List (String × Node)) → List Value
  | [] => []
  | entries :: rest => .table (Entries.toFields entries) :: Entries.toTables rest

end

end PatchReview.Toml
