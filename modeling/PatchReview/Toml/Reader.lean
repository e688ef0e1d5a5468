import PatchReview.Toml.Node
import PatchReview.Toml.Scalar

/-!
# Reading TOML

A TOML text has a key and its value, or the header of a table, on each line.  No key is
given twice, and no table is opened twice.
-/

namespace PatchReview.Toml

open Config (Value)
open Text (Reader isPlain isNameChar isLineBlank)

/-! ## Between the parts -/

/-- Drop spaces, line feeds and comments at the front. -/
def skipTrivia (inComment : Bool) : List Char → List Char
  | [] => []
  | '\r' :: '\n' :: rest => skipTrivia false rest
  | c :: rest =>
    if c = '\n' then skipTrivia false rest
    else if inComment then (if isPlain c then skipTrivia true rest else c :: rest)
    else if c = '#' then skipTrivia true rest
    else if isLineBlank c then skipTrivia false rest
    else c :: rest

/-- Read the rest of a line, which holds a comment at most. -/
def endLine (cs : List Char) : Option (List Char) :=
  let rest := match cs.dropWhile isLineBlank with
    | '#' :: rest => rest.dropWhile isPlain
    | rest => rest
  if rest = [] then some [] else skipLineFeed rest

/-! ## Keys -/

/-- Read a key without dots. -/
def readKey (cs : List Char) : Option (String × List Char) :=
  match cs with
  | '"' :: rest =>
    (readBasic (rest.length + 1) rest).map fun (s, rest) => (String.ofList s, rest)
  | '\'' :: rest => (readLiteral rest).map fun (s, rest) => (String.ofList s, rest)
  | _ =>
    let key := cs.takeWhile isNameChar
    if key = [] then none else some (String.ofList key, cs.drop key.length)

/-- Read keys with dots between them and spaces around them; `limit` bounds their number.
Answers the keys before the last one, and the last one. -/
def readPath : (limit : Nat) → Reader (List String × String)
  | 0, _ => none
  | limit + 1, cs => do
    let (key, rest) ← readKey (cs.dropWhile isLineBlank)
    match rest.dropWhile isLineBlank with
    | '.' :: rest =>
      let ((path, last), rest) ← readPath limit rest
      pure ((key :: path, last), rest)
    | rest => pure (([], key), rest)

/-- The number of keys with dots between them is less than this, and so is the number of
lists and tables inside each other. -/
def limit : Nat :=
  80

/-! ## Values -/

/-- Read the items of a list after its opening bracket. -/
def readItems (value : Reader Value) : (fuel : Nat) → Reader (List Value)
  | 0, _ => none
  | fuel + 1, cs =>
    match skipTrivia false cs with
    | ']' :: rest => some ([], rest)
    | cs => do
      let (v, rest) ← value cs
      match skipTrivia false rest with
      | ',' :: rest =>
        let (more, rest) ← readItems value fuel rest
        pure (v :: more, rest)
      | ']' :: rest => pure ([v], rest)
      | _ => none

/-- A value at a path of dotted keys and a last key. -/
structure Assignment where
  /-- The keys before the last one. -/
  path : List String
  /-- The last key. -/
  key : String
  /-- The value. -/
  value : Value

/-- Read keys, an equals sign and a value. -/
def readAssignment (value : Reader Value) (cs : List Char) : Option (Assignment × List Char) := do
  let ((path, key), rest) ← readPath (limit - 1) cs
  match rest with
  | '=' :: rest =>
    let (v, rest) ← value (rest.dropWhile isLineBlank)
    pure (⟨path, key, v⟩, rest.dropWhile isLineBlank)
  | _ => none

/-- Read the assignments in braces after the first one began. -/
def readAssignments (value : Reader Value) : (fuel : Nat) → Reader (List Assignment)
  | 0, _ => none
  | fuel + 1, cs => do
    let (a, rest) ← readAssignment value cs
    match rest with
    | ',' :: rest =>
      let (more, rest) ← readAssignments value fuel rest
      pure (a :: more, rest)
    | '\x7d' :: rest => pure ([a], rest)
    | _ => none

/-- The table of assignments in braces. -/
def tableOf (assignments : List Assignment) : Option Value :=
  (assignments.foldlM (fun entries a => Entries.put a.path a.key a.value entries)
    ([] : Entries)).map fun entries => .table (Entries.toFields entries)

/-- Read a value with fewer than `depth` lists and tables inside each other. -/
def readValue : (depth : Nat) → Reader Value
  | 0, _ => none
  | depth + 1, cs =>
    match cs with
    | [] => none
    | '[' :: rest =>
      (readItems (readValue depth) (rest.length + 1) rest).map fun (items, rest) =>
        (.list items, rest)
    | '\x7b' :: rest =>
      match rest.dropWhile isLineBlank with
      | '\x7d' :: rest => some (.table [], rest)
      | rest => do
        let (assignments, rest) ← readAssignments (readValue depth) (rest.length + 1) rest
        let table ← tableOf assignments
        pure (table, rest)
    | 't' :: 'r' :: 'u' :: 'e' :: rest => some (.bool true, rest)
    | 'f' :: 'a' :: 'l' :: 's' :: 'e' :: rest => some (.bool false, rest)
    | c :: _ =>
      if c = '"' ∨ c = '\'' then
        (readQuoted cs).map fun (s, rest) => (.text (String.ofList s), rest)
      else readNumber cs

/-! ## Lines -/

/-- What the lines so far have built: all tables, and the path of the open one. -/
structure Progress where
  /-- All entries. -/
  entries : Entries := []
  /-- The header above the next line. -/
  header : List String := []

/-- Read the header of a table, after its opening brackets. -/
def readHeader (closing : List Char) (openAt : List String → String → Entries → Option Entries)
    (p : Progress) (cs : List Char) : Option (Progress × List Char) := do
  let ((path, key), rest) ← readPath (limit - 1) cs
  if closing.isPrefixOf rest then
    let entries ← openAt path key p.entries
    pure (⟨entries, path ++ [key]⟩, rest.drop closing.length)
  else none

/-- Read a line that is not empty. -/
def readLine (p : Progress) : Reader Progress
  | '[' :: '[' :: rest => readHeader [']', ']'] Entries.openNext p rest
  | '[' :: rest => readHeader [']'] Entries.openTable p rest
  | cs => do
    let (a, rest) ← readAssignment (readValue limit) cs
    let entries ← p.entries.putUnder p.header a.path a.key a.value
    pure ({ p with entries := entries }, rest)

/-- Read the remaining lines. -/
def readLines : (fuel : Nat) → Progress → List Char → Option Entries
  | 0, _, _ => none
  | fuel + 1, p, cs =>
    match cs.dropWhile isLineBlank with
    | [] => some p.entries
    | c :: rest =>
      if c = '#' ∨ c = '\n' ∨ c = '\r' then
        (endLine (c :: rest)).bind (readLines fuel p)
      else do
        let (p, rest) ← readLine p (c :: rest)
        let rest ← endLine rest
        readLines fuel p rest

/-- Drop a byte order mark at the front. -/
def skipMark : List Char → List Char
  | '\uFEFF' :: rest => rest
  | cs => cs

/-- Read TOML text. -/
def ofText? (text : String) : Option Config.Table :=
  let cs := skipMark text.toList
  (readLines (cs.length + 1) {} cs).map Entries.toFields

end PatchReview.Toml
