import PatchReview.Metadata.Line
import PatchReview.Text.Character

/-!
# Reading a metadata block

A block is read line by line.  A property without a value opens a list if the
next line is an item of it; the list goes on until a line that does not belong to
it.  An item `key: value` opens an object, which takes the indented properties
below it.
-/

namespace PatchReview.Metadata

open Text

/-- Where the reader stands. -/
inductive State where
  /-- Between properties. -/
  | top
  /-- In a list under `key`; its last item, if any, is a text. -/
  | inList (key : String) (items : List Value)
  /-- In a list under `key`, in an item that is an object. -/
  | inObject (key : String) (items : List Value) (current : Fields Value)
  deriving Repr

/-- Store the list that the reader stands in. -/
def State.flush (done : Metadata) : State → Metadata
  | .top => done
  | .inList key items => done.set key (.list items)
  | .inObject key items current => done.set key (.list (items ++ [.object current]))

/-- The key and the value of an item `key: value`; a quoted item is a text. -/
def objectItem (item : List Char) : Option (String × List Char) :=
  if item.head? = some '"' ∨ item.head? = some '\'' then none
  else match splitOnce ':' item with
    | none => none
    | some (key, value) =>
      let key := trim key
      if key ≠ [] ∧ key.all isNameChar then some (String.ofList key, trim value) else none

/-- Add an item to a list. -/
def State.push (key : String) (items : List Value) (item : List Char) : State :=
  match objectItem item with
  | some (name, value) => .inObject key items [(name, .ofScalar name value)]
  | none =>
    if item = [] then .inList key items
    else .inList key (items ++ [.text (String.ofList (unquote item))])

/-- Read a line between properties; `next` is the line after it. -/
def topLine (done : Metadata) (line : Line) (next : Option Line) : Metadata × State :=
  match line with
  | .property _ key [] =>
    match next with
    | some (.item _) => (done, .inList key [])
    | _ => (done.set key .null, .top)
  | .property _ key value => (done.set key (.ofScalar key value), .top)
  | _ => (done, .top)

/-- Read a line. -/
def step (done : Metadata) (state : State) (line : Line) (next : Option Line) :
    Metadata × State :=
  match state, line with
  | .inList key items, .item item => (done, .push key items item)
  | .inObject key items current, .item item =>
    (done, .push key (items ++ [.object current]) item)
  | .inObject key items current, .property true name value =>
    (done, .inObject key items (Fields.set current name (.ofScalar name value)))
  | state, line => topLine (state.flush done) line next

/-- Read the remaining lines. -/
def readLines (done : Metadata) (state : State) : List Line → Metadata
  | [] => state.flush done
  | line :: rest =>
    let (done, state) := step done state line rest.head?
    readLines done state rest

/-- The metadata that a block of text writes. -/
def ofText (block : String) : Metadata :=
  readLines [] .top (significantLines block.toList)

end PatchReview.Metadata
