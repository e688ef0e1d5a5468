import PatchReview.Metadata.Reader
import PatchReview.Proofs.TextLines

/-!
# Writing metadata

Metadata are written entry by entry: a scalar on the line of its key, a list as a block of
items below it.  Texts stand in double quotes, with their backslashes doubled where the
key is one of the pattern keys.  Every line is first made as a `Line` and then spelled.

Main definitions:

- `Scalar`, `Item`, `Content`: what can be written, and the value that each stands for.
- `RawItem`: an item as the texts of its lines, however these spell values.
- `linesOf`: the lines of some entries.
- `write`: the text of a metadata block.
-/

namespace PatchReview

namespace Metadata

/-! ## What can be written -/

/-- A value that is written on the line of its key. -/
inductive Scalar where
  | null
  | bool (b : Bool)
  | int (i : Int)
  | text (s : String)
  deriving DecidableEq, Repr

/-- An item of a list. -/
inductive Item where
  /-- A text. -/
  | text (s : String)
  /-- An object with a first field and further ones. -/
  | object (name : String) (value : Scalar) (rest : List (String × Scalar))
  deriving DecidableEq, Repr

/-- An item as it is written. -/
inductive RawItem where
  /-- The text behind a dash. -/
  | text (content : List Char)
  /-- The name of the first field and the text of its value, and further ones. -/
  | object (name : String) (value : List Char) (rest : List (String × List Char))
  deriving DecidableEq, Repr

/-- What is written under a key. -/
inductive Content where
  | scalar (s : Scalar)
  | list (items : List Item)
  deriving DecidableEq, Repr

/-- The value that a scalar stands for. -/
def Scalar.value : Scalar → Value
  | .null => .null
  | .bool b => .bool b
  | .int i => .int i
  | .text s => .text s

/-- The value that an item stands for. -/
def Item.value : Item → Value
  | .text s => .text s
  | .object name value rest =>
    .object (Fields.ofList (((name, value) :: rest).map fun (name, s) => (name, s.value)))

/-- The value that the text of a field is read as. -/
def rawField (field : String × List Char) : String × Value :=
  (field.1, .ofScalar field.1 field.2)

/-- The value that an item is read as. -/
def RawItem.value : RawItem → Value
  | .text content => .text (String.ofList (unquote content))
  | .object name value rest => .object (Fields.ofList (((name, value) :: rest).map rawField))

/-- The value that is written under a key. -/
def Content.value : Content → Value
  | .scalar s => s.value
  | .list items => .list (items.map Item.value)

/-- A key that the markup can carry: letters, digits, `_` and `-`, at least one. -/
def IsKey (s : String) : Prop :=
  s ≠ "" ∧ s.toList.all Text.isNameChar = true

instance (s : String) : Decidable (IsKey s) :=
  inferInstanceAs (Decidable (_ ∧ _))

/-- A text on one line. -/
def IsOneLine (s : String) : Prop :=
  '\n' ∉ s.toList

instance (s : String) : Decidable (IsOneLine s) :=
  inferInstanceAs (Decidable (¬ _))

/-- A scalar that the markup can carry: its text is on one line, its number has 64 bits. -/
def Scalar.IsWritable : Scalar → Prop
  | .null => True
  | .bool _ => True
  | .int i => Text.isInt64 i = true
  | .text s => IsOneLine s

/-- A field that the markup can carry. -/
def IsWritableField (field : String × Scalar) : Prop :=
  IsKey field.1 ∧ field.2.IsWritable

theorem isWritableField_mk {key : String} {s : Scalar} (hkey : IsKey key) (hs : s.IsWritable) :
    IsWritableField (key, s) :=
  ⟨hkey, hs⟩

/-- An item that the markup can carry. -/
def Item.IsWritable : Item → Prop
  | .text s => IsOneLine s
  | .object name value rest => ∀ field ∈ (name, value) :: rest, IsWritableField field

/-- What the markup can carry under a key. -/
def Content.IsWritable : Content → Prop
  | .scalar s => s.IsWritable
  | .list items => ∀ item ∈ items, item.IsWritable

/-- An entry that the markup can carry. -/
def IsWritableEntry (entry : String × Content) : Prop :=
  IsKey entry.1 ∧ entry.2.IsWritable

theorem isWritableEntry_mk {key : String} {content : Content} (hkey : IsKey key)
    (hcontent : content.IsWritable) : IsWritableEntry (key, content) :=
  ⟨hkey, hcontent⟩

/-! ## Spelling -/

/-- Put a text in double quotes. -/
def inQuotes (s : List Char) : List Char :=
  '"' :: (s ++ ['"'])

/-- Write two backslashes for each. -/
def doubleBackslashes : List Char → List Char
  | [] => []
  | c :: rest =>
    if c = '\\' then '\\' :: '\\' :: doubleBackslashes rest else c :: doubleBackslashes rest

/-- Spell a scalar under a key. -/
def Scalar.spell (key : String) : Scalar → List Char
  | .null => []
  | .bool b => (toString b).toList
  | .int i => (toString i).toList
  | .text s => inQuotes (if isPatternKey key then doubleBackslashes s.toList else s.toList)

/-- Spell a key and the text of its value. -/
def spellField (key : String) (value : List Char) : List Char :=
  key.toList ++ ':' :: (if value = [] then [] else ' ' :: value)

/-- The blanks at the start of a line: items are indented by two spaces, properties by four
or not at all. -/
def Line.indent : Line → List Char
  | .item _ => [' ', ' ']
  | .property true _ _ => [' ', ' ', ' ', ' ']
  | _ => []

/-- What stands on a line after the blanks at its start. -/
def Line.text : Line → List Char
  | .item content => '-' :: ' ' :: content
  | .property _ key value => spellField key value
  | .other => []

/-- Spell a line. -/
def Line.spell (line : Line) : List Char :=
  line.indent ++ line.text

/-! ## Lines -/

/-- The line of a field of an object after its first. -/
def fieldLine (field : String × Scalar) : Line :=
  .property true field.1 (field.2.spell field.1)

/-- The lines of an item. -/
def Item.lines : Item → List Line
  | .text s => [.item (inQuotes s.toList)]
  | .object name value rest => .item (spellField name (value.spell name)) :: rest.map fieldLine

/-- The line of a field of an object after its first, as it is written. -/
def rawLine (field : String × List Char) : Line :=
  .property true field.1 field.2

/-- The lines of an item as it is written. -/
def RawItem.lines : RawItem → List Line
  | .text content => [.item content]
  | .object name value rest => .item (spellField name value) :: rest.map rawLine

/-- How an item is written. -/
def Item.raw : Item → RawItem
  | .text s => .text (inQuotes s.toList)
  | .object name value rest =>
    .object name (value.spell name) (rest.map fun field => (field.1, field.2.spell field.1))

/-- An item is written on its lines. -/
theorem Item.lines_raw (item : Item) : item.raw.lines = item.lines := by
  cases item with
  | text s => rfl
  | object name value rest =>
      rw [raw, RawItem.lines, List.map_map]
      rfl

/-- The lines of what is written under a key. -/
def Content.lines (key : String) : Content → List Line
  | .scalar s => [.property false key (s.spell key)]
  | .list [] => [.property false key ['[', ']']]
  | .list (item :: items) => .property false key [] :: (item :: items).flatMap Item.lines

/-- The lines of some entries. -/
def linesOf (entries : List (String × Content)) : List Line :=
  entries.flatMap fun (key, content) => content.lines key

/-- The metadata block of some entries. -/
def write (entries : List (String × Content)) : List Char :=
  Text.joinLines ((linesOf entries).map Line.spell)

end Metadata

end PatchReview
