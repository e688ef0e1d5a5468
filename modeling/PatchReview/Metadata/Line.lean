import PatchReview.Metadata.Scalar
import PatchReview.Text.Lines

/-!
# Lines of the metadata markup

A line of a metadata block is an item of a list, a property, or neither.  Blank
lines and lines that start with `#` do not count at all.
-/

namespace PatchReview.Metadata

open Text

/-- A line of a metadata block. -/
inductive Line where
  /-- What follows the dash of `- content`. -/
  | item (content : List Char)
  /-- A line `key: value`, and whether it starts with a space or a tab. -/
  | property (indented : Bool) (key : String) (value : List Char)
  /-- Any other line; it ends a list and says nothing. -/
  | other
  deriving Repr

/-- A line that says something: neither blank nor a comment. -/
def isSignificant (line : List Char) : Bool :=
  match trim line with
  | [] => false
  | c :: _ => c != '#'

/-- Whether a line starts with a space or a tab. -/
def isIndented (line : List Char) : Bool :=
  match line with
  | c :: _ => c == ' ' || c == '\t'
  | [] => false

/-- A property, if the text has a colon with a key before it. -/
def propertyOf (indented : Bool) (trimmed : List Char) : Line :=
  match splitOnce ':' trimmed with
  | none => .other
  | some (key, value) =>
    if trim key = [] then .other
    else .property indented (String.ofList (trim key)) (trim value)

/-- The line that a text is. -/
def Line.ofText (text : List Char) : Line :=
  match trim text with
  | ['-'] => .item []
  | '-' :: ' ' :: rest => .item (trim rest)
  | trimmed => propertyOf (isIndented text) trimmed

/-- The significant lines of a block. -/
def significantLines (block : List Char) : List Line :=
  ((lines block).filter isSignificant).map Line.ofText

end PatchReview.Metadata
