import PatchReview.Metadata.Reader

/-!
# Framing of a rule document

A rule document starts with a delimiter line `---`.  The lines up to the next
delimiter are its metadata block, and what follows is its body.  Byte order marks
before the first line do not count.
-/

namespace PatchReview

open Text

/-- A rule document taken apart. -/
structure Framed where
  /-- What the metadata block says. -/
  metadata : Metadata
  /-- The text after the block, without blanks at its ends. -/
  body : String
  deriving Repr

/-- Why a text is not a rule document. -/
inductive FramingError where
  /-- The first line is no delimiter. -/
  | missing
  /-- No second delimiter closes the block. -/
  | unclosed
  deriving DecidableEq, Repr

/-- The text of a framing error. -/
def FramingError.message : FramingError → String
  | .missing => "rule document does not start with a '---' metadata delimiter"
  | .unclosed => "rule document metadata block has no closing '---' delimiter"

namespace Framed

/-- A line `---`, with blanks after it or none. -/
def isDelimiter (line : List Char) : Bool :=
  trimEnd line == ['-', '-', '-']

/-- Drop the byte order marks at the start. -/
def dropMarks (content : List Char) : List Char :=
  content.dropWhile (· == '\uFEFF')

/-- Cut the segments at the first delimiter: what stands before it and what follows
it. -/
def splitAtDelimiter : List (List Char) → Option (List (List Char) × List (List Char))
  | [] => none
  | segment :: rest =>
    if isDelimiter segment then some ([], rest)
    else (splitAtDelimiter rest).map fun (block, body) => (segment :: block, body)

/-- Take a rule document apart. -/
def ofText? (content : String) : Except FramingError Framed :=
  match segments (dropMarks content.toList) with
  | [] => .error .missing
  | first :: rest =>
    if isDelimiter first then
      match splitAtDelimiter rest with
      | none => .error .unclosed
      | some (block, body) =>
        .ok ⟨Metadata.ofText (String.ofList block.flatten),
          String.ofList (trim body.flatten)⟩
    else .error .missing

end Framed

end PatchReview
