/-!
# Tokens of YAML

A YAML text is a sequence of tokens.  Most are marks in the text; the start and the end
of a block, and the mark before a key, follow from the columns of others.
-/

namespace PatchReview.Yaml

/-- A token. -/
inductive Token where
  /-- The version of the format. -/
  | version (major minor : Nat)
  /-- What a handle in tags stands for. -/
  | handle (name start : String)
  | documentStart
  | documentEnd
  | blockSequenceStart
  | blockMappingStart
  | blockEnd
  | flowSequenceStart
  | flowSequenceEnd
  | flowMappingStart
  | flowMappingEnd
  /-- The dash before an item of a block. -/
  | blockEntry
  /-- The comma between items in brackets. -/
  | flowEntry
  | key
  | value
  | alias (name : String)
  | anchor (name : String)
  | tag (handle suffix : String)
  /-- A scalar; whether it stands without quotes. -/
  | scalar (text : List Char) (plain : Bool)
  deriving DecidableEq, Repr

end PatchReview.Yaml
