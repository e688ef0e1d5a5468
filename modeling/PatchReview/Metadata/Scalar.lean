import PatchReview.Metadata.Value
import PatchReview.Text.Blank
import PatchReview.Text.Number
import PatchReview.Text.Split

/-!
# Scalars of the metadata markup

The text after a colon is a scalar or a list written on one line.  Quotes around
a text are taken off, and in the values of the two pattern keys a doubled
backslash stands for one.
-/

namespace PatchReview.Metadata

open Text

/-- Take a pair of the given quotes off a text that has them at both ends. -/
def unquoteWith (quote : Char) (s : List Char) : Option (List Char) :=
  match s with
  | [] => none
  | c :: rest =>
    if c = quote ∧ rest.getLast? = some quote then some rest.dropLast else none

/-- Take one pair of double or single quotes off a text. -/
def unquote (s : List Char) : List Char :=
  ((unquoteWith '"' s).or (unquoteWith '\'' s)).getD s

/-- Write one backslash for each doubled one, from left to right. -/
def collapseBackslashes : List Char → List Char
  | [] => []
  | [c] => [c]
  | c :: d :: rest =>
    if c = '\\' ∧ d = '\\' then '\\' :: collapseBackslashes rest
    else c :: collapseBackslashes (d :: rest)

/-- The text of a pattern without the doubling that the markup asks for. -/
def unescapePattern (s : String) : String :=
  String.ofList (collapseBackslashes s.toList)

/-- The keys whose values are patterns. -/
def isPatternKey (key : String) : Bool :=
  key == "pattern" || key == "negativePattern"

/-- A list on one line, without its brackets: parts between commas, of which the
empty ones do not count. -/
def inlineItems (s : List Char) : List Value :=
  ((fields (· == ',') s).map fun part => unquote (trim part)).filter (· ≠ [])
    |>.map fun part => .text (String.ofList part)

/-- The text between brackets at both ends. -/
def bracketedText (s : List Char) : Option (List Char) :=
  match s with
  | '[' :: rest => if rest.getLast? = some ']' then some rest.dropLast else none
  | _ => none

/-- The value that a scalar spells under a key. -/
def Value.ofScalar (key : String) (s : List Char) : Value :=
  if s = [] then .null
  else match bracketedText s with
    | some inner => .list (inlineItems inner)
    | none =>
      if s = ['t', 'r', 'u', 'e'] then .bool true
      else if s = ['f', 'a', 'l', 's', 'e'] then .bool false
      else match readInt64 s with
        | some i => .int i
        | none =>
          let text := unquote s
          .text (String.ofList (if isPatternKey key then collapseBackslashes text else text))

end PatchReview.Metadata
