import PatchReview.Text.Base
import PatchReview.Text.Number
import PatchReview.Yaml.Cursor
import PatchReview.Yaml.Token.Basic

/-!
# Anchors, tags and directives

Names for nodes, the tags that say what a node is, and the lines at the start of a text
that explain the tags in it.
-/

namespace PatchReview.Yaml.Token

/-- Read the name of an anchor or an alias, after its mark. -/
def readName (c : Cursor) : Option (String × Cursor) :=
  let (name, after) := c.takeWhile Text.isNameChar
  let ends := isBlankOrEnd after.next?
    || after.next?.any (['?', ':', ',', ']', '\x7d', '%', '@', '\x60'].contains ·)
  if name = [] || !ends then none else some (String.ofList name, after)

/-! ## Tags -/

/-- Characters of the address that a tag is; `verbatim` ones may have commas and brackets. -/
def isAddressChar (verbatim : Bool) (c : Char) : Bool :=
  Text.isNameChar c || [';', '/', '?', ':', '@', '&', '=', '+', '$', '.', '!', '~', '*', '\'', '(',
    ')'].contains c
    || (verbatim && (c == ',' || c == '[' || c == ']'))

/-- Read a percent sign and two hexadecimal digits: a byte. -/
def readByte : List Char → Option (Nat × List Char)
  | '%' :: a :: b :: rest => do
    let n ← Text.readInBase 16 [a, b]
    pure (n, rest)
  | _ => none

/-- Read further bytes of a character. -/
def readBytes : (count : Nat) → List Char → Option (List Nat × List Char)
  | 0, s => some ([], s)
  | count + 1, s => do
    let (n, rest) ← readByte s
    if n / 64 = 2 then
      let (more, rest) ← readBytes count rest
      pure (n :: more, rest)
    else none

/-- Read a character that is written byte by byte in UTF-8. -/
def readEncoded (s : List Char) : Option (List Char × List Char) := do
  let (first, rest) ← readByte s
  let count ← if first < 0x80 then some 0 else if first / 32 = 6 then some 1
    else if first / 16 = 14 then some 2 else if first / 8 = 30 then some 3 else none
  let (more, rest) ← readBytes count rest
  let text ← String.fromUTF8? ⟨((first :: more).map Nat.toUInt8).toArray⟩
  pure (text.toList, rest)

/-- Read an address; it may be empty. -/
def readAddress (verbatim : Bool) : (fuel : Nat) → List Char → Option (List Char × List Char)
  | 0, _ => none
  | fuel + 1, s =>
    match s with
    | '%' :: _ => do
      let (text, rest) ← readEncoded s
      let (more, rest) ← readAddress verbatim fuel rest
      pure (text ++ more, rest)
    | c :: rest =>
      if isAddressChar verbatim c then
        (readAddress verbatim fuel rest).map fun (more, rest) => (c :: more, rest)
      else some ([], s)
    | [] => some ([], [])

/-- Read an address off the front of a text. -/
def addressAt (verbatim : Bool) (c : Cursor) : Option (List Char × Cursor) :=
  (readAddress verbatim (c.rest.length + 1) c.rest).map fun (text, rest) =>
    (text, c.skip (c.rest.length - rest.length))

/-- Read the handle of a tag: an exclamation mark, and maybe a name and another one. -/
def readHandle (c : Cursor) : Option (List Char × Cursor) :=
  match c.rest with
  | '!' :: _ =>
    let (name, after) := (c.skip 1).takeWhile Text.isNameChar
    if after.next? = some '!' then some ('!' :: name ++ ['!'], after.skip 1)
    else some ('!' :: name, after)
  | _ => none

/-- Read a tag.  A tag with one exclamation mark keeps it as its handle; the tag that is
just that mark has no handle. -/
def readTag (c : Cursor) : Option (Token × Cursor) :=
  if c.peek? 1 = some '<' then
    match addressAt true (c.skip 2) with
    | some (text, after) =>
      if text = [] ∨ after.next? ≠ some '>' then none
      else some (.tag "" (String.ofList text), after.skip 1)
    | none => none
  else
    match readHandle c with
    | none => none
    | some (mark, after) =>
      if 1 < mark.length ∧ mark.getLast? = some '!' then
        match addressAt false after with
        | some (text, after) =>
          if text = [] then none
          else some (.tag (String.ofList mark) (String.ofList text), after)
        | none => none
      else
        match addressAt false after with
        | some (text, after) =>
          let suffix := mark.drop 1 ++ text
          if suffix = [] then some (.tag "" "!", after)
          else some (.tag "!" (String.ofList suffix), after)
        | none => none

/-- Whether a tag can end at a place. -/
def endsTag (inFlow : Bool) (c : Cursor) : Bool :=
  isBlankOrEnd c.next? || (inFlow && c.next? == some ',')

/-! ## Directives -/

/-- Read a number of at most nine digits. -/
def readVersionNumber (c : Cursor) : Option (Nat × Cursor) :=
  let (digits, after) := c.takeWhile Char.isDigit
  if digits = [] ∨ 9 < digits.length then none
  else some (Text.digitsValue digits, after)

/-- Read a version. -/
def readVersion (c : Cursor) : Option (Token × Cursor) := do
  let (major, c) ← readVersionNumber (c.skipWhile Text.isLineBlank)
  if c.next? = some '.' then
    let (minor, c) ← readVersionNumber (c.skip 1)
    pure (.version major minor, c)
  else none

/-- Read what a handle stands for. -/
def readHandleMeaning (c : Cursor) : Option (Token × Cursor) := do
  let (mark, c) ← readHandle (c.skipWhile Text.isLineBlank)
  if mark ≠ ['!'] ∧ mark.getLast? ≠ some '!' then none
  else if c.next?.any Text.isLineBlank then
    let (start, c) ← addressAt true (c.skipWhile Text.isLineBlank)
    if start = [] || !isBlankOrEnd c.next? then none
    else pure (.handle (String.ofList mark) (String.ofList start), c)
  else none

/-- Read a directive, from its percent sign up to the end of its line. -/
def readDirective (c : Cursor) : Option (Token × Cursor) := do
  let (name, after) := (c.skip 1).takeWhile Text.isNameChar
  let (token, c) ←
    if !isBlankOrEnd after.next? then none
    else if name = "YAML".toList then readVersion after
    else if name = "TAG".toList then readHandleMeaning after
    else none
  let c := (c.skipWhile Text.isLineBlank).skipComment
  if isBreakOrEnd c.next? then pure (token, c.takeBreak.2) else none

end PatchReview.Yaml.Token
