import PatchReview.Json.Basic

/-!
# Writing JSON

JSON text is written without any space, or over several lines with two spaces for
each level.  Within strings the quote, the backslash and the control characters
below U+0020 are escaped, and nothing else.
-/

namespace PatchReview.Json

/-- A hexadecimal digit in lower case. -/
def hexDigit (n : Nat) : Char :=
  if n < 10 then Char.ofNat ('0'.toNat + n) else Char.ofNat ('a'.toNat + (n - 10))

/-- A character as it is written within quotes. -/
def escapeChar (c : Char) : List Char :=
  if c = '"' then ['\\', '"']
  else if c = '\\' then ['\\', '\\']
  else if c = '\n' then ['\\', 'n']
  else if c = '\r' then ['\\', 'r']
  else if c = '\t' then ['\\', 't']
  else if c = '\x08' then ['\\', 'b']
  else if c = '\x0c' then ['\\', 'f']
  else if c.toNat < 0x20 then
    ['\\', 'u', '0', '0', hexDigit (c.toNat / 16), hexDigit (c.toNat % 16)]
  else [c]

/-- A text within quotes. -/
def quoted (s : String) : String :=
  "\"" ++ String.ofList (s.toList.flatMap escapeChar) ++ "\""

mutual

/-- A value without any space. -/
def compact : Json → String
  | .null => "null"
  | .bool b => toString b
  | .int i => toString i
  | .real spelling => spelling
  | .string s => quoted s
  | .array items => "[" ++ ",".intercalate (compactItems items) ++ "]"
  | .object fields => "\x7b" ++ ",".intercalate (compactFields fields) ++ "\x7d"

/-- The items of an array without any space. -/
def compactItems : List Json → List String
  | [] => []
  | item :: rest => compact item :: compactItems rest

/-- The fields of an object without any space. -/
def compactFields : List (String × Json) → List String
  | [] => []
  | (name, value) :: rest => (quoted name ++ ":" ++ compact value) :: compactFields rest

end

/-- Lines between brackets, one level further in; no line at all if there is nothing
between them. -/
def block (opening closing : String) (margin : String) (parts : List String) : String :=
  match parts with
  | [] => opening ++ closing
  | _ =>
    let inner := margin ++ "  "
    opening ++ "\n" ++ ",\n".intercalate (parts.map (inner ++ ·)) ++ "\n" ++ margin ++ closing

mutual

/-- A value over several lines; `margin` stands before each line but the first. -/
def prettyAt (margin : String) : Json → String
  | .array items => block "[" "]" margin (prettyItems (margin ++ "  ") items)
  | .object fields => block "\x7b" "\x7d" margin (prettyFields (margin ++ "  ") fields)
  | .null => "null"
  | .bool b => toString b
  | .int i => toString i
  | .real spelling => spelling
  | .string s => quoted s

/-- The items of an array over several lines. -/
def prettyItems (margin : String) : List Json → List String
  | [] => []
  | item :: rest => prettyAt margin item :: prettyItems margin rest

/-- The fields of an object over several lines. -/
def prettyFields (margin : String) : List (String × Json) → List String
  | [] => []
  | (name, value) :: rest =>
    (quoted name ++ ": " ++ prettyAt margin value) :: prettyFields margin rest

end

/-- A value over several lines. -/
def pretty (j : Json) : String :=
  prettyAt "" j

end PatchReview.Json
