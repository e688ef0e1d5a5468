import PatchReview.Config.Value
import PatchReview.Text.Base
import PatchReview.Text.Character
import PatchReview.Text.Decimal

/-!
# Literals

The text of an environment variable is read as a literal where it is one as a whole:
a truth value, a number, a text in quotes, a list in brackets, a table in braces.  Any
other text stands for itself.
-/

namespace PatchReview.Config.Literal

open Text (Reader isPlain isNameChar)

/-- Spaces between the parts of a literal. -/
def isSpace (c : Char) : Bool :=
  c == ' ' || c == '\t' || c == '\n' || c == '\r' || c == '\x0c'

/-- Characters that end a literal without quotes. -/
def isSeparator (c : Char) : Bool :=
  c == ',' || c == '\x7b' || c == '\x7d' || c == '[' || c == ']'

/-- Read a text in quotes after the first quote. -/
def readQuoted : Nat → Reader (List Char)
  | 0, _ => none
  | fuel + 1, cs =>
    let more (c : Char) (rest : List Char) : Option (List Char × List Char) :=
      (readQuoted fuel rest).map fun (s, rest) => (c :: s, rest)
    match cs with
    | [] => none
    | '"' :: rest => some ([], rest)
    | '\\' :: rest => (Text.readEscape rest).bind fun (c, rest) => more c rest
    | c :: rest => if isPlain c then more c rest else none

/-- What a literal without quotes is. -/
def ofBare (s : List Char) : Value :=
  let digits := match s with
    | '-' :: rest => rest
    | '+' :: rest => rest
    | _ => s
  if s.contains '.' && (Text.readDecimal digits).isSome then .real
  else match Text.readNatBelow Text.bound64 s with
    | some n => .int n
    | none =>
      match Text.readInt64 s with
      | some i => .int i
      | none => .text (String.ofList s)

/-- Read items with commas between them, and maybe one after the last, up to a closing
bracket. -/
def readItems (item : Reader α) (closing : Char) : Nat → Reader (List α)
  | 0, _ => none
  | fuel + 1, cs =>
    if cs.head? = some closing then some ([], cs.tail)
    else
      match item cs with
      | none => none
      | some (a, ',' :: rest) =>
        (readItems item closing fuel rest).map fun (more, rest) => (a :: more, rest)
      | some (a, rest) => if rest.head? = some closing then some ([a], rest.tail) else none

/-- Read a key. -/
def readKey (cs : List Char) : Option (String × List Char) :=
  match cs with
  | '"' :: rest => (readQuoted (rest.length + 1) rest).map fun (s, rest) => (String.ofList s, rest)
  | _ =>
    let key := cs.takeWhile isNameChar
    if key = [] then none else some (String.ofList key, cs.drop key.length)

/-- Read a key and its value, with spaces around either. -/
def readEntry (value : Reader Value) (cs : List Char) : Option ((String × Value) × List Char) :=
  match readKey (cs.dropWhile isSpace) with
  | none => none
  | some (key, rest) =>
    match rest.dropWhile isSpace with
    | '=' :: rest =>
      (value (rest.dropWhile isSpace)).map fun (v, rest) => ((key, v), rest.dropWhile isSpace)
    | _ => none

/-- Read a literal without the spaces around it; `depth` bounds the brackets in it. -/
def readCore (value : Reader Value) (cs : List Char) : Option (Value × List Char) :=
  match cs with
  | 't' :: 'r' :: 'u' :: 'e' :: rest => some (.bool true, rest)
  | 'f' :: 'a' :: 'l' :: 's' :: 'e' :: rest => some (.bool false, rest)
  | '\x7b' :: rest =>
    (readItems (readEntry value) '\x7d' (rest.length + 1) rest).map fun (entries, rest) =>
      (.table (Fields.ofList entries), rest)
  | '[' :: rest =>
    (readItems value ']' (rest.length + 1) rest).map fun (items, rest) => (.list items, rest)
  | '"' :: rest =>
    (readQuoted (rest.length + 1) rest).map fun (s, rest) => (.text (String.ofList s), rest)
  | '\'' :: c :: '\'' :: rest => some (.text (String.singleton c), rest)
  | '\'' :: _ => none
  | _ =>
    let bare := cs.takeWhile (!isSeparator ·)
    some (ofBare (Text.trim bare), cs.drop bare.length)

/-- Read a literal and the spaces around it; `depth` bounds the brackets in it. -/
def readValue : (depth : Nat) → Reader Value
  | 0, _ => none
  | depth + 1, cs =>
    (readCore (readValue depth) (cs.dropWhile isSpace)).map fun (v, rest) =>
      (v, rest.dropWhile isSpace)

end Literal

/-- The value that a text stands for. -/
def Value.ofLiteral (text : String) : Value :=
  let s := Text.trim text.toList
  match Literal.readValue (s.length + 1) s with
  | some (v, []) => v
  | _ => .text (String.ofList s)

end PatchReview.Config
