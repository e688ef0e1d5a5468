import PatchReview.Json.Basic
import PatchReview.Text.Base
import PatchReview.Text.Decimal

/-!
# Reading JSON

JSON text is one value with spaces, tabs, line feeds and carriage returns around
its parts.  Of two fields with one name the later counts.  A number beyond the
range of double precision, a half of a surrogate pair, and arrays or objects more
than 127 deep are refused.
-/

namespace PatchReview.Json

open Text (Reader)

/-- Whether a character may stand between the parts of JSON text. -/
def isSpace (c : Char) : Bool :=
  c == ' ' || c == '\t' || c == '\n' || c == '\r'

/-- Read four hexadecimal digits. -/
def readHex4 : Reader Nat
  | a :: b :: c :: d :: rest => do
    let a ← Text.hexValue a
    let b ← Text.hexValue b
    let c ← Text.hexValue c
    let d ← Text.hexValue d
    pure (((a * 16 + b) * 16 + c) * 16 + d, rest)
  | _ => none

/-- Read what follows `\u`; the two halves of a surrogate pair give one character. -/
def readUnicodeEscape (cs : List Char) : Option (Char × List Char) := do
  let (n, rest) ← readHex4 cs
  if 0xDC00 ≤ n ∧ n ≤ 0xDFFF then none
  else if 0xD800 ≤ n ∧ n ≤ 0xDBFF then
    match rest with
    | '\\' :: 'u' :: rest => do
      let (low, rest) ← readHex4 rest
      if 0xDC00 ≤ low ∧ low ≤ 0xDFFF then
        pure (Char.ofNat (0x10000 + (n - 0xD800) * 0x400 + (low - 0xDC00)), rest)
      else none
    | _ => none
  else pure (Char.ofNat n, rest)

/-- Read what follows a backslash. -/
def readEscape : Reader Char
  | '"' :: rest => some ('"', rest)
  | '\\' :: rest => some ('\\', rest)
  | '/' :: rest => some ('/', rest)
  | 'b' :: rest => some ('\x08', rest)
  | 'f' :: rest => some ('\x0c', rest)
  | 'n' :: rest => some ('\n', rest)
  | 'r' :: rest => some ('\r', rest)
  | 't' :: rest => some ('\t', rest)
  | 'u' :: rest => readUnicodeEscape rest
  | _ => none

/-- Read the characters of a string up to its closing quote; `taken` are those read
so far, last first. -/
def readChars : Nat → List Char → Reader String
  | 0, _, _ => none
  | _ + 1, _, [] => none
  | _ + 1, taken, '"' :: rest => some (String.ofList taken.reverse, rest)
  | fuel + 1, taken, '\\' :: rest => do
    let (c, rest) ← readEscape rest
    readChars fuel (c :: taken) rest
  | fuel + 1, taken, c :: rest =>
    if c.toNat < 0x20 then none else readChars fuel (c :: taken) rest

/-- Read a string after its opening quote. -/
def readString : Reader String := fun cs =>
  readChars (cs.length + 1) [] cs

/-- Read the digits at the front of a text; at least one. -/
def readDigitRun (cs : List Char) : Option (List Char × List Char) :=
  match cs.span Char.isDigit with
  | ([], _) => none
  | (digits, rest) => some (digits, rest)

/-- Read the whole part of a number; only zero itself starts with a zero. -/
def readWhole : Reader (List Char)
  | '0' :: rest =>
    match rest with
    | c :: _ => if c.isDigit then none else some (['0'], rest)
    | [] => some (['0'], rest)
  | cs => readDigitRun cs

/-- Read the fraction of a number, if it has one. -/
def readFraction : Reader (Option (List Char))
  | '.' :: rest => (readDigitRun rest).map fun (digits, rest) => (some digits, rest)
  | cs => some (none, cs)

/-- Read the digits and the sign of an exponent. -/
def readExponentValue (cs : List Char) : Option (Int × List Char) :=
  match cs with
  | '+' :: rest => (readDigitRun rest).map fun (d, rest) => (Int.ofNat (Text.digitsValue d), rest)
  | '-' :: rest => (readDigitRun rest).map fun (d, rest) => (-Int.ofNat (Text.digitsValue d), rest)
  | _ => (readDigitRun cs).map fun (d, rest) => (Int.ofNat (Text.digitsValue d), rest)

/-- Read the exponent of a number, if it has one. -/
def readExponent : Reader (Option Int)
  | 'e' :: rest => (readExponentValue rest).map fun (e, rest) => (some e, rest)
  | 'E' :: rest => (readExponentValue rest).map fun (e, rest) => (some e, rest)
  | cs => some (none, cs)

/-- A number that is no 64-bit integer, if it is in range. -/
def realOf (spelling : List Char) (digits fraction : List Char) (exponent : Int) :
    Option Json :=
  if Text.inRealRange (Text.digitsValue (digits ++ fraction)) (exponent - fraction.length) then
    some (.real (String.ofList spelling))
  else none

/-- Read a number after its sign. -/
def readUnsigned (negative : Bool) (cs : List Char) : Option (Json × List Char) := do
  let (digits, rest) ← readWhole cs
  let (fraction, rest) ← readFraction rest
  let (exponent, rest) ← readExponent rest
  let spelling := (if negative then ['-'] else []) ++ cs.take (cs.length - rest.length)
  let n := Text.digitsValue digits
  if fraction.isNone ∧ exponent.isNone ∧ !negative ∧ n < Text.bound64 then
    pure (.int n, rest)
  else if fraction.isNone ∧ exponent.isNone ∧ negative ∧ 0 < n ∧ n ≤ Text.signedBound64 then
    pure (.int (-n), rest)
  else do
    let j ← realOf spelling digits (fraction.getD []) (exponent.getD 0)
    pure (j, rest)

/-- Read a number. -/
def readNumber : Reader Json
  | '-' :: rest => readUnsigned true rest
  | cs => readUnsigned false cs

/-- Read a comma and the next item, and so on, up to the closing bracket. -/
def readMore (item : Reader α) (closing : Char) : Nat → Reader (List α)
  | 0, _ => none
  | fuel + 1, cs =>
    match cs.dropWhile isSpace with
    | ',' :: rest => do
      let (a, rest) ← item (rest.dropWhile isSpace)
      let (more, rest) ← readMore item closing fuel rest
      pure (a :: more, rest)
    | c :: rest => if c = closing then some ([], rest) else none
    | [] => none

/-- Read the items after an opening bracket up to the closing one. -/
def readSequence (item : Reader α) (closing : Char) : Reader (List α) := fun cs =>
  match cs.dropWhile isSpace with
  | [] => none
  | c :: rest =>
    if c = closing then some ([], rest)
    else do
      let (a, rest) ← item (c :: rest)
      let (more, rest) ← readMore item closing (rest.length + 1) rest
      pure (a :: more, rest)

/-- Read a field of an object. -/
def readField (value : Reader Json) : Reader (String × Json)
  | '"' :: rest => do
    let (name, rest) ← readString rest
    match rest.dropWhile isSpace with
    | ':' :: rest => do
      let (v, rest) ← value (rest.dropWhile isSpace)
      pure ((name, v), rest)
    | _ => none
  | _ => none

/-- Read a given word and answer a value for it. -/
def readWord (word : List Char) (j : Json) (cs : List Char) : Option (Json × List Char) :=
  if word.isPrefixOf cs then some (j, cs.drop word.length) else none

/-- Read a value with at most `depth` arrays and objects inside each other. -/
def readValue : Nat → Reader Json
  | 0, _ => none
  | depth + 1, cs =>
    match cs with
    | '"' :: rest => (readString rest).map fun (s, rest) => (.string s, rest)
    | '[' :: rest =>
      (readSequence (readValue depth) ']' rest).map fun (items, rest) => (.array items, rest)
    | '\x7b' :: rest =>
      (readSequence (readField (readValue depth)) '\x7d' rest).map fun (fields, rest) =>
        (.object (Fields.ofList fields), rest)
    | 'n' :: _ => readWord ['n', 'u', 'l', 'l'] .null cs
    | 't' :: _ => readWord ['t', 'r', 'u', 'e'] (.bool true) cs
    | 'f' :: _ => readWord ['f', 'a', 'l', 's', 'e'] (.bool false) cs
    | _ => readNumber cs

/-- Read JSON text. -/
def ofText? (text : String) : Option Json :=
  match readValue 128 (text.toList.dropWhile isSpace) with
  | some (j, rest) => if rest.dropWhile isSpace = [] then some j else none
  | none => none

/-- What is decoded from a text is decoded from its characters, without a string. -/
theorem bind_ofText?_ofList (s : List Char) (decode : Json → Option α) :
    (ofText? (String.ofList s)).bind decode =
      (readValue 128 (s.dropWhile isSpace)).bind fun read =>
        if read.2.dropWhile isSpace = [] then decode read.1 else none := by
  unfold ofText?
  simp only [String.toList_ofList]
  cases readValue 128 (s.dropWhile isSpace) with
  | none => rfl
  | some read =>
      dsimp only [Option.bind_some]
      by_cases hrest : read.2.dropWhile isSpace = []
      · rw [if_pos hrest, if_pos hrest, Option.bind_some]
      · rw [if_neg hrest, if_neg hrest, Option.bind_none]

end PatchReview.Json
