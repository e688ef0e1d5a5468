import PatchReview.Unicode.Binary
import PatchReview.Unicode.Category

/-!
# Quoted text

Text is quoted for people to read: a character that would not show, or would be
taken for something else, is written as an escape.  Bytes that are not UTF-8 are
written in hexadecimal.
-/

namespace PatchReview.Text

/-- The digits of a number in a base from 2 to 36, in lower case; none for zero. -/
def digitsInBase (base : Nat) : Nat → Nat → List Char → List Char
  | 0, _, acc => acc
  | _ + 1, 0, acc => acc
  | fuel + 1, n, acc =>
    let d := n % base
    let c := if d < 10 then Char.ofNat ('0'.toNat + d) else Char.ofNat ('a'.toNat + (d - 10))
    digitsInBase base fuel (n / base) (c :: acc)

/-- A number in hexadecimal, in lower case. -/
def hex (n : Nat) : List Char :=
  if n = 0 then ['0'] else digitsInBase 16 n n []

/-- Whether a character shows as itself. -/
def isPrintable (c : Char) : Bool :=
  let n := c.toNat
  if n < 0x7F then 0x20 ≤ n
  else !([Unicode.Category.control, Unicode.Category.format, Unicode.Category.privateUse,
    Unicode.Category.unassigned, Unicode.Category.lineSeparator,
    Unicode.Category.paragraphSeparator, Unicode.Category.spaceSeparator].any (·.contains n))

/-- A character within double quotes. -/
def quoteChar (c : Char) : List Char :=
  if c = '\x00' then ['\\', '0']
  else if c = '\t' then ['\\', 't']
  else if c = '\r' then ['\\', 'r']
  else if c = '\n' then ['\\', 'n']
  else if c = '"' then ['\\', '"']
  else if c = '\\' then ['\\', '\\']
  else if isPrintable c && !Unicode.graphemeExtendTable.contains c.toNat then [c]
  else ['\\', 'u', '\x7b'] ++ hex c.toNat ++ ['\x7d']

/-- A text within double quotes. -/
def quoted (s : String) : String :=
  "\"" ++ String.ofList (s.toList.flatMap quoteChar) ++ "\""

/-- The character that bytes start with in UTF-8, and the number of bytes it takes. -/
def leadingChar (bytes : List UInt8) : Option (Char × Nat) :=
  [1, 2, 3, 4].findSome? fun n =>
    match String.fromUTF8? ⟨(bytes.take n).toArray⟩ with
    | some s => s.toList.head?.map fun c => (c, n)
    | none => none

/-- Bytes within double quotes, without the quotes.  `skip` bytes belong to a character
that is written already. -/
def quoteBytes (skip : Nat) : List UInt8 → List Char
  | [] => []
  | b :: rest =>
    match skip with
    | skip + 1 => quoteBytes skip rest
    | 0 =>
      match leadingChar (b :: rest) with
      | some (c, n) => quoteChar c ++ quoteBytes (n - 1) rest
      | none =>
        let digits := (hex b.toNat).map Char.toUpper
        ['\\', 'x'] ++ List.replicate (2 - digits.length) '0' ++ digits ++ quoteBytes 0 rest

/-- Bytes within double quotes. -/
def quotedBytes (bytes : List UInt8) : String :=
  "\"" ++ String.ofList (quoteBytes 0 bytes) ++ "\""

end PatchReview.Text
