/-!
# Digits, escapes and percent signs

Digits in a base up to 16.  A character can be given by its number in base 16: in an escape
of a text in quotes, or, in an address, byte by byte after percent signs.
-/

namespace PatchReview.Text

/-- Reading a part off the front of a text. -/
abbrev Reader (α : Type) := List Char → Option (α × List Char)

/-! ## Digits -/

/-- The value of a digit in a base up to 16. -/
def digitIn (base : Nat) (c : Char) : Option Nat :=
  let value :=
    if c.isDigit then some (c.toNat - '0'.toNat)
    else if 'a' ≤ c ∧ c ≤ 'f' then some (c.toNat - 'a'.toNat + 10)
    else if 'A' ≤ c ∧ c ≤ 'F' then some (c.toNat - 'A'.toNat + 10)
    else none
  value.filter (· < base)

/-- Whether a character is a hexadecimal digit. -/
def isHexDigit (c : Char) : Bool :=
  c.isDigit || ('a' ≤ c && c ≤ 'f') || ('A' ≤ c && c ≤ 'F')

/-- The value of a hexadecimal digit. -/
def hexValue (c : Char) : Option Nat :=
  digitIn 16 c

/-- The value of digits in a base, given that of the digits before them. -/
def valueIn (base : Nat) (n : Nat) : List Char → Option Nat
  | [] => some n
  | c :: rest => (digitIn base c).bind fun d => valueIn base (base * n + d) rest

/-- Read a text of digits in a base; it has at least one. -/
def readInBase (base : Nat) (s : List Char) : Option Nat :=
  if s = [] then none else valueIn base 0 s

/-! ## Escapes -/

/-- The character of a number, unless it is a half of a surrogate pair or too large. -/
def charOfNumber (n : Nat) : Option Char :=
  if n < 0xD800 ∨ (0xDFFF < n ∧ n < 0x110000) then some (Char.ofNat n) else none

/-- Read a character given by `count` hexadecimal digits off the front of a text. -/
def readCharOfHex (count : Nat) (s : List Char) : Option (Char × List Char) :=
  if s.length < count then none
  else ((readInBase 16 (s.take count)).bind charOfNumber).map fun c => (c, s.drop count)

/-- Read what stands after a backslash in double quotes off the front of a text: a letter for
a control character, a quote or another backslash, or the number of a character. -/
def readEscape : Reader Char
  | 'b' :: rest => some ('\x08', rest)
  | 't' :: rest => some ('\t', rest)
  | 'n' :: rest => some ('\n', rest)
  | 'f' :: rest => some ('\x0c', rest)
  | 'r' :: rest => some ('\r', rest)
  | '"' :: rest => some ('"', rest)
  | '\\' :: rest => some ('\\', rest)
  | 'u' :: rest => readCharOfHex 4 rest
  | 'U' :: rest => readCharOfHex 8 rest
  | _ => none

/-! ## Percent encoding -/

/-- A hexadecimal digit in upper case. -/
def upperHexDigit (n : Nat) : Char :=
  if n < 10 then Char.ofNat ('0'.toNat + n) else Char.ofNat ('A'.toNat + (n - 10))

/-- A byte after a percent sign. -/
def percentByte (b : UInt8) : List Char :=
  ['%', upperHexDigit (b.toNat / 16), upperHexDigit (b.toNat % 16)]

/-- The bytes of a character, each after a percent sign. -/
def percentChar (c : Char) : List Char :=
  (String.utf8EncodeChar c).flatMap percentByte

/-- Characters that no part of an address gives a meaning. -/
def isUnreserved (c : Char) : Bool :=
  c.isAlphanum || c == '-' || c == '_' || c == '.' || c == '~'

/-- A text as one part of an address. -/
def percentEncode (s : List Char) : List Char :=
  s.flatMap fun c => if isUnreserved c then [c] else percentChar c

end PatchReview.Text
