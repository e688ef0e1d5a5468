/-!
# Whole numbers in a text

A number is written with decimal digits, leading zeros allowed.  Before them may
stand a plus sign and, where negative numbers make sense, a minus sign.

Main statements:

- `notMem_toDigits`: the digits of a number are the only characters of its text.
- `readDigits_toDigits`: a number is read back from its digits.
-/

namespace PatchReview.Text

/-- The value of a run of decimal digits. -/
def digitsValue (digits : List Char) : Nat :=
  digits.foldl (fun n c => 10 * n + (c.toNat - '0'.toNat)) 0

/-- Read a text of digits only; it has at least one. -/
def readDigits (s : List Char) : Option Nat :=
  if !s.isEmpty && s.all Char.isDigit then some (digitsValue s) else none

/-- Read a number with an optional plus sign, if it is below `bound`. -/
def readNatBelow (bound : Nat) (s : List Char) : Option Nat :=
  let digits := match s with
    | '+' :: rest => rest
    | _ => s
  (readDigits digits).filter (· < bound)

/-- The numbers of 32 bits are those below this one. -/
def bound32 : Nat :=
  4294967296

/-- The numbers of 64 bits are those below this one. -/
def bound64 : Nat :=
  18446744073709551616

/-- The numbers of 128 bits are those below this one. -/
def bound128 : Nat :=
  340282366920938463463374607431768211456

/-- The signed integers of 64 bits go from minus this number up to below it. -/
def signedBound64 : Nat :=
  9223372036854775808

/-- The signed integers of 128 bits go from minus this number up to below it. -/
def signedBound128 : Nat :=
  170141183460469231731687303715884105728

/-- Whether a number lies in the range of 64-bit signed integers. -/
def isInt64 (i : Int) : Bool :=
  -signedBound64 ≤ i && i < signedBound64

/-- Read a 64-bit signed integer with an optional sign. -/
def readInt64 (s : List Char) : Option Int :=
  let number : Option Int := match s with
    | '-' :: rest => (readDigits rest).map fun n => -Int.ofNat n
    | '+' :: rest => (readDigits rest).map Int.ofNat
    | _ => (readDigits s).map Int.ofNat
  number.filter isInt64

/-! ## The digits of a number -/

/-- The characters of a number are digits. -/
theorem isDigit_of_mem_toDigits {c : Char} {n : Nat} (h : c ∈ Nat.toDigits 10 n) :
    c.isDigit = true :=
  Nat.isDigit_of_mem_toDigits (by decide) (by decide) h

/-- Digits hold no other character. -/
theorem notMem_toDigits {c : Char} (hc : c.isDigit = false) (n : Nat) : c ∉ Nat.toDigits 10 n := by
  intro hmem
  rw [isDigit_of_mem_toDigits hmem] at hc
  cases hc

/-- The digits of a number are read back. -/
theorem readDigits_toDigits (n : Nat) : readDigits (Nat.toDigits 10 n) = some n := by
  have hne : (Nat.toDigits 10 n).isEmpty = false := List.isEmpty_eq_false_iff.2 Nat.toDigits_ne_nil
  have hdigits : (Nat.toDigits 10 n).all Char.isDigit = true :=
    List.all_eq_true.2 fun _ hc => isDigit_of_mem_toDigits hc
  have hvalue : digitsValue (Nat.toDigits 10 n) = n :=
    Nat.ofDigitChars_toDigits (by decide) (by decide)
  rw [readDigits, hne, hdigits, hvalue]
  rfl

end PatchReview.Text
