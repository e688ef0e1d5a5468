import PatchReview.Text.Number

/-!
# Decimal numbers in a text

A decimal number has digits with or without a point among them, and maybe an
exponent.  Numbers that double precision cannot hold are told apart by their exact
value.
-/

namespace PatchReview.Text

/-- The least number that is too large for double precision. -/
def realBound : Nat :=
  Nat.pow 2 1024 - Nat.pow 2 970

/-- Whether double precision can hold `mantissa · 10 ^ exponent`, if only nearly. -/
def inRealRange (mantissa : Nat) (exponent : Int) : Bool :=
  if mantissa = 0 then true
  else match exponent with
    | .ofNat e => if e > 400 then false else mantissa * Nat.pow 10 e < realBound
    | .negSucc e => if e > 100000 then true else mantissa < realBound * Nat.pow 10 (e + 1)

/-- The parts of a decimal number. -/
structure Decimal where
  /-- The digits before the point. -/
  whole : List Char
  /-- The digits after the point; none if there is no point. -/
  fraction : Option (List Char)
  /-- The exponent, if one is written. -/
  exponent : Option Int

/-- Whether double precision can hold a decimal number. -/
def Decimal.inRange (d : Decimal) : Bool :=
  let fraction := d.fraction.getD []
  inRealRange (digitsValue (d.whole ++ fraction)) (d.exponent.getD 0 - fraction.length)

/-- Read a text that is an exponent: a sign or none, and digits. -/
def readExponent (s : List Char) : Option Int :=
  match s with
  | '+' :: rest => (readDigits rest).map Int.ofNat
  | '-' :: rest => (readDigits rest).map fun n => -Int.ofNat n
  | _ => (readDigits s).map Int.ofNat

/-- Read a text that is an unsigned decimal number: digits on at least one side of the
point, and an exponent after `e` or `E`. -/
def readDecimal (s : List Char) : Option Decimal :=
  let whole := s.takeWhile Char.isDigit
  let rest := s.dropWhile Char.isDigit
  let (fraction, rest) := match rest with
    | '.' :: rest => (some (rest.takeWhile Char.isDigit), rest.dropWhile Char.isDigit)
    | _ => (none, rest)
  if whole.isEmpty && (fraction.getD []).isEmpty then none
  else match rest with
    | [] => some ⟨whole, fraction, none⟩
    | c :: rest =>
      if c = 'e' ∨ c = 'E' then (readExponent rest).map fun e => ⟨whole, fraction, some e⟩
      else none

end PatchReview.Text
