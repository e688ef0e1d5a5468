import PatchReview.Text.Base
import PatchReview.Text.Decimal

/-!
# Plain scalars of YAML

A scalar without quotes is null, a truth value or a number if it is spelled like
one, and a text otherwise.  Numbers may be written in base 16, 8 and 2; a number
with a leading zero is a text.
-/

namespace PatchReview.Yaml

/-- What a plain scalar is. -/
inductive Scalar where
  | null
  | bool (b : Bool)
  | int (i : Int)
  | real
  | text
  deriving DecidableEq, Repr

/-- Whether a scalar is a spelling of null. -/
def isNull (s : List Char) : Bool :=
  [[], ['~'], ['n', 'u', 'l', 'l'], ['N', 'u', 'l', 'l'], ['N', 'U', 'L', 'L']].contains s

/-- The truth value that a scalar spells. -/
def readBool (s : List Char) : Option Bool :=
  if [['t', 'r', 'u', 'e'], ['T', 'r', 'u', 'e'], ['T', 'R', 'U', 'E']].contains s then some true
  else if [['f', 'a', 'l', 's', 'e'], ['F', 'a', 'l', 's', 'e'], ['F', 'A', 'L', 'S', 'E']].contains s
  then some false
  else none

/-- Read a number after a base mark: `0x`, `0o` or `0b`. -/
def readMarked (s : List Char) : Option Nat :=
  match s with
  | '0' :: 'x' :: rest => Text.readInBase 16 rest
  | '0' :: 'o' :: rest => Text.readInBase 8 rest
  | '0' :: 'b' :: rest => Text.readInBase 2 rest
  | _ => none

/-- Whether a scalar is digits with a leading zero, which do not count as a number. -/
def hasLeadingZero (s : List Char) : Bool :=
  let bare := match s with
    | '-' :: rest => rest
    | '+' :: rest => rest
    | _ => s
  match bare with
  | '0' :: c :: rest => (c :: rest).all Char.isDigit
  | _ => false

/-- The integer that a scalar spells, in the range of 128 bits. -/
def readInt (s : List Char) : Option Int :=
  let unsigned (digits : List Char) : Option Int :=
    (((readMarked digits).or (if hasLeadingZero s then none else Text.readInBase 10 digits)).filter
      (· < Text.bound128)).map Int.ofNat
  match s with
  | '-' :: digits =>
    (((readMarked digits).or (if hasLeadingZero s then none else Text.readInBase 10 digits)).filter
      (· ≤ Text.signedBound128)).map fun n => -Int.ofNat n
  | '+' :: digits => unsigned digits
  | _ => unsigned s

/-- Whether a scalar, without its sign, names infinity. -/
def isInfinity (s : List Char) : Bool :=
  [['.', 'i', 'n', 'f'], ['.', 'I', 'n', 'f'], ['.', 'I', 'N', 'F']].contains s

/-- Whether a scalar is spelled like a number that is no integer. -/
def isReal (s : List Char) : Bool :=
  let finite (digits : List Char) : Bool :=
    match Text.readDecimal digits with
    | some d => d.inRange
    | none => false
  match s with
  | '-' :: rest => isInfinity rest || finite rest
  | '+' :: rest => isInfinity rest || finite rest
  | _ =>
    isInfinity s || [['.', 'n', 'a', 'n'], ['.', 'N', 'a', 'N'], ['.', 'N', 'A', 'N']].contains s
      || finite s

/-- What a plain scalar is. -/
def Scalar.ofPlain (s : List Char) : Scalar :=
  if isNull s then .null
  else match readBool s with
    | some b => .bool b
    | none =>
      match readInt s with
      | some i => .int i
      | none => if !hasLeadingZero s && isReal s then .real else .text

end PatchReview.Yaml
