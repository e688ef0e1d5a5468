import PatchReview.Config.Value
import PatchReview.Text.Base
import PatchReview.Text.Decimal
import PatchReview.Toml.Quoted

/-!
# Numbers and dates in TOML

Whole numbers have 64 bits and may be written in base 16, 8 and 2; single underscores
may stand between digits.  Dates and times are checked and kept as they are spelled.
-/

namespace PatchReview.Toml

open Config (Value)
open Text (Reader)

/-- Read digits of a class with single underscores between them; the underscores do not
count.  There is at least one digit. -/
def readDigitRun (isDigit : Char → Bool) : Reader (List Char)
  | c :: '_' :: rest =>
    if !isDigit c then none
    else match readDigitRun isDigit rest with
      | some (digits, rest) => some (c :: digits, rest)
      | none => some ([c], '_' :: rest)
  | c :: rest =>
    if !isDigit c then none
    else match readDigitRun isDigit rest with
      | some (digits, rest) => some (c :: digits, rest)
      | none => some ([c], rest)
  | [] => none

/-- Read a sign, if there is one: whether it is a minus. -/
def readSign : List Char → Bool × List Char
  | '-' :: rest => (true, rest)
  | '+' :: rest => (false, rest)
  | cs => (false, cs)

/-- Read decimal digits without a needless zero at the front. -/
def readWhole : Reader (List Char)
  | '0' :: rest => some (['0'], rest)
  | cs => readDigitRun Char.isDigit cs

/-- Keep a whole number of 64 bits. -/
def wholeNumber (i : Int) (rest : List Char) : Option (Value × List Char) :=
  if Text.isInt64 i then some (.int i, rest) else none

/-- Read digits in a base. -/
def readBased (base : Nat) (cs : List Char) : Option (Value × List Char) := do
  let (digits, rest) ← readDigitRun (fun c => (Text.digitIn base c).isSome) cs
  let n ← Text.readInBase base digits
  wholeNumber n rest

/-- Read a whole number. -/
def readInteger (cs : List Char) : Option (Value × List Char) :=
  match cs with
  | '0' :: 'x' :: rest => readBased 16 rest
  | '0' :: 'o' :: rest => readBased 8 rest
  | '0' :: 'b' :: rest => readBased 2 rest
  | _ => do
    let (negative, rest) := readSign cs
    let (digits, rest) ← readWhole rest
    let n := Int.ofNat (Text.digitsValue digits)
    wholeNumber (if negative then -n else n) rest

/-- Read an exponent. -/
def readExponent : Reader Int
  | c :: rest => do
    if c = 'e' ∨ c = 'E' then
      let (negative, rest) := readSign rest
      let (digits, rest) ← readDigitRun Char.isDigit rest
      let n := Int.ofNat (Text.digitsValue digits)
      pure (if negative then -n else n, rest)
    else none
  | [] => none

/-- Read a number with a point or an exponent, or with both. -/
def readReal (cs : List Char) : Option (Value × List Char) := do
  let (negative, rest) := readSign cs
  match rest with
  | 'i' :: 'n' :: 'f' :: rest => pure (.real, rest)
  | 'n' :: 'a' :: 'n' :: rest => pure (.real, rest)
  | _ =>
    let (whole, rest) ← readWhole rest
    match rest with
    | '.' :: rest =>
      let (fraction, rest) ← readDigitRun Char.isDigit rest
      let (exponent, rest) := match readExponent rest with
        | some (e, rest) => (some e, rest)
        | none => (none, rest)
      let number : Text.Decimal := ⟨whole, some fraction, exponent⟩
      if negative || number.inRange then pure (.real, rest) else none
    | _ =>
      let (exponent, rest) ← readExponent rest
      let number : Text.Decimal := ⟨whole, none, some exponent⟩
      if negative || number.inRange then pure (.real, rest) else none

/-! ## Dates and times -/

/-- Read a number of exactly `count` digits in a range. -/
def readFixed (count low high : Nat) (cs : List Char) : Option (Nat × List Char) :=
  let digits := cs.take count
  let n := Text.digitsValue digits
  if digits.length = count ∧ digits.all Char.isDigit ∧ low ≤ n ∧ n ≤ high then
    some (n, cs.drop count)
  else none

/-- Read a given character. -/
def readChar (c : Char) : Reader Unit
  | d :: rest => if d = c then some ((), rest) else none
  | [] => none

/-- The number of days of a month. -/
def daysIn (year month : Nat) : Nat :=
  let leap := year % 4 = 0 ∧ (year % 100 ≠ 0 ∨ year % 400 = 0)
  if month = 2 then (if leap then 29 else 28)
  else if [4, 6, 9, 11].contains month then 30
  else 31

/-- Read a date. -/
def readDate (cs : List Char) : Option (Unit × List Char) := do
  let (year, rest) ← readFixed 4 0 9999 cs
  let (_, rest) ← readChar '-' rest
  let (month, rest) ← readFixed 2 1 12 rest
  let (_, rest) ← readChar '-' rest
  let (_, rest) ← readFixed 2 1 (daysIn year month) rest
  pure ((), rest)

/-- Read a time of the day. -/
def readTime (cs : List Char) : Option (Unit × List Char) := do
  let (_, rest) ← readFixed 2 0 23 cs
  let (_, rest) ← readChar ':' rest
  let (_, rest) ← readFixed 2 0 59 rest
  let (_, rest) ← readChar ':' rest
  let (_, rest) ← readFixed 2 0 60 rest
  match rest with
  | '.' :: after =>
    let digits := after.takeWhile Char.isDigit
    if digits = [] then none else pure ((), after.drop digits.length)
  | _ => pure ((), rest)

/-- Read an offset from universal time. -/
def readOffset : Reader Unit
  | c :: rest => do
    if c = 'Z' ∨ c = 'z' then pure ((), rest)
    else if c = '+' ∨ c = '-' then
      let (_, rest) ← readFixed 2 0 23 rest
      let (_, rest) ← readChar ':' rest
      let (_, rest) ← readFixed 2 0 59 rest
      pure ((), rest)
    else none
  | [] => none

/-- Read a time after a date, with an offset or without. -/
def readTimeOfDate : Reader Unit
  | c :: rest => do
    if c = 'T' ∨ c = 't' ∨ c = ' ' then
      let (_, rest) ← readTime rest
      pure ((), ((readOffset rest).map (·.2)).getD rest)
    else none
  | [] => none

/-- Read a date, a time or both. -/
def readMoment (cs : List Char) : Option (Value × List Char) := do
  let rest ← match readDate cs with
    | some (_, rest) => some (((readTimeOfDate rest).map (·.2)).getD rest)
    | none => (readTime cs).map (·.2)
  let spelling := String.ofList (cs.take (cs.length - rest.length))
  pure (.table [("$__toml_private_datetime", .text spelling)], rest)

/-- Read a number, a date or a time. -/
def readNumber (cs : List Char) : Option (Value × List Char) :=
  ((readMoment cs).or (readReal cs)).or (readInteger cs)

end PatchReview.Toml
