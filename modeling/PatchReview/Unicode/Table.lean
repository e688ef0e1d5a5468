import PatchReview.Text.Split

/-!
# Tables of code point ranges

A property of characters is given by the ranges of the code points that have it.
A table is written as text, in hexadecimal and in increasing order, such as
`30-39 41-5A 5F 61-7A`, and looked up by halving.
-/

namespace PatchReview.Unicode

/-- The value of a hexadecimal digit; other characters count as zero. -/
def hexDigit (c : Char) : Nat :=
  if c.isDigit then c.toNat - '0'.toNat
  else if 'A' ≤ c ∧ c ≤ 'F' then c.toNat - 'A'.toNat + 10
  else if 'a' ≤ c ∧ c ≤ 'f' then c.toNat - 'a'.toNat + 10
  else 0

/-- The number that hexadecimal digits spell. -/
def hexNumber (digits : List Char) : Nat :=
  digits.foldl (fun n c => 16 * n + hexDigit c) 0

/-- Ranges of code points, both ends included, in increasing order. -/
structure Table where
  /-- The first and the last code point of each range. -/
  ranges : Array (Nat × Nat)

namespace Table

/-- Read one entry, `41-5A` or `5F`. -/
def entry (text : List Char) : Nat × Nat :=
  let low := text.takeWhile (· ≠ '-')
  match text.dropWhile (· ≠ '-') with
  | [] => (hexNumber low, hexNumber low)
  | _ :: high => (hexNumber low, hexNumber high)

/-- The words of a text, parted by spaces and line ends. -/
def words (text : String) : List (List Char) :=
  (Text.fields (fun c => c == ' ' || c == '\n') text.toList).filter (· ≠ [])

/-- Read a table from its text. -/
def ofText (text : String) : Table :=
  ⟨((words text).map entry).toArray⟩

/-- Look for `n` in the ranges with an index from `low` up to but not including
`high`. -/
def search (ranges : Array (Nat × Nat)) (n low high : Nat) : Bool :=
  if low < high then
    let middle := (low + high) / 2
    match ranges[middle]? with
    | none => false
    | some (first, last) =>
      if n < first then search ranges n low middle
      else if last < n then search ranges n (middle + 1) high
      else true
  else false
termination_by high - low

/-- Whether a code point lies in one of the ranges. -/
def contains (t : Table) (n : Nat) : Bool :=
  search t.ranges n 0 t.ranges.size

end Table

end PatchReview.Unicode
