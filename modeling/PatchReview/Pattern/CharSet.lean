import PatchReview.Text.Blank
import PatchReview.Unicode.Fold
import PatchReview.Unicode.Word

/-!
# Sets of characters

The sets that a pattern can ask one character to be in, kept as expressions:
ranges, named classes and the operations that a bracketed class has.  A set is
used only through `contains`, and each operation is the Boolean one on
membership.
-/

namespace PatchReview.Pattern

/-- A set of characters. -/
inductive CharSet where
  /-- No character. -/
  | nothing
  /-- The characters from `first` to `last`. -/
  | range (first last : Char)
  /-- Blank characters. -/
  | blank
  /-- Decimal digits of any script. -/
  | digit
  /-- Word characters of any script. -/
  | word
  /-- The code points of a table. -/
  | table (t : Unicode.Table)
  /-- Every character that is not in the set. -/
  | compl (s : CharSet)
  /-- Characters in at least one of the two sets. -/
  | union (s t : CharSet)
  /-- Characters in both sets. -/
  | inter (s t : CharSet)
  /-- Characters in the first set only. -/
  | diff (s t : CharSet)
  /-- Characters in exactly one of the two sets. -/
  | symDiff (s t : CharSet)
  /-- Characters of which a case variant is in the set. -/
  | folded (s : CharSet)
  /-- The same for the case variants of ASCII letters alone. -/
  | foldedAscii (s : CharSet)

namespace CharSet

/-- The ASCII letter of the other case; other characters stay as they are. -/
def otherAsciiCase (c : Char) : Char :=
  if c.isUpper then c.toLower else if c.isLower then c.toUpper else c

/-- Membership. -/
def contains : CharSet → Char → Bool
  | .nothing, _ => false
  | .range first last, c => first.toNat ≤ c.toNat && c.toNat ≤ last.toNat
  | .blank, c => Text.isBlank c
  | .digit, c => Unicode.isDecimalDigit c
  | .word, c => Unicode.isWord c
  | .table t, c => t.contains c.toNat
  | .compl s, c => !s.contains c
  | .union s t, c => s.contains c || t.contains c
  | .inter s t, c => s.contains c && t.contains c
  | .diff s t, c => s.contains c && !t.contains c
  | .symDiff s t, c => s.contains c != t.contains c
  | .folded s, c => (Unicode.caseOrbit c).any s.contains
  | .foldedAscii s, c => s.contains c || s.contains (otherAsciiCase c)

/-- The set of one character. -/
def single (c : Char) : CharSet :=
  .range c c

/-- Every character. -/
def all : CharSet :=
  .compl .nothing

/-- The characters of a list. -/
def ofList (cs : List Char) : CharSet :=
  cs.foldr (fun c s => .union (single c) s) .nothing

/-- The union of a list of sets. -/
def unionAll (sets : List CharSet) : CharSet :=
  match sets with
  | [] => .nothing
  | [s] => s
  | s :: rest => .union s (unionAll rest)

@[simp] theorem contains_single (c d : Char) : (single c).contains d = (c == d) := by
  have key : (c.toNat ≤ d.toNat ∧ d.toNat ≤ c.toNat) ↔ c = d :=
    ⟨fun h => Char.toNat_inj.mp (Nat.le_antisymm h.1 h.2), fun h => by simp [h]⟩
  rw [Bool.eq_iff_iff]
  simpa [single, contains] using key

@[simp] theorem contains_all (c : Char) : all.contains c = true := rfl

@[simp] theorem contains_ofList (cs : List Char) (d : Char) :
    (ofList cs).contains d = cs.contains d := by
  induction cs with
  | nil => rfl
  | cons c cs ih =>
    have : (ofList (c :: cs)).contains d = ((single c).contains d || (ofList cs).contains d) := rfl
    rw [this, ih, contains_single, List.contains_cons]
    simp [Bool.beq_comm]

end CharSet

end PatchReview.Pattern
