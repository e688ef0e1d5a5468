import PatchReview.Text.Base
import PatchReview.Text.Blank

/-!
# Classes of characters

Characters that several notations treat alike: those of names without quotes, those that may
stand in quotes as they are, and blanks within a line.  Letters of the ASCII alphabet in either
case.

Main statements:

- `toNat_of_isNameChar` and `isBlank_of_isNameChar`: where the characters of names lie.
- `isNameChar_of_isHexDigit`: hexadecimal digits are among them.
- `toNat_toLower`: the number of the small letter of a character.
- `toLower_eq_iff` and `toLower_eq_iff_of_lt`: the characters whose small letter is a given one.
-/

namespace PatchReview.Text

/-- The characters of names and keys without quotes: letters, digits, underscores and dashes. -/
def isNameChar (c : Char) : Bool :=
  c.isAlphanum || c == '_' || c == '-'

/-- Whether a character may stand in quotes as it is: a tab, or no control character. -/
def isPlain (c : Char) : Bool :=
  c == '\t' || (' ' ≤ c && c != '\x7f')

/-- Blanks within a line. -/
def isLineBlank (c : Char) : Bool :=
  c == ' ' || c == '\t'

/-! ## Characters of names -/

/-- The characters of names lie between the dash and the last letter. -/
theorem toNat_of_isNameChar {c : Char} (h : isNameChar c = true) :
    45 ≤ c.toNat ∧ c.toNat ≤ 122 := by
  delta isNameChar Char.isAlphanum Char.isAlpha Char.isUpper Char.isLower Char.isDigit at h
  simp only [Bool.or_eq_true, Bool.and_eq_true, decide_eq_true_eq, beq_iff_eq, ge_iff_le,
    UInt32.le_iff_toNat_le] at h
  rcases h with (((h | h) | h) | rfl) | rfl
  · exact ⟨Nat.le_trans (by decide) h.1, Nat.le_trans h.2 (by decide)⟩
  · exact ⟨Nat.le_trans (by decide) h.1, Nat.le_trans h.2 (by decide)⟩
  · exact ⟨Nat.le_trans (by decide) h.1, Nat.le_trans h.2 (by decide)⟩
  · decide
  · decide

/-- The characters of names are not blank. -/
theorem isBlank_of_isNameChar {c : Char} (h : isNameChar c = true) : isBlank c = false := by
  have hbounds := toNat_of_isNameChar h
  simp only [isBlank, Bool.or_eq_false_iff, Bool.and_eq_false_iff, decide_eq_false_iff_not,
    beq_eq_false_iff_ne]
  omega

/-- Digits are not blank. -/
theorem isBlank_of_isDigit {c : Char} (h : c.isDigit = true) : isBlank c = false := by
  apply isBlank_of_isNameChar
  simp [isNameChar, Char.isAlphanum, h]

/-- Hexadecimal digits are characters of names. -/
theorem isNameChar_of_isHexDigit {c : Char} (h : isHexDigit c = true) : isNameChar c = true := by
  delta isHexDigit Char.isDigit at h
  delta isNameChar Char.isAlphanum Char.isAlpha Char.isUpper Char.isLower Char.isDigit
  simp only [Bool.or_eq_true, Bool.and_eq_true, decide_eq_true_eq, ge_iff_le, Char.le_def,
    UInt32.le_iff_toNat_le, Char.reduceVal, UInt32.reduceToNat] at h ⊢
  omega

/-! ## Letter case -/

/-- The number of the small letter of a character. -/
theorem toNat_toLower (c : Char) :
    c.toLower.toNat = if 65 ≤ c.toNat ∧ c.toNat ≤ 90 then c.toNat + 32 else c.toNat := by
  have hval : c.val.toNat = c.toNat := rfl
  have hrange : (c.val ≥ 'A'.val ∧ c.val ≤ 'Z'.val) ↔ 65 ≤ c.toNat ∧ c.toNat ≤ 90 := by
    simp [UInt32.le_iff_toNat_le, hval]
  unfold Char.toLower
  split
  · next h =>
    rw [if_pos (hrange.1 h)]
    have hnat := hrange.1 h
    change (c.val + 32).toNat = _
    rw [UInt32.toNat_add, hval]
    simp
    omega
  · next h => rw [if_neg (mt hrange.2 h)]

/-- A small letter is that of itself and of its capital. -/
theorem toLower_eq_iff {c letter capital : Char}
    (hcapital : 65 ≤ capital.toNat ∧ capital.toNat ≤ 90)
    (hletter : letter.toNat = capital.toNat + 32) :
    c.toLower = letter ↔ c = letter ∨ c = capital := by
  rw [← Char.toNat_inj, ← Char.toNat_inj, ← Char.toNat_inj, toNat_toLower]
  split <;> omega

/-- A character in front of the letters is its own small letter, and that of no other. -/
theorem toLower_eq_iff_of_lt {c d : Char} (hd : d.toNat < 65) : c.toLower = d ↔ c = d := by
  rw [← Char.toNat_inj, ← Char.toNat_inj, toNat_toLower]
  split <;> omega

end PatchReview.Text
