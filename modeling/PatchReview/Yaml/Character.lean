import PatchReview.Text.Character

/-!
# Characters of YAML

Line ends, the brackets, and the characters that a YAML text may hold.
-/

namespace PatchReview.Yaml

/-- Characters that end a line. -/
def isBreak (c : Char) : Bool :=
  c == '\n' || c == '\r' || c == '\u0085' || c == '\u2028' || c == '\u2029'

/-- Whether there is no character, or one that ends a line. -/
def isBreakOrEnd : Option Char → Bool
  | none => true
  | some c => isBreak c

/-- Whether there is no character, or a blank one, or one that ends a line. -/
def isBlankOrEnd : Option Char → Bool
  | none => true
  | some c => Text.isLineBlank c || isBreak c

/-- The brackets and the comma, which have a meaning within brackets. -/
def isFlowMark (c : Char) : Bool :=
  c == ',' || c == '[' || c == ']' || c == '\x7b' || c == '\x7d'

/-- Characters that can be written as they are. -/
def isShown (c : Char) : Bool :=
  let n := c.toNat
  c == '\n' || (0x20 ≤ n && n ≤ 0x7E)
    || (0xA0 ≤ n && n != 0xFEFF && n != 0xFFFE && n != 0xFFFF)

/-- Characters that a text may hold. -/
def isAllowed (c : Char) : Bool :=
  isShown c || c == '\t' || c == '\r' || c == '\u0085'

end PatchReview.Yaml
