import PatchReview.Rules.Finding
import PatchReview.Text.Lines
import PatchReview.Text.Split
import PatchReview.Warning

/-!
# Patches and diff positions

A comment is placed by diff position: the number of a line counted from the line
below the first hunk header of a file's patch.  Every line below it takes a
position, further hunk headers as well; the lines of the file header above it do
not.

Positions are natural numbers here and numbers of 32 bits in a posted comment: the two agree
on patches with fewer than 2³² lines below the first hunk header.

Main statement:

- `Patch.positionOf_eq_none_iff`: exactly the numbers of added lines have a
  position.
-/

namespace PatchReview

/-- An added line of a patch. -/
structure AddedLine where
  /-- Its text, without the plus sign. -/
  text : String
  /-- Its diff position, without a bound; below 2³² on patches with fewer lines. -/
  position : Nat
  deriving DecidableEq, Repr

/-- The added lines of a patch, in order. -/
structure Patch where
  /-- The added lines. -/
  lines : List AddedLine
  deriving DecidableEq, Repr

namespace Patch

/-- Whether a line starts with the given text. -/
def startsWith (head : String) (line : List Char) : Bool :=
  (Text.dropLeading head.toList line).isSome

/-- Whether a line belongs to a file header. -/
def isFileHeader (line : List Char) : Bool :=
  ["diff ", "index ", "--- ", "+++ ", "new file mode", "deleted file mode"].any
    (startsWith · line)

/-- The lines below the first hunk header.  A patch without one starts at its first
line that does not belong to a file header. -/
def hunkLines : List (List Char) → List (List Char)
  | [] => []
  | line :: rest =>
    if startsWith "@@" line then rest
    else if isFileHeader line then hunkLines rest
    else line :: rest

/-- The text of an added line; a line that starts with three plus signs is none. -/
def addedText? (line : List Char) : Option (List Char) :=
  match line with
  | '+' :: '+' :: '+' :: _ => none
  | '+' :: text => some text
  | _ => none

/-- The added lines among the lines from a position on.  The position grows by one with every
line and does not run over: its bound of 2³² is left to the length of the patch. -/
def addedFrom (position : Nat) : List (List Char) → List AddedLine
  | [] => []
  | line :: rest =>
    match addedText? line with
    | some text => ⟨String.ofList text, position⟩ :: addedFrom (position + 1) rest
    | none => addedFrom (position + 1) rest

/-- Read a patch. -/
def ofText (patch : String) : Patch :=
  ⟨addedFrom 1 (hunkLines (Text.lines patch.toList))⟩

/-- The texts of the added lines. -/
def addedLines (p : Patch) : List String :=
  p.lines.map (·.text)

/-- The diff position of an added line, counted from one. -/
def positionOf (p : Patch) (line : Nat) : Option Nat :=
  if line = 0 then none else (p.lines[line - 1]?).map (·.position)

/-- Give findings their diff positions; one that is outside of the patch is left out
with a warning. -/
def anchor (p : Patch) : List LineFinding → Logged (List Finding)
  | [] => pure []
  | f :: rest =>
    match p.positionOf f.line with
    | some position => do
      let others ← anchor p rest
      pure (f.atPosition position :: others)
    | none => do
      Logged.warn .findingOutsidePatch
      anchor p rest

theorem positionOf_eq_none_iff (p : Patch) (line : Nat) :
    p.positionOf line = none ↔ line = 0 ∨ p.lines.length < line := by
  by_cases h : line = 0
  · simp [positionOf, h]
  · simp only [positionOf, if_neg h, Option.map_eq_none_iff, List.getElem?_eq_none_iff]
    omega

end Patch

end PatchReview
