import PatchReview.Yaml.Cursor

/-!
# Text in blocks

After a bar or a greater-than sign the lines that are indented further are one text.
After a bar they are kept as they are; after a greater-than sign a single line end
between two lines that do not start with a blank is read as a space.
-/

namespace PatchReview.Yaml.Token

/-- What becomes of the line ends at the end of a block. -/
inductive Chomping where
  /-- None is kept. -/
  | strip
  /-- One is kept. -/
  | clip
  /-- All are kept. -/
  | keep
  deriving DecidableEq, Repr

/-- What the first line of a block says. -/
structure BlockHeader where
  chomping : Chomping := .clip
  /-- By how much the block is indented, if that is said. -/
  indentation : Option Nat := none

/-- The chomping that a sign stands for. -/
def chomping? : Option Char → Option Chomping
  | some '+' => some .keep
  | some '-' => some .strip
  | _ => none

/-- The value of a digit from one to nine. -/
def indentation? : Option Char → Option Nat
  | some c => if '1' ≤ c ∧ c ≤ '9' then some (c.toNat - '0'.toNat) else none
  | none => none

/-- Read the marks after the sign that starts a block: a sign and a digit, in any order. -/
def readBlockMarks (c : Cursor) : BlockHeader × Cursor :=
  match chomping? c.next? with
  | some chomping =>
    match indentation? (c.peek? 1) with
    | some n => (⟨chomping, some n⟩, c.skip 2)
    | none => (⟨chomping, none⟩, c.skip 1)
  | none =>
    match indentation? c.next? with
    | some n =>
      match chomping? (c.peek? 1) with
      | some chomping => (⟨chomping, some n⟩, c.skip 2)
      | none => (⟨.clip, some n⟩, c.skip 1)
    | none => ({}, c)

/-- Read the first line of a block, from its sign. -/
def readBlockHeader (c : Cursor) : Option (BlockHeader × Cursor) :=
  let (header, c) := readBlockMarks (c.skip 1)
  let c := (c.skipWhile Text.isLineBlank).skipComment
  if isBreakOrEnd c.next? then some (header, c.takeBreak.2) else none

/-- Read empty lines, and the indentation of the line after them.  `indent` is that of the
block, or zero if it is not known yet; no tab stands in it.  Answers the line ends, the
largest column and the place after them. -/
def readEmptyLines (indent : Nat) :
    (fuel : Nat) → (breaks : List Char) → (widest : Nat) → Cursor →
      Option (List Char × Nat × Cursor)
  | 0, _, _, _ => none
  | fuel + 1, breaks, widest, c =>
    let spaces := (c.rest.takeWhile (· == ' ')).length
    let c := c.skip (if indent = 0 then spaces else min spaces (indent - c.column))
    let widest := max widest c.column
    if (indent = 0 ∨ c.column < indent) ∧ c.next? = some '\t' then none
    else if c.next?.any isBreak then
      let (s, c) := c.takeBreak
      readEmptyLines indent fuel (breaks ++ s) widest c
    else some (breaks, widest, c)

/-- The text of a block so far: the lines, the end of the last line and the empty lines
after it, and whether the last line starts with a blank. -/
structure BlockText where
  text : List Char := []
  ending : List Char := []
  empties : List Char := []
  startsBlank : Bool := false

/-- The text before a further line, whose first character decides whether the line end
before it is read as a space. -/
def BlockText.beforeLine (folded : Bool) (b : BlockText) (startsBlank : Bool) : List Char :=
  if folded ∧ b.ending = ['\n'] ∧ !b.startsBlank ∧ !startsBlank then
    b.text ++ (if b.empties = [] then [' '] else b.empties)
  else b.text ++ b.ending ++ b.empties

/-- Read the remaining lines of a block that is indented by `indent`. -/
def readBlockLines (folded : Bool) (indent : Nat) :
    (fuel : Nat) → BlockText → Cursor → Option (BlockText × Cursor)
  | 0, _, _ => none
  | fuel + 1, b, c =>
    if c.column ≠ indent ∨ c.rest = [] then some (b, c)
    else
      let startsBlank := c.next?.any Text.isLineBlank
      let (line, c) := c.takeWhile (!isBreak ·)
      let text := b.beforeLine folded startsBlank ++ line
      let (ending, c) := c.takeBreak
      match readEmptyLines indent (c.rest.length + 1) [] 0 c with
      | none => none
      | some (empties, _, c) => readBlockLines folded indent fuel ⟨text, ending, empties, startsBlank⟩ c

/-- Read a block, from its sign; the block around it is indented by `parent`, or by -1. -/
def readBlock (folded : Bool) (parent : Int) (c : Cursor) : Option (List Char × Cursor) :=
  match readBlockHeader c with
  | none => none
  | some (header, c) =>
    let known := (header.indentation.map fun n => n + parent.toNat).getD 0
    match readEmptyLines known (c.rest.length + 1) [] 0 c with
    | none => none
    | some (empties, widest, c) =>
      let indent := if known = 0 then max widest (max (parent + 1).toNat 1) else known
      match readBlockLines folded indent (c.rest.length + 1) { empties } c with
      | none => none
      | some (b, c) =>
        let ending := match header.chomping with
          | .strip => []
          | .clip => b.ending
          | .keep => b.ending ++ b.empties
        some (b.text ++ ending, c)

end PatchReview.Yaml.Token
