import PatchReview.Yaml.Character

/-!
# Places in a text

The place of a reader in a YAML text, with its line and its column, which decide the
structure of the text.  A carriage return before a line feed ends a line together with
it.
-/

namespace PatchReview.Yaml

/-- A place in a text. -/
structure Cursor where
  /-- What follows. -/
  rest : List Char
  /-- The number of characters before. -/
  index : Nat := 0
  /-- The number of lines before. -/
  line : Nat := 0
  /-- The number of characters before on the line. -/
  column : Nat := 0
  deriving DecidableEq, Repr

namespace Cursor

/-- The next character. -/
def next? (c : Cursor) : Option Char :=
  c.rest.head?

/-- The character after some further ones. -/
def peek? (c : Cursor) (n : Nat) : Option Char :=
  c.rest[n]?

/-- Go over some characters, none of which ends a line. -/
def skip (c : Cursor) (n : Nat) : Cursor :=
  { c with rest := c.rest.drop n, index := c.index + n, column := c.column + n }

/-- The characters of a class at the front, none of which ends a line, and the place after
them. -/
def takeWhile (c : Cursor) (test : Char → Bool) : List Char × Cursor :=
  let taken := c.rest.takeWhile test
  (taken, c.skip taken.length)

/-- Go over the characters of a class, none of which ends a line. -/
def skipWhile (c : Cursor) (test : Char → Bool) : Cursor :=
  (c.takeWhile test).2

/-- The place after a line end of some characters. -/
def newLine (c : Cursor) (n : Nat) : Cursor :=
  { rest := c.rest.drop n, index := c.index + n, line := c.line + 1, column := 0 }

/-- The line end at the front as a text keeps it, and the place after it: a line feed stands
for all kinds but the line and paragraph separators. -/
def takeBreak (c : Cursor) : List Char × Cursor :=
  match c.rest with
  | '\r' :: '\n' :: _ => (['\n'], c.newLine 2)
  | d :: _ =>
    if d = '\u2028' ∨ d = '\u2029' then ([d], c.newLine 1)
    else if isBreak d then (['\n'], c.newLine 1)
    else ([], c)
  | [] => ([], c)

/-- Whether a line starts here with three dashes or three dots that stand alone. -/
def isDocumentMark (c : Cursor) (mark : Char) : Bool :=
  c.column == 0 && [mark, mark, mark].isPrefixOf c.rest && isBlankOrEnd (c.peek? 3)

/-- Whether a line starts here with the mark of the start or the end of a document. -/
def atDocumentMark (c : Cursor) : Bool :=
  c.isDocumentMark '-' || c.isDocumentMark '.'

/-- Go over a comment, if there is one. -/
def skipComment (c : Cursor) : Cursor :=
  if c.next? = some '#' then c.skipWhile (!isBreak ·) else c

end Cursor

/-! ## Between words -/

/-- What stands between two words of a text: blanks, or at least one line end. -/
structure Gap where
  /-- The blanks, if there is no line end. -/
  blanks : List Char := []
  /-- The first line end. -/
  first : Option (List Char) := none
  /-- The further line ends. -/
  more : List Char := []

namespace Gap

/-- What a gap is read as: a single line end as a space. -/
def text (g : Gap) : List Char :=
  match g.first with
  | none => g.blanks
  | some ['\n'] => if g.more = [] then [' '] else g.more
  | some first => first ++ g.more

/-- Add a blank; after a line end it does not count. -/
def addBlank (g : Gap) (c : Char) : Gap :=
  if g.first.isSome then g else { g with blanks := g.blanks ++ [c] }

/-- Add a line end. -/
def addBreak (g : Gap) (s : List Char) : Gap :=
  match g.first with
  | none => { first := some s }
  | some _ => { g with more := g.more ++ s }

/-- Read the rest of a gap.  After a line end no tab may stand before the column
`margin`. -/
def read (margin : Int) : (fuel : Nat) → Gap → Cursor → Option (Gap × Cursor)
  | 0, _, _ => none
  | fuel + 1, g, c =>
    match c.next? with
    | none => some (g, c)
    | some d =>
      if Text.isLineBlank d then
        if g.first.isSome ∧ c.column < margin ∧ d = '\t' then none
        else read margin fuel (g.addBlank d) (c.skip 1)
      else if isBreak d then
        let (s, c) := c.takeBreak
        read margin fuel (g.addBreak s) c
      else some (g, c)

end Gap

end PatchReview.Yaml
