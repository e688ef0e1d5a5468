import PatchReview.Yaml.Character
import PatchReview.Yaml.Scalar

/-!
# Writing YAML

Flat records, and lists of them, are written in the block notation.  A text is
written plain where it reads back as that text, in a literal block if it has line
feeds, and otherwise in quotes.
-/

namespace PatchReview.Yaml

/-- How a text is written. -/
inductive Style where
  | plain
  | singleQuoted
  | doubleQuoted
  | literal
  deriving DecidableEq, Repr

/-- Whether the first character of a text gives the text a meaning of its own. -/
def startsSpecial (s : List Char) : Bool :=
  match s with
  | [] => false
  | c :: rest =>
    ['-', '-', '-'].isPrefixOf s || ['.', '.', '.'].isPrefixOf s
      || ['#', ',', '[', ']', '\x7b', '\x7d', '&', '*', '!', '|', '>', '\'', '"', '%', '@',
        '\x60'].contains c
      || (['-', '?', ':'].contains c && isBlankOrEnd rest.head?)

/-- Whether a later character does: a colon before a blank, or a hash after one.
`before` is the character in front of the text. -/
def holdsSpecial (before : Char) : List Char → Bool
  | [] => false
  | c :: rest =>
    (c == ':' && isBlankOrEnd rest.head?) || (c == '#' && isBlankOrEnd (some before))
      || holdsSpecial c rest

/-- Whether a character of the first class is followed by one of the second. -/
def holdsPair (first second : Char → Bool) : List Char → Bool
  | c :: d :: rest => (first c && second d) || holdsPair first second (d :: rest)
  | _ => false

/-- Whether the first or the last character is of a class. -/
def atEnds (test : Char → Bool) (s : List Char) : Bool :=
  s.head?.any test || s.getLast?.any test

/-- Whether a text can be written plain. -/
def allowsPlain (s : List Char) : Bool :=
  s.all isShown && !s.any isBreak && !atEnds (· == ' ') s && !startsSpecial s
    && (match s with
      | [] => true
      | c :: rest => !holdsSpecial c rest)

/-- Whether a text can be written in single quotes. -/
def allowsSingleQuotes (s : List Char) : Bool :=
  s.all isShown && !holdsPair isBreak (· == ' ') s && !holdsPair (· == ' ') isBreak s

/-- Whether a text can be written as a literal block. -/
def allowsLiteral (s : List Char) : Bool :=
  s.all isShown && s.getLast? != some ' ' && !holdsPair (· == ' ') isBreak s

/-- Whether a plain text would be taken for something else, by some readers at least. -/
def isAmbiguous (s : List Char) : Bool :=
  let lower := s.map Char.toLower
  Scalar.ofPlain s != .text || isNull lower || (readBool lower).isSome || hasLeadingZero s

/-- The style of a text. -/
def styleOf (s : List Char) : Style :=
  if s.contains '\n' then
    if allowsLiteral s then .literal else .doubleQuoted
  else if !isAmbiguous s && allowsPlain s then .plain
  else if allowsSingleQuotes s then .singleQuoted
  else .doubleQuoted

/-- Put a margin at the start of every line that has characters. -/
def indentLines (margin : List Char) : (atStart : Bool) → List Char → List Char
  | _, [] => []
  | atStart, c :: rest =>
    if isBreak c then c :: indentLines margin true rest
    else (if atStart then margin else []) ++ c :: indentLines margin false rest

/-- A hexadecimal number in upper case with a fixed number of digits. -/
def fixedHex : Nat → Nat → List Char
  | 0, _ => []
  | width + 1, n =>
    let d := n / 16 ^ width % 16
    (if d < 10 then Char.ofNat ('0'.toNat + d) else Char.ofNat ('A'.toNat + (d - 10)))
      :: fixedHex width n

/-- A character within double quotes. -/
def escapeChar (c : Char) : List Char :=
  let n := c.toNat
  if n = 0 then ['\\', '0']
  else if n = 0x07 then ['\\', 'a']
  else if n = 0x08 then ['\\', 'b']
  else if n = 0x09 then ['\\', 't']
  else if n = 0x0A then ['\\', 'n']
  else if n = 0x0B then ['\\', 'v']
  else if n = 0x0C then ['\\', 'f']
  else if n = 0x0D then ['\\', 'r']
  else if n = 0x1B then ['\\', 'e']
  else if c = '"' then ['\\', '"']
  else if c = '\\' then ['\\', '\\']
  else if n = 0x85 then ['\\', 'N']
  else if n = 0x2028 then ['\\', 'L']
  else if n = 0x2029 then ['\\', 'P']
  else if isShown c then [c]
  else if n ≤ 0xFF then ['\\', 'x'] ++ fixedHex 2 n
  else if n ≤ 0xFFFF then ['\\', 'u'] ++ fixedHex 4 n
  else ['\\', 'U'] ++ fixedHex 8 n

/-- The marks after the bar of a literal block: the indentation if the text starts with
a blank, and what becomes of the line ends at its end. -/
def literalMarks (s : List Char) : List Char :=
  let indentation := match s.head? with
    | some c => if c = ' ' ∨ isBreak c then ['2'] else []
    | none => []
  let ending := match s.reverse with
    | [] => ['-']
    | [c] => if isBreak c then ['+'] else ['-']
    | c :: d :: _ => if !isBreak c then ['-'] else if isBreak d then ['+'] else []
  indentation ++ ending

/-- A text; `margin` stands before each of its further lines. -/
def printText (margin : List Char) (s : List Char) : List Char :=
  match styleOf s with
  | .plain => s
  | .singleQuoted =>
    let doubled := s.flatMap fun c => if c = '\'' then ['\'', '\''] else [c]
    let body := indentLines margin false doubled
    let closing := if s.getLast?.any isBreak then margin else []
    '\'' :: body ++ closing ++ ['\'']
  | .doubleQuoted => '"' :: s.flatMap escapeChar ++ ['"']
  | .literal => '|' :: literalMarks s ++ '\n' :: indentLines margin true s

/-- The value of a field: a text, or a word that needs no quotes. -/
inductive Entry where
  | text (s : String)
  | word (s : String)

/-- A record: its fields, in order. -/
abbrev Record := List (String × Entry)

/-- The end of a field's line; a literal block may have it already. -/
def lineEnd (value : List Char) : List Char :=
  if value.contains '\n' ∧ value.getLast?.any isBreak then [] else ['\n']

/-- A field on its lines, which start with `head`; `margin` is that of the record. -/
def printField (head margin : List Char) (name : String) (entry : Entry) : List Char :=
  let value := match entry with
    | .word s => s.toList
    | .text s => printText (margin ++ [' ', ' ']) s.toList
  head ++ name.toList ++ [':', ' '] ++ value ++ lineEnd value

/-- The fields of a record; the first starts with `head`, the others with `margin`. -/
def printFields (head margin : List Char) : Record → List Char
  | [] => []
  | (name, entry) :: rest => printField head margin name entry ++ printFields margin margin rest

/-- A record. -/
def printRecord (r : Record) : String :=
  String.ofList (printFields [] [] r)

/-- A list of records. -/
def printRecords (rs : List Record) : String :=
  if rs.isEmpty then "[]\n"
  else String.ofList (rs.flatMap (printFields ['-', ' '] [' ', ' ']))

end PatchReview.Yaml
