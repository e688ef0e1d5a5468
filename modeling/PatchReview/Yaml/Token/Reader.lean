import PatchReview.Yaml.Token.Block
import PatchReview.Yaml.Token.Name
import PatchReview.Yaml.Token.Plain
import PatchReview.Yaml.Token.Quoted

/-!
# Reading tokens

The tokens of a text are read one after the other.  A colon makes a key of what stands
before it on its line, so the mark before a key is put in later, and with it the start of
a block if the key is indented further than the block around it.
-/

namespace PatchReview.Yaml

/-- A token that a colon may yet make a key. -/
structure Candidate where
  /-- Whether it must be a key: it stands where the keys of the block stand. -/
  required : Bool
  /-- The number of tokens before it. -/
  position : Nat
  /-- Where it starts. -/
  start : Cursor

/-- The state of reading tokens. -/
structure Lexer where
  /-- The place in the text. -/
  cursor : Cursor
  /-- The tokens so far. -/
  tokens : Array Token := #[]
  /-- The column of the innermost block, or -1. -/
  indent : Int := -1
  /-- The columns of the blocks around it, innermost first. -/
  outer : List Int := []
  /-- Whether a key may start here. -/
  keyAllowed : Bool := true
  /-- The candidate outside of all brackets or within the innermost. -/
  candidate : Option Candidate := none
  /-- The candidates outside of each pair of brackets, innermost first. -/
  enclosing : List (Option Candidate) := []

namespace Lexer

/-- Whether the place is within brackets. -/
def inFlow (l : Lexer) : Bool :=
  !l.enclosing.isEmpty

/-- Add a token. -/
def push (l : Lexer) (t : Token) : Lexer :=
  { l with tokens := l.tokens.push t }

/-- Add the token of a mark of some characters. -/
def pushMark (l : Lexer) (t : Token) (length : Nat) : Lexer :=
  { l with tokens := l.tokens.push t, cursor := l.cursor.skip length }

/-- End the blocks that are indented by more than `column`. -/
def endBlocks (column : Int) (tokens : Array Token) (indent : Int) :
    List Int → Array Token × Int × List Int
  | [] => (tokens, indent, [])
  | next :: outer =>
    if column < indent then endBlocks column (tokens.push .blockEnd) next outer
    else (tokens, indent, next :: outer)

/-- End the blocks that are indented by more than `column`; in brackets there are none. -/
def unroll (l : Lexer) (column : Int) : Lexer :=
  if l.inFlow then l
  else
    let (tokens, indent, outer) := endBlocks column l.tokens l.indent l.outer
    { l with tokens, indent, outer }

/-- Start a block at a column, unless there is one; `position` is that of its first token. -/
def roll (l : Lexer) (column : Nat) (position : Nat) (start : Token) : Lexer :=
  if l.inFlow || column ≤ l.indent then l
  else { l with
    tokens := l.tokens.insertIdxIfInBounds position start
    indent := column
    outer := l.indent :: l.outer }

/-- Give up the candidate; one that must be a key cannot be given up. -/
def dropCandidate (l : Lexer) : Option Lexer :=
  match l.candidate with
  | some k => if k.required then none else some { l with candidate := none }
  | none => some l

/-- Make the next token a candidate, if a key may start here. -/
def saveCandidate (l : Lexer) : Option Lexer :=
  if l.keyAllowed then do
    let required := !l.inFlow && l.indent == l.cursor.column
    let l' ← l.dropCandidate
    pure { l' with candidate := some ⟨required, l.tokens.size, l.cursor⟩ }
  else some l

/-- Whether a candidate can still become a key: it starts on this line, and not more than
1024 characters before. -/
def isFresh (l : Lexer) (k : Candidate) : Bool :=
  k.start.line == l.cursor.line && l.cursor.index ≤ k.start.index + 1024

/-- Go to the next token, over blanks, comments and line ends.  Where a key may start
outside of brackets, a tab is no blank. -/
def skipTrivia : (fuel : Nat) → Lexer → Lexer
  | 0, l => l
  | fuel + 1, l =>
    let tabs := l.inFlow || !l.keyAllowed
    let c := (l.cursor.skipWhile fun d => d == ' ' || (tabs && d == '\t')).skipComment
    if c.next?.any isBreak then
      skipTrivia fuel { l with cursor := c.takeBreak.2, keyAllowed := l.keyAllowed || !l.inFlow }
    else { l with cursor := c }

/-! ## The tokens -/

/-- A mark that ends all blocks: a directive, or the start or the end of a document. -/
def endDocument (l : Lexer) : Option Lexer := do
  let l ← (l.unroll (-1)).dropCandidate
  pure { l with keyAllowed := false }

/-- An opening bracket. -/
def openFlow (l : Lexer) (t : Token) : Option Lexer := do
  let l ← l.saveCandidate
  let l := l.pushMark t 1
  pure { l with keyAllowed := true, candidate := none, enclosing := l.candidate :: l.enclosing }

/-- A closing bracket. -/
def closeFlow (l : Lexer) (t : Token) : Option Lexer := do
  let l ← l.dropCandidate
  let l := { l.pushMark t 1 with keyAllowed := false }
  match l.enclosing with
  | outer :: enclosing => pure { l with candidate := outer, enclosing }
  | [] => pure l

/-- A comma in brackets. -/
def flowEntry (l : Lexer) : Option Lexer := do
  let l ← l.dropCandidate
  pure { l.pushMark .flowEntry 1 with keyAllowed := true }

/-- A dash before an item. -/
def blockEntry (l : Lexer) : Option Lexer :=
  if !l.inFlow && !l.keyAllowed then none
  else do
    let l ← (l.roll l.cursor.column l.tokens.size .blockSequenceStart).dropCandidate
    pure { l.pushMark .blockEntry 1 with keyAllowed := true }

/-- A question mark before a key. -/
def explicitKey (l : Lexer) : Option Lexer :=
  if !l.inFlow && !l.keyAllowed then none
  else do
    let l ← (l.roll l.cursor.column l.tokens.size .blockMappingStart).dropCandidate
    pure { l.pushMark .key 1 with keyAllowed := !l.inFlow }

/-- A colon after a candidate: it is a key. -/
def valueAfterKey (l : Lexer) (k : Candidate) : Lexer :=
  let l := { l with tokens := l.tokens.insertIdxIfInBounds k.position .key }
  let l := l.roll k.start.column k.position .blockMappingStart
  { l.pushMark .value 1 with candidate := none, keyAllowed := false }

/-- A colon that follows no candidate. -/
def valueAlone (l : Lexer) : Option Lexer :=
  if !l.inFlow && !l.keyAllowed then none
  else
    let l := l.roll l.cursor.column l.tokens.size .blockMappingStart
    some { l.pushMark .value 1 with keyAllowed := !l.inFlow }

/-- A colon. -/
def value (l : Lexer) : Option Lexer :=
  match l.candidate with
  | none => l.valueAlone
  | some k =>
    if l.isFresh k then some (l.valueAfterKey k)
    else if k.required then none
    else valueAlone { l with candidate := none }

/-- A token that may be a key, read at the place. -/
def mayBeKey (l : Lexer) (read : Cursor → Option (Token × Cursor)) : Option Lexer := do
  let l ← l.saveCandidate
  let (t, c) ← read l.cursor
  pure { l.push t with cursor := c, keyAllowed := false }

/-- A text without quotes.  After one that ends at the start of a line a key may start. -/
def plain (l : Lexer) : Option Lexer := do
  let l ← l.saveCandidate
  let p ← Token.readPlain l.inFlow (l.indent + 1) l.cursor
  pure { l.push (.scalar p.text true) with cursor := p.after, keyAllowed := p.endsLine }

/-- A block of text. -/
def block (l : Lexer) (folded : Bool) : Option Lexer := do
  let l ← l.dropCandidate
  let (text, c) ← Token.readBlock folded l.indent l.cursor
  pure { l.push (.scalar text false) with cursor := c, keyAllowed := true }

/-- A text in quotes. -/
def quoted (l : Lexer) (quote : Char) : Option Lexer :=
  l.mayBeKey fun c => (Token.readQuoted quote c).map fun (s, c) => (.scalar s false, c)

/-- A tag. -/
def tag (l : Lexer) : Option Lexer :=
  l.mayBeKey fun c =>
    (Token.readTag c).filter fun (_, after) => Token.endsTag l.inFlow after

/-- A directive. -/
def directive (l : Lexer) : Option Lexer := do
  let l ← l.endDocument
  let (t, c) ← Token.readDirective l.cursor
  pure { l.push t with cursor := c }

/-- Whether a text without quotes can start with a character; `next` follows it. -/
def startsPlain (inFlow : Bool) (c : Char) (next : Option Char) : Bool :=
  if c == '-' then !next.any Text.isLineBlank
  else if c == '?' || c == ':' then !inFlow && !isBlankOrEnd next
  else !(isFlowMark c || ['#', '&', '*', '!', '|', '>', '\'', '"', '%', '@', '\x60'].contains c
    || Text.isLineBlank c)

/-- Read the token that starts with a character. -/
def readToken (l : Lexer) (c : Char) : Option Lexer :=
  let next := l.cursor.peek? 1
  if l.cursor.column = 0 ∧ c = '%' then l.directive
  else if l.cursor.isDocumentMark '-' then (l.endDocument).map (·.pushMark .documentStart 3)
  else if l.cursor.isDocumentMark '.' then (l.endDocument).map (·.pushMark .documentEnd 3)
  else if c = '[' then l.openFlow .flowSequenceStart
  else if c = '\x7b' then l.openFlow .flowMappingStart
  else if c = ']' then l.closeFlow .flowSequenceEnd
  else if c = '\x7d' then l.closeFlow .flowMappingEnd
  else if c = ',' then l.flowEntry
  else if c = '-' && isBlankOrEnd next then l.blockEntry
  else if c = '?' && (l.inFlow || isBlankOrEnd next) then l.explicitKey
  else if c = ':' && (l.inFlow || isBlankOrEnd next) then l.value
  else if c = '*' then
    l.mayBeKey fun c => (Token.readName (c.skip 1)).map fun (n, c) => (.alias n, c)
  else if c = '&' then
    l.mayBeKey fun c => (Token.readName (c.skip 1)).map fun (n, c) => (.anchor n, c)
  else if c = '!' then l.tag
  else if c = '|' && !l.inFlow then l.block false
  else if c = '>' && !l.inFlow then l.block true
  else if c = '\'' ∨ c = '"' then l.quoted c
  else if startsPlain l.inFlow c next then l.plain
  else none

/-- Read the remaining tokens. -/
def readTokens : (fuel : Nat) → Lexer → Option (Array Token)
  | 0, _ => none
  | fuel + 1, l =>
    let l := skipTrivia (l.cursor.rest.length + 1) l
    let l := l.unroll l.cursor.column
    match l.cursor.next? with
    | none => (l.endDocument).map (·.tokens)
    | some c => (l.readToken c).bind (readTokens fuel)

end Lexer

/-- The tokens of a text; a byte order mark at its front does not count. -/
def tokens? (text : List Char) : Option (List Token) :=
  let text := match text with
    | '\uFEFF' :: rest => rest
    | _ => text
  if text.all isAllowed then
    (Lexer.readTokens (text.length + 1) { cursor := { rest := text } }).map (·.toList)
  else none

end PatchReview.Yaml
