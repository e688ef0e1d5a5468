import PatchReview.Text.Base
import PatchReview.Yaml.Cursor

/-!
# Text in quotes

Between single quotes a quote is written twice; between double quotes a backslash
starts an escape.  Line ends are read as between words, unless a backslash takes them
away.
-/

namespace PatchReview.Yaml.Token

/-- Read what stands after a backslash off the front of a text: the character and how many
characters stand for it. -/
def readEscape (s : List Char) : Option (Char × Nat) :=
  let number (count : Nat) (rest : List Char) : Option (Char × Nat) :=
    (Text.readCharOfHex count rest).map fun (c, _) => (c, count + 1)
  match s with
  | '0' :: _ => some ('\x00', 1)
  | 'a' :: _ => some ('\x07', 1)
  | 'b' :: _ => some ('\x08', 1)
  | 't' :: _ => some ('\t', 1)
  | '\t' :: _ => some ('\t', 1)
  | 'n' :: _ => some ('\n', 1)
  | 'v' :: _ => some ('\x0b', 1)
  | 'f' :: _ => some ('\x0c', 1)
  | 'r' :: _ => some ('\r', 1)
  | 'e' :: _ => some ('\x1b', 1)
  | ' ' :: _ => some (' ', 1)
  | '"' :: _ => some ('"', 1)
  | '/' :: _ => some ('/', 1)
  | '\\' :: _ => some ('\\', 1)
  | 'N' :: _ => some ('\u0085', 1)
  | '_' :: _ => some ('\u00A0', 1)
  | 'L' :: _ => some ('\u2028', 1)
  | 'P' :: _ => some ('\u2029', 1)
  | 'x' :: rest => number 2 rest
  | 'u' :: rest => number 4 rest
  | 'U' :: rest => number 8 rest
  | _ => none

/-- The word at the front of a text in quotes: the word, whether a backslash takes the line
end after it away, and the place after it. -/
def readQuotedWord (quote : Char) : (fuel : Nat) → Cursor → Option (List Char × Bool × Cursor)
  | 0, _ => none
  | fuel + 1, c =>
    let continueWith (d : Char) (n : Nat) : Option (List Char × Bool × Cursor) :=
      (readQuotedWord quote fuel (c.skip n)).map fun (word, escaped, c) => (d :: word, escaped, c)
    match c.next? with
    | none => some ([], false, c)
    | some d =>
      if Text.isLineBlank d || isBreak d then some ([], false, c)
      else if d = '\'' ∧ quote = '\'' ∧ c.peek? 1 = some '\'' then continueWith '\'' 2
      else if d = quote then some ([], false, c)
      else if d = '\\' ∧ quote = '"' then
        if (c.peek? 1).any isBreak then some ([], true, (c.skip 1).takeBreak.2)
        else (readEscape (c.rest.drop 1)).bind fun (d, n) => continueWith d (n + 1)
      else continueWith d 1

/-- Read the rest of a text in quotes; `text` comes before. -/
def readQuotedWords (quote : Char) :
    (fuel : Nat) → (text : List Char) → Cursor → Option (List Char × Cursor)
  | 0, _, _ => none
  | fuel + 1, text, c =>
    if c.atDocumentMark then none
    else
      match readQuotedWord quote (c.rest.length + 1) c with
      | none => none
      | some (word, escaped, c) =>
        if c.rest = [] then none
        else if c.next? = some quote then some (text ++ word, c.skip 1)
        else
          let gap : Gap := if escaped then { first := some [] } else {}
          match Gap.read 0 (c.rest.length + 1) gap c with
          | none => none
          | some (gap, c) => readQuotedWords quote fuel (text ++ word ++ gap.text) c

/-- Read a text in quotes, from its first quote. -/
def readQuoted (quote : Char) (c : Cursor) : Option (List Char × Cursor) :=
  readQuotedWords quote (c.rest.length + 1) [] (c.skip 1)

end PatchReview.Yaml.Token
