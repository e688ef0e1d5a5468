import PatchReview.Text.Base
import PatchReview.Text.Character

/-!
# Quoted text in TOML

Text stands in double quotes, with escapes, or in single quotes, without.  Between three
quotes it may go over several lines; a line feed directly after the opening quotes does
not count.
-/

namespace PatchReview.Toml

open Text (Reader isPlain isLineBlank)

/-- Read text in double quotes, after the first quote. -/
def readBasic : (fuel : Nat) → Reader (List Char)
  | 0, _ => none
  | fuel + 1, cs =>
    match cs with
    | [] => none
    | '"' :: rest => some ([], rest)
    | '\\' :: rest => do
      let (c, rest) ← Text.readEscape rest
      let (s, rest) ← readBasic fuel rest
      pure (c :: s, rest)
    | c :: rest =>
      if isPlain c then (readBasic fuel rest).map fun (s, rest) => (c :: s, rest) else none

/-- Read text in single quotes, after the first quote. -/
def readLiteral : Reader (List Char)
  | [] => none
  | c :: rest =>
    if c = '\'' then some ([], rest)
    else if isPlain c then (readLiteral rest).map fun (s, rest) => (c :: s, rest)
    else none

/-- The number of times that a text starts with a character, five at most. -/
def leadingQuotes (quote : Char) (cs : List Char) : Nat :=
  min 5 (cs.takeWhile (· == quote)).length

/-- Drop spaces and line feeds at the front. -/
def skipLines : List Char → List Char
  | '\r' :: '\n' :: rest => skipLines rest
  | c :: rest => if c = '\n' ∨ isLineBlank c then skipLines rest else c :: rest
  | [] => []

/-- Drop a line feed at the front. -/
def skipLineFeed : List Char → Option (List Char)
  | '\n' :: rest => some rest
  | '\r' :: '\n' :: rest => some rest
  | _ => none

/-- Read text between three quotes, after the first three.  Up to two quotes directly
before the last three belong to the text.  With `escapes`, a backslash starts an escape,
or takes away the end of its line and all space after it. -/
def readLong (quote : Char) (escapes : Bool) : (fuel : Nat) → Reader (List Char)
  | 0, _ => none
  | fuel + 1, cs =>
    let continueWith (s : List Char) (rest : List Char) : Option (List Char × List Char) :=
      (readLong quote escapes fuel rest).map fun (more, rest) => (s ++ more, rest)
    match cs with
    | [] => none
    | '\n' :: rest => continueWith ['\n'] rest
    | '\r' :: '\n' :: rest => continueWith ['\n'] rest
    | c :: rest =>
      if c = quote then
        let n := leadingQuotes quote cs
        if n < 3 then continueWith (List.replicate n quote) (cs.drop n)
        else some (List.replicate (n - 3) quote, cs.drop n)
      else if c = '\\' ∧ escapes then
        match skipLineFeed (rest.dropWhile isLineBlank) with
        | some rest => continueWith [] (skipLines rest)
        | none => (Text.readEscape rest).bind fun (c, rest) => continueWith [c] rest
      else if isPlain c then continueWith [c] rest
      else none

/-- Read text in quotes of any of the four kinds. -/
def readQuoted (cs : List Char) : Option (List Char × List Char) :=
  let long (quote : Char) (rest : List Char) : Option (List Char × List Char) :=
    readLong quote (quote = '"') (rest.length + 1) ((skipLineFeed rest).getD rest)
  match cs with
  | '"' :: '"' :: '"' :: rest => long '"' rest
  | '\'' :: '\'' :: '\'' :: rest => long '\'' rest
  | '"' :: rest => readBasic (rest.length + 1) rest
  | '\'' :: rest => readLiteral rest
  | _ => none

end PatchReview.Toml
