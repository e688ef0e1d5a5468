import PatchReview.Pattern.Basic
import PatchReview.Pattern.Property
import PatchReview.Text.Base
import PatchReview.Text.Split

/-!
# Escapes in patterns

What a backslash and the characters after it stand for: a literal character, a
set of characters or an assertion.  The flags in force decide whether classes
mean all scripts or ASCII, and whether blanks and comments are skipped.
-/

namespace PatchReview.Pattern

/-- Why a text is not a pattern. -/
inductive PatternError where
  /-- A group is closed that was not opened, or the other way round. -/
  | groupUnbalanced
  /-- A group name is empty, malformed, unfinished or used twice. -/
  | groupName
  /-- Groups that look ahead or behind are not part of the notation. -/
  | lookAround
  /-- A list of flags is unknown, repeated, empty or unfinished. -/
  | flags
  /-- A repetition follows nothing that could be repeated. -/
  | repetitionMissing
  /-- The count of a repetition is malformed, unfinished or decreasing. -/
  | repetitionCount
  /-- An escape is unknown or unfinished. -/
  | escape
  /-- A bracketed class is not closed. -/
  | classUnclosed
  /-- A bracketed class holds a range or an escape that it cannot hold. -/
  | classItem
  /-- No character property has this name. -/
  | property
  /-- Outside of Unicode mode the pattern could match part of a character. -/
  | notText
  /-- The counted repetitions multiply to a pattern that is too large. -/
  | tooLarge

/-- The flags in force at a place of a pattern. -/
structure Flags where
  /-- Letters match in either case. -/
  ignoreCase : Bool := false
  /-- The line anchors hold at every line. -/
  multiLine : Bool := false
  /-- The dot matches line feeds too. -/
  dotAll : Bool := false
  /-- Lines may end with a carriage return. -/
  crlf : Bool := false
  /-- Classes and case mean all scripts. -/
  unicode : Bool := true
  /-- Blanks and comments in the pattern are skipped. -/
  ignoreSpace : Bool := false

/-- Drop blanks and `#` comments from the front. -/
def skipInsignificant (inComment : Bool) : List Char → List Char
  | [] => []
  | c :: rest =>
    if inComment then skipInsignificant (c != '\n') rest
    else if Text.isBlank c then skipInsignificant false rest
    else if c = '#' then skipInsignificant true rest
    else c :: rest

/-- Drop what the flags make insignificant from the front. -/
def Flags.skip (f : Flags) (cs : List Char) : List Char :=
  if f.ignoreSpace then skipInsignificant false cs else cs

/-- The significant characters up to a closing brace, and what follows it. -/
def braced (f : Flags) (inComment : Bool) : List Char → Option (List Char × List Char)
  | [] => none
  | c :: rest =>
    if f.ignoreSpace && inComment then braced f (c != '\n') rest
    else if f.ignoreSpace && c == '#' then braced f true rest
    else if f.ignoreSpace && Text.isBlank c then braced f false rest
    else if c = '\x7d' then some ([], rest)
    else (braced f false rest).map fun (inner, after) => (c :: inner, after)

/-- Characters with a meaning of their own in patterns. -/
def isMeta (c : Char) : Bool :=
  ['\\', '.', '+', '*', '?', '(', ')', '|', '[', ']', '\x7b', '\x7d', '^', '$', '#', '&', '-',
    '~'].contains c

/-- What an escape stands for. -/
inductive Primitive where
  /-- One character. -/
  | literal (c : Char)
  /-- Any character of a set. -/
  | set (s : CharSet)
  /-- The empty text where an assertion holds. -/
  | look (a : Assertion)

/-- Exactly `count` hexadecimal digits, and what follows them. -/
def fixedHex (f : Flags) : Nat → List Char → Option (List Char × List Char)
  | 0, cs => some ([], cs)
  | _ + 1, [] => none
  | count + 1, c :: rest =>
    if Text.isHexDigit c then
      (fixedHex f count (f.skip rest)).map fun (digits, after) => (c :: digits, after)
    else none

/-- A character by its code point, after `\x`, `\u` or `\U`: either `count` digits or
any number of them in braces. -/
def hexEscape (f : Flags) (count : Nat) (cs : List Char) :
    Except PatternError (Primitive × List Char) :=
  match f.skip cs with
  | '\x7b' :: rest =>
    match braced f false rest with
    | none => .error .escape
    | some (digits, after) =>
      if digits.isEmpty || !digits.all Text.isHexDigit then .error .escape
      else match Text.charOfNumber (Unicode.hexNumber digits) with
        | none => .error .escape
        | some c => .ok (.literal c, f.skip after)
  | rest =>
    match fixedHex f count rest with
    | none => .error .escape
    | some (digits, after) =>
      match Text.charOfNumber (Unicode.hexNumber digits) with
      | none => .error .escape
      | some c =>
        if count = 2 ∧ f.unicode = false ∧ 0x7F < c.toNat then .error .notText
        else .ok (.literal c, after)

/-- Cut at the first `!=`. -/
def splitUnequal : List Char → Option (List Char × List Char)
  | [] => none
  | '!' :: '=' :: rest => some ([], rest)
  | c :: rest => (splitUnequal rest).map fun (before, after) => (c :: before, after)

/-- The set that the text between the braces of a property escape names, and
whether it is to be complemented. -/
def propertyQuery (inner : List Char) : Option (CharSet × Bool) :=
  match splitUnequal inner with
  | some (name, value) => (CharSet.ofValue name value).map (·, true)
  | none =>
    match (Text.splitOnce ':' inner).or (Text.splitOnce '=' inner) with
    | some (name, value) => (CharSet.ofValue name value).map (·, false)
    | none => (CharSet.ofName inner).map (·, false)

/-- The set as it is, or its complement. -/
def CharSet.negateIf (negated : Bool) (s : CharSet) : CharSet :=
  if negated then .compl s else s

/-- The set with all case variants of its members, if the flags ask for it. -/
def Flags.fold (f : Flags) (s : CharSet) : CharSet :=
  if f.ignoreCase then (if f.unicode then .folded s else .foldedAscii s) else s

/-- A property escape, after `\p` or `\P`. -/
def propertyEscape (f : Flags) (negated : Bool) (cs : List Char) :
    Except PatternError (Primitive × List Char) :=
  let answer (query : Option (CharSet × Bool)) (after : List Char) :=
    if f.unicode = false then Except.error PatternError.notText
    else match query with
      | none => .error .property
      | some (s, unequal) =>
        Except.ok (Primitive.set ((f.fold s).negateIf (negated != unequal)), after)
  match f.skip cs with
  | [] => .error .escape
  | '\x7b' :: rest =>
    match braced f false rest with
    | none => .error .escape
    | some (inner, after) => answer (propertyQuery inner) after
  | '\\' :: _ => .error .escape
  | c :: rest => answer ((CharSet.ofName [c]).map (·, false)) (f.skip rest)

/-- The set of `\d`, `\s` or `\w`, by its lower-case letter. -/
def Flags.shorthand (f : Flags) (letter : Char) : CharSet :=
  if f.unicode then
    if letter = 'd' then .digit else if letter = 's' then .blank else .word
  else if letter = 'd' then .range '0' '9'
  else if letter = 's' then .union (.range '\x09' '\x0d') (.single ' ')
  else .unionAll [.range '0' '9', .range 'A' 'Z', .range 'a' 'z', .single '_']

/-- The word boundaries that are named in braces after `\b`. -/
def namedBoundary (ascii : Bool) (name : List Char) : Option Assertion :=
  match String.ofList name with
  | "start" => some (.wordStart ascii)
  | "end" => some (.wordEnd ascii)
  | "start-half" => some (.wordStartHalf ascii)
  | "end-half" => some (.wordEndHalf ascii)
  | _ => none

/-- A word boundary, after `\b`.  Braces that begin with a letter or a hyphen name a
kind of boundary; other braces are left for a count. -/
def boundaryEscape (f : Flags) (cs : List Char) :
    Except PatternError (Primitive × List Char) :=
  let plain := Except.ok (Primitive.look (.wordBoundary (!f.unicode)), cs)
  match cs with
  | '\x7b' :: rest =>
    match f.skip rest with
    | [] => .error .escape
    | first :: _ =>
      if first.isAlpha || first == '-' then
        match braced f false rest with
        | none => .error .escape
        | some (name, after) =>
          match namedBoundary (!f.unicode) name with
          | none => .error .escape
          | some a => .ok (.look a, after)
      else plain
  | _ => plain

/-- The character that a letter escape stands for. -/
def controlEscape (c : Char) : Option Char :=
  match c with
  | 'a' => some '\x07'
  | 'f' => some '\x0c'
  | 't' => some '\t'
  | 'n' => some '\n'
  | 'r' => some '\r'
  | 'v' => some '\x0b'
  | _ => none

/-- Read an escape, from the character after the backslash. -/
def escape (f : Flags) : List Char → Except PatternError (Primitive × List Char)
  | [] => .error .escape
  | c :: rest =>
    if isMeta c then .ok (.literal c, rest)
    else if c.isDigit then .error .escape
    else if c = 'x' then hexEscape f 2 rest
    else if c = 'u' then hexEscape f 4 rest
    else if c = 'U' then hexEscape f 8 rest
    else if c = 'p' then propertyEscape f false rest
    else if c = 'P' then propertyEscape f true rest
    else if c = 'd' ∨ c = 's' ∨ c = 'w' then .ok (.set (f.shorthand c), rest)
    else if c = 'D' ∨ c = 'S' ∨ c = 'W' then
      if f.unicode then .ok (.set (.compl (f.shorthand c.toLower)), rest) else .error .notText
    else if c = 'A' then .ok (.look .textStart, rest)
    else if c = 'z' then .ok (.look .textEnd, rest)
    else if c = 'b' then boundaryEscape f rest
    else if c = 'B' then .ok (.look (.notWordBoundary (!f.unicode)), rest)
    else if c = '<' then .ok (.look (.wordStart (!f.unicode)), rest)
    else if c = '>' then .ok (.look (.wordEnd (!f.unicode)), rest)
    else match controlEscape c with
      | some d => .ok (.literal d, rest)
      | none =>
        if c.toNat < 0x80 ∧ c.isAlphanum = false then .ok (.literal c, rest)
        else .error .escape

end PatchReview.Pattern
