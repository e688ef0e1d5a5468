import PatchReview.Pattern.Escape

/-!
# Bracketed classes

Reading what stands between square brackets in a pattern: single characters,
ranges, escapes, named ASCII classes, nested classes, and the set operations `&&`,
`--` and `~~`, which group from the left.
-/

namespace PatchReview.Pattern

/-- A set operation inside a class. -/
inductive SetOperator where
  | inter
  | diff
  | symDiff

/-- Apply a set operation. -/
def SetOperator.apply : SetOperator → CharSet → CharSet → CharSet
  | .inter, s, t => .inter s t
  | .diff, s, t => .diff s t
  | .symDiff, s, t => .symDiff s t

/-- What is unfinished around the place in a class that is being read. -/
inductive ClassFrame where
  /-- A bracket was opened; `items` stood before it in the class around it. -/
  | opened (negated : Bool) (items : List CharSet)
  /-- An operator was read and waits for its right side. -/
  | operator (op : SetOperator) (left : CharSet)

/-- The named ASCII classes. -/
def asciiClass (name : List Char) : Option CharSet :=
  let ranges (rs : List (Char × Char)) := some (CharSet.unionAll (rs.map fun (a, b) => .range a b))
  match String.ofList name with
  | "alnum" => ranges [('0', '9'), ('A', 'Z'), ('a', 'z')]
  | "alpha" => ranges [('A', 'Z'), ('a', 'z')]
  | "ascii" => ranges [('\x00', '\x7f')]
  | "blank" => ranges [('\t', '\t'), (' ', ' ')]
  | "cntrl" => ranges [('\x00', '\x1f'), ('\x7f', '\x7f')]
  | "digit" => ranges [('0', '9')]
  | "graph" => ranges [('!', '~')]
  | "lower" => ranges [('a', 'z')]
  | "print" => ranges [(' ', '~')]
  | "punct" => ranges [('!', '/'), (':', '@'), ('[', '\x60'), ('\x7b', '~')]
  | "space" => ranges [('\t', '\t'), ('\n', '\n'), ('\x0b', '\x0b'), ('\x0c', '\x0c'),
      ('\r', '\r'), (' ', ' ')]
  | "upper" => ranges [('A', 'Z')]
  | "word" => ranges [('0', '9'), ('A', 'Z'), ('_', '_'), ('a', 'z')]
  | "xdigit" => ranges [('0', '9'), ('A', 'F'), ('a', 'f')]
  | _ => none

/-- Add case variants and complement, as a class asks for.  Outside of Unicode mode
no byte above ASCII may be left in the set. -/
def Flags.finishClass (f : Flags) (negated : Bool) (s : CharSet) :
    Except PatternError CharSet :=
  let answer := (f.fold s).negateIf negated
  if f.unicode = false ∧ (List.range 128).any fun n => answer.contains (Char.ofNat (n + 128)) then
    .error .notText
  else .ok answer

/-- Read a named ASCII class, from the character after its first bracket. -/
def namedClass (f : Flags) : List Char → Option (Except PatternError CharSet × List Char)
  | ':' :: rest =>
    let (negated, body) := match rest with
      | '^' :: body => (true, body)
      | body => (false, body)
    match body.dropWhile (· ≠ ':') with
    | ':' :: ']' :: after =>
      (asciiClass (body.takeWhile (· ≠ ':'))).map fun s => (f.finishClass negated s, after)
    | _ => none
  | _ => none

/-- Read the opening of a class, from the character after its bracket: whether it is
negated, and the hyphens or the bracket that stand for themselves. -/
def openClass (f : Flags) (cs : List Char) :
    Except PatternError (Bool × List CharSet × List Char) :=
  let (negated, body) := match f.skip cs with
    | '^' :: rest => (true, f.skip rest)
    | rest => (false, rest)
  match hyphens body.length body with
  | (0, ']' :: rest) => .ok (negated, [.single ']'], f.skip rest)
  | (_, []) => .error .classUnclosed
  | (n, rest) => .ok (negated, List.replicate n (.single '-'), rest)
where
  /-- Count the leading hyphens. -/
  hyphens : Nat → List Char → Nat × List Char
    | fuel + 1, '-' :: rest =>
      let (n, after) := hyphens fuel (f.skip rest)
      (n + 1, after)
    | _, rest => (0, rest)

/-- Apply the operator that waits on top of the stack, if one does. -/
def applyWaiting (f : Flags) (stack : List ClassFrame) (right : CharSet) :
    List ClassFrame × CharSet :=
  match stack with
  | .operator op left :: outer => (outer, op.apply (f.fold left) (f.fold right))
  | _ => (stack, right)

/-- Read one character or escape of a class. -/
def classItem (f : Flags) : List Char → Except PatternError (Primitive × List Char)
  | [] => .error .classUnclosed
  | '\\' :: rest => escape f rest
  | c :: rest => .ok (.literal c, rest)

/-- A literal of a class is ASCII outside of Unicode mode. -/
def Flags.checkLiteral (f : Flags) (c : Char) : Except PatternError Char :=
  if f.unicode = false ∧ 0x7F < c.toNat then .error .notText else .ok c

/-- The character that decides whether a hyphen makes a range. -/
def afterHyphen (f : Flags) (cs : List Char) : Option Char :=
  if f.ignoreSpace then
    let far := match cs.dropWhile Text.isBlank with
      | '#' :: rest => rest.dropWhile Text.isBlank
      | rest => rest
    far.head?.or cs.head?
  else cs.head?

/-- Read a range or a single item of a class. -/
def classRange (f : Flags) (cs : List Char) : Except PatternError (CharSet × List Char) := do
  let (first, rest) ← classItem f cs
  let alone : Except PatternError (CharSet × List Char) :=
    match first with
    | .literal c => do let c ← f.checkLiteral c; .ok (.single c, f.skip rest)
    | .set s => .ok (s, f.skip rest)
    | .look _ => .error .classItem
  match f.skip rest with
  | [] => .error .classUnclosed
  | '-' :: after =>
    let next := afterHyphen f after
    if next = some ']' ∨ next = some '-' then alone
    else do
      let (last, rest) ← classItem f (f.skip after)
      match first, last with
      | .literal a, .literal b =>
        let a ← f.checkLiteral a
        let b ← f.checkLiteral b
        if a.toNat ≤ b.toNat then .ok (.range a b, rest) else .error .classItem
      | _, _ => .error .classItem
  | _ => alone

/-- Read the rest of a class.  `items` are those of the innermost open class so far,
last first. -/
def classLoop (f : Flags) :
    Nat → List ClassFrame → List CharSet → List Char → Except PatternError (CharSet × List Char)
  | 0, _, _, _ => .error .classUnclosed
  | fuel + 1, stack, items, cs =>
    let operator (op : SetOperator) (rest : List Char) :=
      let (outer, left) := applyWaiting f stack (.unionAll items.reverse)
      classLoop f fuel (.operator op left :: outer) [] rest
    match f.skip cs with
    | [] => .error .classUnclosed
    | '[' :: rest =>
      match namedClass f rest with
      | some (.error e, _) => .error e
      | some (.ok s, after) => classLoop f fuel stack (s :: items) after
      | none => do
        let (negated, inner, after) ← openClass f rest
        classLoop f fuel (.opened negated items :: stack) inner after
    | ']' :: rest =>
      match applyWaiting f stack (.unionAll items.reverse) with
      | ([.opened negated _], s) => do
        let s ← f.finishClass negated s
        .ok (s, rest)
      | (.opened negated outerItems :: outer, s) => do
        let s ← f.finishClass negated s
        classLoop f fuel outer (s :: outerItems) rest
      | _ => .error .classUnclosed
    | '&' :: '&' :: rest => operator .inter rest
    | '-' :: '-' :: rest => operator .diff rest
    | '~' :: '~' :: rest => operator .symDiff rest
    | rest => do
      let (s, after) ← classRange f rest
      classLoop f fuel stack (s :: items) after

/-- Read a class, from the character after its bracket. -/
def bracketed (f : Flags) (cs : List Char) : Except PatternError (CharSet × List Char) := do
  let (negated, items, rest) ← openClass f cs
  classLoop f (rest.length + 1) [.opened negated []] items rest

end PatchReview.Pattern
