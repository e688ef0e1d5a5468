import PatchReview.Pattern.Class
import PatchReview.Pattern.Matcher

/-!
# Reading patterns

The notation of patterns: alternatives, groups with flags or names, repetitions,
anchors, classes and escapes.  The reader goes through the text once and keeps
the groups that are still open on a stack.

Reading is total: every round of the loop takes at least one character, so as
many rounds as the text has characters, and one for its end, are enough.

Current gaps:

- The notation allows groups, repetitions and classes to be nested 250 deep.  The depth is not
  counted here, so deeper patterns are read instead of refused.
- The notation bounds a pattern by the size of its compiled form.  That form is not modelled:
  `maxLeaves` stands in for the bound and is checked at counted repetitions only, so patterns
  around either bound may be read on one side and refused on the other.
- The properties that `Pattern.Property` leaves out are refused as unknown.
-/

namespace PatchReview.Pattern

/-- An item of a sequence: a flag setting matches nothing and cannot be repeated. -/
inductive Item where
  | flags
  | expr (e : Expr)

/-- What stood before an open group: the alternatives and items around it, last
first, and the flags to return to. -/
structure GroupFrame where
  /-- The finished alternatives. -/
  branches : List Expr
  /-- The items of the current alternative. -/
  items : List Item
  /-- The flags outside of the group. -/
  flags : Flags

/-- The state of the reader. -/
structure ReaderState where
  /-- The flags in force. -/
  flags : Flags
  /-- The finished alternatives of the innermost open group, last first. -/
  branches : List Expr := []
  /-- The items of its current alternative, last first. -/
  items : List Item := []
  /-- The groups around it, innermost first. -/
  groups : List GroupFrame := []
  /-- The group names used so far. -/
  names : List (List Char) := []

/-- The number of leaves of a pattern. -/
def Expr.leaves : Expr → Nat
  | .empty | .chars _ | .look _ => 1
  | .seq e f | .alt e f => e.leaves + f.leaves
  | .star e => e.leaves

/-- Patterns that counted repetition makes larger than this are refused.  The number stands in
for a bound on the size of the compiled pattern and is a choice of this reader. -/
def maxLeaves : Nat := 262144

/-- A literal character under the flags. -/
def Flags.literal (f : Flags) (c : Char) : Expr :=
  if f.ignoreCase then
    if f.unicode then .chars (.ofList (Unicode.caseOrbit c).eraseDups)
    else .chars (.ofList [c, CharSet.otherAsciiCase c].eraseDups)
  else .char c

/-- The dot under the flags. -/
def Flags.dot (f : Flags) : Except PatternError Expr :=
  if f.unicode = false then .error .notText
  else if f.dotAll then .ok (.chars .all)
  else if f.crlf then .ok (.chars (.compl (.ofList ['\r', '\n'])))
  else .ok (.chars (.compl (.single '\n')))

/-- The caret under the flags. -/
def Flags.caret (f : Flags) : Assertion :=
  if f.multiLine then (if f.crlf then .lineStartCRLF else .lineStart) else .textStart

/-- The dollar sign under the flags. -/
def Flags.dollar (f : Flags) : Assertion :=
  if f.multiLine then (if f.crlf then .lineEndCRLF else .lineEnd) else .textEnd

/-- The pattern of an escape. -/
def Flags.primitive (f : Flags) : Primitive → Expr
  | .literal c => f.literal c
  | .set s => .chars s
  | .look a => .look a

/-- Set one flag by its letter; none if no flag has the letter. -/
def Flags.set (f : Flags) (letter : Char) (value : Bool) : Option Flags :=
  match letter with
  | 'i' => some { f with ignoreCase := value }
  | 'm' => some { f with multiLine := value }
  | 's' => some { f with dotAll := value }
  | 'R' => some { f with crlf := value }
  | 'u' => some { f with unicode := value }
  | 'x' => some { f with ignoreSpace := value }
  | 'U' => some f
  | _ => none

/-- Apply a list of flag letters; those after a hyphen are switched off.  No letter
and no hyphen may come twice, and a letter has to follow the hyphen. -/
def Flags.setAll (f : Flags) (value : Bool) (seen : List Char) : List Char → Option Flags
  | [] => some f
  | '-' :: rest =>
    if seen.contains '-' || rest.isEmpty then none
    else Flags.setAll f false ('-' :: seen) rest
  | c :: rest =>
    if seen.contains c then none
    else match f.set c value with
      | none => none
      | some f => Flags.setAll f value (c :: seen) rest

namespace ReaderState

/-- Add an item to the current alternative. -/
def push (st : ReaderState) (e : Expr) : ReaderState :=
  { st with items := .expr e :: st.items }

/-- The current alternative. -/
def current (st : ReaderState) : Expr :=
  .seqAll (st.items.reverse.filterMap fun
    | .flags => none
    | .expr e => some e)

/-- All alternatives of the innermost open group. -/
def body (st : ReaderState) : Expr :=
  .altAll (st.current :: st.branches).reverse

/-- Finish an alternative and begin the next. -/
def nextBranch (st : ReaderState) : ReaderState :=
  { st with branches := st.current :: st.branches, items := [] }

/-- Begin a group whose inside has the flags `inner`. -/
def enterGroup (st : ReaderState) (inner : Flags) : ReaderState :=
  { st with
    flags := inner
    branches := []
    items := []
    groups := ⟨st.branches, st.items, st.flags⟩ :: st.groups }

/-- Close the innermost group. -/
def closeGroup (st : ReaderState) : Except PatternError ReaderState :=
  match st.groups with
  | [] => .error .groupUnbalanced
  | outer :: groups =>
    .ok { st with
      flags := outer.flags
      branches := outer.branches
      items := .expr st.body :: outer.items
      groups := groups }

/-- The pattern that has been read, at the end of the text. -/
def finish (st : ReaderState) : Except PatternError Expr :=
  match st.groups with
  | [] => .ok st.body
  | _ :: _ => .error .groupUnbalanced

/-- Replace the last item by a repetition of it. -/
def repeatLast (st : ReaderState) (f : Expr → Except PatternError Expr) :
    Except PatternError ReaderState :=
  match st.items with
  | .expr e :: items => (f e).map fun e => { st with items := .expr e :: items }
  | _ => .error .repetitionMissing

end ReaderState

/-- Whether a character may stand in a group name, as its first or a later one. -/
def isNameChar (first : Bool) (c : Char) : Bool :=
  c == '_' || Unicode.isAlphabetic c ||
    (!first && (c == '.' || c == '[' || c == ']' || Unicode.isDecimalDigit c ||
      Unicode.Category.letterNumber.contains c.toNat ||
      Unicode.Category.otherNumber.contains c.toNat))

/-- Read a group name up to its closing angle bracket. -/
def groupName (names : List (List Char)) (cs : List Char) :
    Except PatternError (List Char × List Char) :=
  let name := cs.takeWhile (· ≠ '>')
  match cs.dropWhile (· ≠ '>'), name with
  | '>' :: rest, first :: others =>
    if isNameChar true first && others.all (isNameChar false) && !names.contains name then
      .ok (name, rest)
    else .error .groupName
  | _, _ => .error .groupName

/-- Read the opening of a group, from the character after its parenthesis. -/
def openGroup (st : ReaderState) (cs : List Char) :
    Except PatternError (ReaderState × List Char) :=
  let named (rest : List Char) : Except PatternError (ReaderState × List Char) := do
    let (name, after) ← groupName st.names rest
    .ok ({ st.enterGroup st.flags with names := name :: st.names }, after)
  match st.flags.skip cs with
  | '?' :: '=' :: _ | '?' :: '!' :: _ | '?' :: '<' :: '=' :: _ | '?' :: '<' :: '!' :: _ =>
    .error .lookAround
  | '?' :: 'P' :: '<' :: rest => named rest
  | '?' :: '<' :: rest => named rest
  | '?' :: rest =>
    let letters := rest.takeWhile fun c => c ≠ ':' ∧ c ≠ ')'
    match st.flags.setAll true [] letters, rest.drop letters.length with
    | some flags, ':' :: after => .ok (st.enterGroup flags, after)
    | some flags, ')' :: after =>
      if letters.isEmpty then .error .repetitionMissing
      else .ok ({ st with flags := flags, items := .flags :: st.items }, after)
    | _, _ => .error .flags
  | rest => .ok (st.enterGroup st.flags, rest)

/-- Drop the question mark that makes a repetition prefer fewer rounds; which texts
match does not depend on it. -/
def dropLazy : List Char → List Char
  | '?' :: rest => rest
  | rest => rest

/-- The digits at the front, and what follows them. -/
def countDigits (f : Flags) (inComment : Bool) : List Char → List Char × List Char
  | [] => ([], [])
  | c :: rest =>
    if f.ignoreSpace && inComment then countDigits f (c != '\n') rest
    else if f.ignoreSpace && c == '#' then countDigits f true rest
    else if f.ignoreSpace && Text.isBlank c then countDigits f false rest
    else if c.isDigit then
      let (digits, after) := countDigits f false rest
      (c :: digits, after)
    else ([], c :: rest)

/-- A count: none if no digit is there. -/
def readCount (f : Flags) (cs : List Char) : Except PatternError (Option Nat × List Char) :=
  let (digits, rest) := countDigits f false (cs.dropWhile Text.isBlank)
  let rest := f.skip (rest.dropWhile Text.isBlank)
  if digits.isEmpty then .ok (none, rest)
  else
    let n := digits.foldl (fun n c => 10 * n + (c.toNat - '0'.toNat)) 0
    if n < 4294967296 then .ok (some n, rest) else .error .repetitionCount

/-- Repeat a pattern at least `low` times, and at most `high` times if that is given. -/
def Expr.counted (e : Expr) (low : Nat) (high : Option Nat) : Except PatternError Expr :=
  if maxLeaves < e.leaves * high.getD low then .error .tooLarge
  else match high with
    | none => .ok (e.times (.star e) low)
    | some high =>
      if high = low then .ok (.seqAll (List.replicate low e))
      else .ok (e.times (e.upTo (high - low)) low)

/-- Read a counted repetition, from the character after its brace. -/
def countedRepetition (st : ReaderState) (cs : List Char) :
    Except PatternError (ReaderState × List Char) := do
  let f := st.flags
  let (low, rest) ← readCount f (f.skip cs)
  let finish (low : Nat) (high : Option Nat) (rest : List Char) :
      Except PatternError (ReaderState × List Char) :=
    match rest with
    | '\x7d' :: after => do
      let st ← st.repeatLast fun e => e.counted low high
      .ok (st, dropLazy (f.skip after))
    | _ => .error .repetitionCount
  match low, rest with
  | some low, ',' :: rest =>
    match f.skip rest with
    | '\x7d' :: after => finish low none ('\x7d' :: after)
    | rest => do
      let (high, after) ← readCount f rest
      match high with
      | some high => if low ≤ high then finish low (some high) after else .error .repetitionCount
      | none => .error .repetitionCount
  | some low, rest => finish low (some low) rest
  | none, _ => .error .repetitionCount

/-- Read the rest of a pattern. -/
def readLoop : Nat → ReaderState → List Char → Except PatternError Expr
  | 0, _, _ => .error .tooLarge
  | fuel + 1, st, cs =>
    match st.flags.skip cs with
    | [] => st.finish
    | '(' :: rest => do
      let (st, rest) ← openGroup st rest
      readLoop fuel st rest
    | ')' :: rest => do
      let st ← st.closeGroup
      readLoop fuel st rest
    | '|' :: rest => readLoop fuel st.nextBranch rest
    | '[' :: rest => do
      let (s, rest) ← bracketed st.flags rest
      readLoop fuel (st.push (.chars s)) rest
    | '?' :: rest => do
      let st ← st.repeatLast (.ok ·.optional)
      readLoop fuel st (dropLazy rest)
    | '*' :: rest => do
      let st ← st.repeatLast (.ok ∘ .star)
      readLoop fuel st (dropLazy rest)
    | '+' :: rest => do
      let st ← st.repeatLast (.ok ·.plus)
      readLoop fuel st (dropLazy rest)
    | '\x7b' :: rest => do
      let (st, rest) ← countedRepetition st rest
      readLoop fuel st rest
    | '\\' :: rest => do
      let (p, rest) ← escape st.flags rest
      readLoop fuel (st.push (st.flags.primitive p)) rest
    | '.' :: rest => do
      let e ← st.flags.dot
      readLoop fuel (st.push e) rest
    | '^' :: rest => readLoop fuel (st.push (.look st.flags.caret)) rest
    | '$' :: rest => readLoop fuel (st.push (.look st.flags.dollar)) rest
    | c :: rest => readLoop fuel (st.push (st.flags.literal c)) rest

/-- Read a pattern from its text, ignoring letter case from the start if asked to. -/
def Expr.ofText? (text : List Char) (ignoreCase : Bool) : Except PatternError Expr :=
  readLoop (text.length + 1) { flags := { ignoreCase := ignoreCase } } text

end PatchReview.Pattern
