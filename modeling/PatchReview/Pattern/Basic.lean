import PatchReview.Pattern.CharSet

/-!
# Patterns

A pattern is a regular expression over characters, with assertions about the two
neighbours of a gap between characters.  Its meaning is the relation
`Expr.Matches`: which pieces of text it matches between which neighbours.
Counted repetition, optional parts and groups are written with these six forms.
-/

namespace PatchReview.Pattern

/-- The two sides of a gap in a text: the characters next to it, if any. -/
structure Gap where
  /-- The character before the gap; none at the start of the text. -/
  before : Option Char
  /-- The character after the gap; none at the end of the text. -/
  after : Option Char

/-- What an assertion asks of a gap. -/
inductive Assertion where
  /-- The start of the text. -/
  | textStart
  /-- The end of the text. -/
  | textEnd
  /-- The start of a line that ends with a line feed. -/
  | lineStart
  /-- The end of a line that ends with a line feed. -/
  | lineEnd
  /-- The start of a line, also after a carriage return alone or with a line feed. -/
  | lineStartCRLF
  /-- The end of a line, also before a carriage return alone or with a line feed. -/
  | lineEndCRLF
  /-- A word character on exactly one side. -/
  | wordBoundary (ascii : Bool)
  /-- Word characters on both sides or on none. -/
  | notWordBoundary (ascii : Bool)
  /-- A word character on the right side only. -/
  | wordStart (ascii : Bool)
  /-- A word character on the left side only. -/
  | wordEnd (ascii : Bool)
  /-- No word character on the left side. -/
  | wordStartHalf (ascii : Bool)
  /-- No word character on the right side. -/
  | wordEndHalf (ascii : Bool)

/-- Whether a neighbour exists and is a word character, of ASCII or of any script. -/
def isWordAt (ascii : Bool) : Option Char → Bool
  | none => false
  | some c => if ascii then c.isAlphanum || c == '_' else Unicode.isWord c

/-- Whether an assertion holds at a gap. -/
def Assertion.holds (g : Gap) : Assertion → Bool
  | .textStart => g.before.isNone
  | .textEnd => g.after.isNone
  | .lineStart => g.before.isNone || g.before == some '\n'
  | .lineEnd => g.after.isNone || g.after == some '\n'
  | .lineStartCRLF =>
    g.before.isNone || g.before == some '\n' || (g.before == some '\r' && g.after != some '\n')
  | .lineEndCRLF =>
    g.after.isNone || g.after == some '\r' || (g.after == some '\n' && g.before != some '\r')
  | .wordBoundary ascii => isWordAt ascii g.before != isWordAt ascii g.after
  | .notWordBoundary ascii => isWordAt ascii g.before == isWordAt ascii g.after
  | .wordStart ascii => !isWordAt ascii g.before && isWordAt ascii g.after
  | .wordEnd ascii => isWordAt ascii g.before && !isWordAt ascii g.after
  | .wordStartHalf ascii => !isWordAt ascii g.before
  | .wordEndHalf ascii => !isWordAt ascii g.after

/-- A pattern. -/
inductive Expr where
  /-- The empty text. -/
  | empty
  /-- One character of a set. -/
  | chars (s : CharSet)
  /-- The empty text at a gap where an assertion holds. -/
  | look (a : Assertion)
  /-- One pattern, then the other. -/
  | seq (e f : Expr)
  /-- Either of two patterns. -/
  | alt (e f : Expr)
  /-- A pattern any number of times. -/
  | star (e : Expr)

namespace Expr

/-- One given character. -/
def char (c : Char) : Expr :=
  .chars (.single c)

/-- Patterns one after the other. -/
def seqAll : List Expr → Expr
  | [] => .empty
  | [e] => e
  | e :: rest => .seq e (seqAll rest)

/-- Any one of several patterns. -/
def altAll : List Expr → Expr
  | [] => .empty
  | [e] => e
  | e :: rest => .alt e (altAll rest)

/-- A pattern or nothing. -/
def optional (e : Expr) : Expr :=
  .alt e .empty

/-- A pattern at least once. -/
def plus (e : Expr) : Expr :=
  .seq e (.star e)

/-- A pattern up to `n` times. -/
def upTo (e : Expr) : Nat → Expr
  | 0 => .empty
  | 1 => optional e
  | n + 2 => optional (.seq e (upTo e (n + 1)))

/-- A pattern exactly `n` times, and then `rest`. -/
def times (e : Expr) (rest : Expr) : Nat → Expr
  | 0 => rest
  | n + 1 => .seq e (times e rest n)

/-- `e.Matches p w n` says that `e` matches the text `w` where `p` is the character
before it and `n` the one after it. -/
inductive Matches : Expr → Option Char → List Char → Option Char → Prop where
  | empty {p n} : Matches .empty p [] n
  | chars {s p c n} : s.contains c = true → Matches (.chars s) p [c] n
  | look {a p n} : a.holds ⟨p, n⟩ = true → Matches (.look a) p [] n
  | seq {e f p u v n} : Matches e p u (v.head?.or n) → Matches f (u.getLast?.or p) v n →
      Matches (.seq e f) p (u ++ v) n
  | altLeft {e f p w n} : Matches e p w n → Matches (.alt e f) p w n
  | altRight {e f p w n} : Matches f p w n → Matches (.alt e f) p w n
  | starNil {e p n} : Matches (.star e) p [] n
  | starCons {e p u v n} : Matches e p u (v.head?.or n) →
      Matches (.star e) (u.getLast?.or p) v n → Matches (.star e) p (u ++ v) n

/-- A pattern occurs in a text when it matches some piece of it in its place. -/
def OccursIn (e : Expr) (text : List Char) : Prop :=
  ∃ before piece after : List Char, text = before ++ piece ++ after ∧
    e.Matches before.getLast? piece after.head?

end Expr

end PatchReview.Pattern
