import PatchReview.Pattern.Basic

/-!
# Searching a text for a pattern

A pattern is run over a text in one pass, whatever its shape.  The run carries a
copy of the pattern in which the character leaves just read are marked.  At each
gap the marks flow to the leaves that may be read next (`enter`), and a character
keeps the marks of the leaves that accept it (`read`).  A match may start at every
gap, so each gap also starts a run of its own.
-/

namespace PatchReview.Pattern

/-- A pattern whose character leaves may carry a mark. -/
inductive Marked where
  | empty
  | chars (s : CharSet) (mark : Bool)
  | look (a : Assertion)
  | seq (e f : Marked)
  | alt (e f : Marked)
  | star (e : Marked)

/-- A pattern with no mark. -/
def Expr.unmarked : Expr → Marked
  | .empty => .empty
  | .chars s => .chars s false
  | .look a => .look a
  | .seq e f => .seq e.unmarked f.unmarked
  | .alt e f => .alt e.unmarked f.unmarked
  | .star e => .star e.unmarked

namespace Marked

/-- Whether the pattern can be passed at a gap without reading. -/
def passes (g : Gap) : Marked → Bool
  | .empty => true
  | .chars _ _ => false
  | .look a => a.holds g
  | .seq e f => e.passes g && f.passes g
  | .alt e f => e.passes g || f.passes g
  | .star _ => true

/-- Whether a mark can leave the pattern at a gap without further reading. -/
def exits (g : Gap) : Marked → Bool
  | .empty => false
  | .chars _ mark => mark
  | .look _ => false
  | .seq e f => f.exits g || (e.exits g && f.passes g)
  | .alt e f => e.exits g || f.exits g
  | .star e => e.exits g

/-- Move the marks, and one more at the start when `start` holds, over a gap to the
leaves that may be read next. -/
def enter (g : Gap) (start : Bool) : Marked → Marked
  | .empty => .empty
  | .chars s _ => .chars s start
  | .look a => .look a
  | .seq e f => .seq (e.enter g start) (f.enter g (e.exits g || (start && e.passes g)))
  | .alt e f => .alt (e.enter g start) (f.enter g start)
  | .star e => .star (e.enter g (start || e.exits g))

/-- Read a character: a mark stays on the leaves that accept it. -/
def read (c : Char) : Marked → Marked
  | .empty => .empty
  | .chars s mark => .chars s (mark && s.contains c)
  | .look a => .look a
  | .seq e f => .seq (e.read c) (f.read c)
  | .alt e f => .alt (e.read c) (f.read c)
  | .star e => .star (e.read c)

/-- Run over the rest of a text; `before` is the character read last. -/
def finds (m : Marked) (before : Option Char) : List Char → Bool
  | [] => m.exits ⟨before, none⟩ || m.passes ⟨before, none⟩
  | c :: rest =>
    let g : Gap := ⟨before, some c⟩
    m.exits g || m.passes g || finds ((m.enter g true).read c) (some c) rest

end Marked

/-- Whether a pattern occurs in a text. -/
def Expr.isMatch (e : Expr) (text : List Char) : Bool :=
  e.unmarked.finds none text

end PatchReview.Pattern
