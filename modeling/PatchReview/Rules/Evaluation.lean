import PatchReview.Pattern.Reader
import PatchReview.Rules.Clause
import PatchReview.Rules.Finding
import PatchReview.Warning

/-!
# Evaluating clauses

A clause is evaluated against the added lines of one file.  It finds every line
that its pattern occurs in, or nothing at all if its negative pattern occurs in
any line of the file.  A clause with a pattern that cannot be read finds nothing
and leaves a warning; the other clauses do not notice.
-/

namespace PatchReview

open Pattern

namespace Clause

/-- The patterns of a clause made ready. -/
structure Ready where
  /-- The pattern to find. -/
  positive : Expr
  /-- The pattern that silences the clause. -/
  negative : Option Expr

/-- Read a pattern with the letter case of the clause. -/
def readPattern (c : Clause) (pattern : String) : Except PatternError Expr :=
  Expr.ofText? pattern.toList c.ignoreCase

/-- Read both patterns of a clause. -/
def ready? (c : Clause) : Except PatternError Ready := do
  let positive ← c.readPattern c.pattern
  match c.negativePattern with
  | none => pure ⟨positive, none⟩
  | some pattern => do
    let negative ← c.readPattern pattern
    pure ⟨positive, some negative⟩

/-- What a clause finds at a line. -/
def findingAt (c : Clause) (path : String) (line : Nat) : LineFinding where
  path := path
  line := line
  message := c.message
  ruleId := c.id
  severity := c.severity

/-- The numbers, from `first` on, of the lines that a pattern occurs in. -/
def matchingLines (e : Expr) (first : Nat) : List String → List Nat
  | [] => []
  | line :: rest =>
    let others := matchingLines e (first + 1) rest
    if e.isMatch line.toList then first :: others else others

/-- Whether a clause made ready is silenced by some line. -/
def Ready.isSilenced (r : Ready) (lines : List String) : Bool :=
  match r.negative with
  | none => false
  | some negative => lines.any fun line => negative.isMatch line.toList

/-- The findings of one clause in the added lines of a file. -/
def evaluate (c : Clause) (path : String) (lines : List String) : Logged (List LineFinding) :=
  match c.ready? with
  | .error _ => .warning .invalidPattern []
  | .ok r =>
    if r.isSilenced lines then pure []
    else pure ((matchingLines r.positive 1 lines).map (c.findingAt path))

end Clause

/-- The findings of clauses in the added lines of a file, clause by clause.  Without
added lines there is nothing to read, not even a pattern. -/
def evaluateClauses (path : String) (lines : List String) (clauses : List Clause) :
    Logged (List LineFinding) :=
  if lines.isEmpty then pure []
  else List.flatten <$> Logged.forAll (·.evaluate path lines) clauses

end PatchReview
