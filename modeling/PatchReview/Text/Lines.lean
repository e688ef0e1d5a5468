import PatchReview.Text.Blank

/-!
# Lines of a text

A text is read either as its *segments*, each with the line feed that ends it,
or as its *lines*, without their terminators.  A line feed ends a line; a
carriage return belongs to the terminator only directly before a line feed, so
one that ends the text without a line feed stays part of the last line.

Main statement:

- `flatten_segments`: the segments of a text concatenate to it.
-/

namespace PatchReview.Text

/-- The segments of a text: each keeps the line feed that ends it, and only the
last may lack one. -/
def segments : List Char → List (List Char)
  | [] => []
  | c :: rest =>
    if c = '\n' then ['\n'] :: segments rest
    else match segments rest with
      | [] => [[c]]
      | first :: others => (c :: first) :: others

theorem flatten_segments (s : List Char) : (segments s).flatten = s := by
  induction s with
  | nil => rfl
  | cons c rest ih =>
    by_cases h : c = '\n'
    · simp [segments, h, ih]
    · rw [segments, if_neg h]
      cases hs : segments rest with
      | nil => rw [hs] at ih; simp [← ih]
      | cons first others => rw [hs] at ih; simp [← ih]

/-- Take a line feed, and a carriage return directly before it, off the end of a
segment. -/
def stripTerminator (segment : List Char) : List Char :=
  match segment.reverse with
  | '\n' :: '\r' :: body => body.reverse
  | '\n' :: body => body.reverse
  | _ => segment

/-- The lines of a text, without their terminators. -/
def lines (s : List Char) : List (List Char) :=
  (segments s).map stripTerminator

end PatchReview.Text
