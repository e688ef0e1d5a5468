import PatchReview.Yaml.Cursor

/-!
# Text without quotes

A scalar without quotes goes on until a colon or a comment, and over the lines that are
indented further than the block around it.
-/

namespace PatchReview.Yaml.Token

/-- The word at the front of a text without quotes; `inFlow` says whether it stands in
brackets.  There, a colon does not stand directly before a bracket. -/
def plainWord (inFlow : Bool) : List Char → Option (List Char)
  | [] => some []
  | c :: rest =>
    if Text.isLineBlank c || isBreak c then some []
    else if inFlow && c == ':' && rest.head?.any (fun d => isFlowMark d || d == '?') then none
    else if (c == ':' && isBlankOrEnd rest.head?) || (inFlow && isFlowMark c) then some []
    else (plainWord inFlow rest).map (c :: ·)

/-- A text without quotes: the text, whether it ends at the start of a line, and the place
after it. -/
structure Plain where
  text : List Char
  endsLine : Bool
  after : Cursor

/-- Read the rest of a text without quotes; `text` and `gap` come before, and the block
around it is indented by less than `margin`. -/
def readPlainWords (inFlow : Bool) (margin : Int) :
    (fuel : Nat) → (text : List Char) → Gap → Cursor → Option Plain
  | 0, _, _, _ => none
  | fuel + 1, text, gap, c =>
    if c.atDocumentMark || c.next? == some '#' then some ⟨text, gap.first.isSome, c⟩
    else
      match plainWord inFlow c.rest with
      | none => none
      | some [] => some ⟨text, gap.first.isSome, c⟩
      | some word =>
        let text := text ++ gap.text ++ word
        let c := c.skip word.length
        if c.next?.any (fun d => Text.isLineBlank d || isBreak d) then
          match Gap.read margin (c.rest.length + 1) {} c with
          | none => none
          | some (gap, c) =>
            if !inFlow && c.column < margin then some ⟨text, gap.first.isSome, c⟩
            else readPlainWords inFlow margin fuel text gap c
        else some ⟨text, false, c⟩

/-- Read a text without quotes. -/
def readPlain (inFlow : Bool) (margin : Int) (c : Cursor) : Option Plain :=
  readPlainWords inFlow margin (c.rest.length + 1) [] {} c

end PatchReview.Yaml.Token
