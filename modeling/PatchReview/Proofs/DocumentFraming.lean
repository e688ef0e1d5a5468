import Mathlib.Data.String.Basic
import PatchReview.Metadata.Framing
import PatchReview.Proofs.MarkupLines

/-!
# Where a rule document is cut

A text is a rule document if its first line is a delimiter and a later line is one too.  The
lines between the first line and the first such later line are the block, and what stands
below is the body, which may have delimiters of its own.  The cuts can be made at byte
offsets as well: the bytes of the segments add up to the starts of lines, so no cut goes
through a character.

Main definitions:

- `slice?`: a text between two byte offsets, unless one of them is inside a character.
- `Framed.Frame`: a text taken apart into delimiters, block and body.
- `Framed.ofSlices?`: taking a text apart at byte offsets.

Main results:

- Theorems `Framed.ofText?_eq_missing_iff` and `Framed.ofText?_eq_unclosed_iff`: which texts
  are not rule documents, and why.
- Theorems `Framed.exists_frame` and `Framed.ofText?_text`: every other text has a frame, and
  is taken apart as its frame says.
- Theorem `Framed.ofSlices?_eq`: taking a text apart at byte offsets never fails, and gives
  the same.
- Theorem `Framed.slice?_scalar`: what a scalar has in quotes or brackets is a slice of it.
- Theorem `Framed.ofText?_frames`: which texts are rule documents, and what is in them.
-/

namespace PatchReview

namespace Text

/-! ## Slices -/

/-- The text from one byte offset to another; none if they are in the wrong order, or if one
of them is inside a character or behind the end. -/
def slice? (s : String) (start stop : Nat) : Option String :=
  if start ≤ stop ∧ String.Pos.Raw.IsValid s ⟨start⟩ ∧ String.Pos.Raw.IsValid s ⟨stop⟩ then
    some (String.Pos.Raw.extract s ⟨start⟩ ⟨stop⟩)
  else none

/-- A piece of a text is between the byte offsets where it starts and stops. -/
theorem slice?_append (before piece after : List Char) :
    slice? (String.ofList (before ++ piece ++ after)) (String.ofList before).utf8ByteSize
      (String.ofList (before ++ piece)).utf8ByteSize = some (String.ofList piece) := by
  have hvalid : ∀ first rest : List Char,
      String.Pos.Raw.IsValid (String.ofList (first ++ rest)) ⟨(String.ofList first).utf8ByteSize⟩ :=
    fun first rest => String.Pos.Raw.isValid_iff_exists_append.2
      ⟨String.ofList first, String.ofList rest, String.ofList_append, rfl⟩
  have hsize : (String.ofList (before ++ piece)).utf8ByteSize =
      String.utf8Len before + String.utf8Len piece := by
    rw [String.utf8ByteSize_ofList, String.utf8Len_append]
  have hstart := hvalid before (piece ++ after)
  rw [← List.append_assoc] at hstart
  rw [slice?, if_pos ⟨by rw [hsize, String.utf8ByteSize_ofList]; omega, hstart, hvalid _ after⟩,
    hsize, String.utf8ByteSize_ofList, String.extract_of_valid]

end Text

namespace Framed

open Text

/-! ## Delimiters -/

/-- A line feed at the end does not make a line a delimiter, nor keep it from being one. -/
theorem isDelimiter_append (line : List Char) :
    isDelimiter (line ++ ['\n']) = isDelimiter line := by
  have hblank : ∀ c ∈ ['\n'], isBlank c = true := List.forall_mem_singleton.2 (by decide)
  rw [isDelimiter, trimEnd_append_blank line ['\n'] hblank, isDelimiter]

/-- Segments are not cut if none of them is a delimiter. -/
theorem splitAtDelimiter_eq_none_iff {segments : List (List Char)} :
    splitAtDelimiter segments = none ↔ ∀ segment ∈ segments, isDelimiter segment = false := by
  induction segments with
  | nil => exact ⟨fun _ => nofun, fun _ => rfl⟩
  | cons segment rest ih =>
      rw [splitAtDelimiter, List.forall_mem_cons, ← ih]
      cases isDelimiter segment with
      | true => simp
      | false => simp

/-- Segments are cut at the first delimiter. -/
theorem splitAtDelimiter_append {block : List (List Char)}
    (hblock : ∀ segment ∈ block, isDelimiter segment = false) {delimiter : List Char}
    (hdelimiter : isDelimiter delimiter = true) (rest : List (List Char)) :
    splitAtDelimiter (block ++ delimiter :: rest) = some (block, rest) := by
  induction block with
  | nil => exact if_pos hdelimiter
  | cons segment block ih =>
      obtain ⟨hsegment, hrest⟩ := List.forall_mem_cons.1 hblock
      rw [List.cons_append, splitAtDelimiter, hsegment, ih hrest]
      rfl

/-! ## Frames -/

/-- A line that is a delimiter. -/
def IsDelimiterLine (line : List Char) : Prop :=
  '\n' ∉ line ∧ isDelimiter line = true

/-- A line that is no delimiter. -/
def IsBlockLine (line : List Char) : Prop :=
  '\n' ∉ line ∧ isDelimiter line = false

/-- A text taken apart: a delimiter, the lines of a block, a delimiter, and what stands
below, if the text goes on. -/
structure Frame where
  opening : List Char
  block : List (List Char)
  closing : List Char
  body : Option (List Char)
  opening_isDelimiter : IsDelimiterLine opening
  block_isBlock : ∀ line ∈ block, IsBlockLine line
  closing_isDelimiter : IsDelimiterLine closing

namespace Frame

/-- What stands behind the closing delimiter. -/
def tail (f : Frame) : List Char :=
  match f.body with
  | none => []
  | some body => '\n' :: body

/-- The text that is taken apart. -/
def text (f : Frame) : List Char :=
  joinLines (f.opening :: f.block) ++ (f.closing ++ f.tail)

/-- What is read from a text taken apart. -/
def framed (f : Frame) : Framed :=
  ⟨Metadata.ofText (String.ofList (joinLines f.block)), String.ofList (trim (f.body.getD []))⟩

end Frame

/-- The first line of a text. -/
def firstLine (text : List Char) : List Char :=
  (fields (· == '\n') text).headD []

/-- The lines of a text after the first. -/
def laterLines (text : List Char) : List (List Char) :=
  (fields (· == '\n') text).tail

/-- The first segment is a delimiter if the first line is, and later segments are if later
lines are. -/
theorem segments_cases (text : List Char) :
    text = [] ∨ ∃ first rest, segments text = first :: rest ∧
      isDelimiter first = isDelimiter (firstLine text) ∧
      ((∀ segment ∈ rest, isDelimiter segment = false) ↔
        ∀ line ∈ laterLines text, isDelimiter line = false) := by
  obtain ⟨ls, last, rfl, hfields, hls, hlast⟩ := exists_joinLines_append text
  rw [firstLine, laterLines, hfields, segments_joinLines hls]
  -- an empty last line has no segment, and is no delimiter either
  have hend : (∀ segment ∈ segments last, isDelimiter segment = false) ↔
      isDelimiter last = false := by
    by_cases hne : last = []
    · rw [hne]
      exact ⟨fun _ => rfl, fun _ => nofun⟩
    · rw [segments_of_newline_notMem hlast hne, List.forall_mem_singleton]
  cases ls with
  | nil =>
      by_cases hne : last = []
      · exact Or.inl hne
      · refine Or.inr ⟨last, [], segments_of_newline_notMem hlast hne, rfl, ?_⟩
        exact ⟨fun _ => nofun, fun _ => nofun⟩
  | cons line ls =>
      refine Or.inr ⟨line ++ ['\n'], ls.map (· ++ ['\n']) ++ segments last, rfl,
        isDelimiter_append line, ?_⟩
      have hmap : (∀ segment ∈ ls.map (· ++ ['\n']), isDelimiter segment = false) ↔
          ∀ other ∈ ls, isDelimiter other = false := by
        simp only [List.forall_mem_map, isDelimiter_append]
      have hlater : (line :: ls ++ [last]).tail = ls ++ [last] := rfl
      rw [hlater, List.forall_mem_append, List.forall_mem_append, List.forall_mem_singleton, hend,
        hmap]

/-! ## Texts of each kind -/

/-- A text whose first line is no delimiter is no rule document. -/
theorem ofText?_eq_missing_iff (content : String) :
    ofText? content = .error .missing ↔ dropMarks content.toList = [] ∨
      isDelimiter (firstLine (dropMarks content.toList)) = false := by
  rw [ofText?]
  rcases segments_cases (dropMarks content.toList) with hnil | ⟨first, rest, hsegments, hfirst, -⟩
  · rw [hnil]
    exact ⟨fun _ => Or.inl rfl, fun _ => rfl⟩
  · have hne : dropMarks content.toList ≠ [] := by
      intro hnil
      rw [hnil] at hsegments
      cases hsegments
    rw [hsegments, or_iff_right hne, ← hfirst]
    dsimp only
    cases isDelimiter first with
    | false => simp
    | true =>
        rw [if_pos rfl]
        constructor
        · split <;> exact nofun
        · exact nofun

/-- A text whose first line alone is a delimiter is not closed. -/
theorem ofText?_eq_unclosed_iff (content : String) :
    ofText? content = .error .unclosed ↔
      isDelimiter (firstLine (dropMarks content.toList)) = true ∧
        ∀ line ∈ laterLines (dropMarks content.toList), isDelimiter line = false := by
  rw [ofText?]
  rcases segments_cases (dropMarks content.toList) with
    hnil | ⟨first, rest, hsegments, hfirst, hlater⟩
  · rw [hnil]
    exact ⟨nofun, fun h => absurd h.1 (by decide)⟩
  · rw [hsegments, ← hfirst, ← hlater, ← splitAtDelimiter_eq_none_iff]
    dsimp only
    cases isDelimiter first with
    | false => exact ⟨nofun, fun h => nomatch h.1⟩
    | true =>
        rw [if_pos rfl]
        cases splitAtDelimiter rest with
        | none => simp
        | some cut => exact ⟨nofun, fun h => nomatch h.2⟩

/-- A delimiter starts with its dashes. -/
theorem exists_eq_of_isDelimiter {line : List Char} (h : isDelimiter line = true) :
    ∃ blanks, line = ['-', '-', '-'] ++ blanks := by
  obtain ⟨blanks, hblanks⟩ := trimEnd_prefix line
  rw [isDelimiter, beq_iff_eq] at h
  exact ⟨blanks, by rw [← h, hblanks]⟩

/-- The byte order marks before a frame do not count, and nothing else is dropped. -/
theorem dropMarks_append_text (f : Frame) {marks : List Char} (hmarks : ∀ c ∈ marks, c = '\uFEFF') :
    dropMarks (marks ++ f.text) = f.text := by
  obtain ⟨blanks, hopening⟩ := exists_eq_of_isDelimiter f.opening_isDelimiter.2
  have htext : dropMarks f.text = f.text := by
    rw [Frame.text, hopening]
    rfl
  rw [dropMarks, List.dropWhile_append_of_pos (by simpa using hmarks), ← dropMarks, htext]

/-- The segments of a frame. -/
theorem segments_text (f : Frame) :
    ∃ delimiter rest, isDelimiter delimiter = true ∧ trim rest.flatten = trim (f.body.getD []) ∧
      segments f.text =
        (f.opening ++ ['\n']) :: (f.block.map (· ++ ['\n']) ++ delimiter :: rest) := by
  have hlines : ∀ line ∈ f.opening :: f.block, '\n' ∉ line :=
    List.forall_mem_cons.2 ⟨f.opening_isDelimiter.1, fun line hline => (f.block_isBlock line hline).1⟩
  obtain ⟨hnewline, hclosing⟩ := f.closing_isDelimiter
  rw [Frame.text, segments_joinLines hlines, Frame.tail]
  cases f.body with
  | none =>
      have hne : f.closing ≠ [] := by
        intro hnil
        rw [hnil] at hclosing
        cases hclosing
      refine ⟨f.closing, [], hclosing, rfl, ?_⟩
      rw [List.append_nil, segments_of_newline_notMem hnewline hne]
      rfl
  | some body =>
      refine ⟨f.closing ++ ['\n'], segments body, (isDelimiter_append _).trans hclosing, ?_, ?_⟩
      · rw [flatten_segments]
        rfl
      · rw [segments_append hnewline]
        rfl

/-- A text taken apart is a rule document with this block and this body, whatever marks stand
before it. -/
theorem ofText?_text (f : Frame) {marks : List Char} (hmarks : ∀ c ∈ marks, c = '\uFEFF') :
    ofText? (String.ofList (marks ++ f.text)) = .ok f.framed := by
  obtain ⟨delimiter, rest, hdelimiter, hbody, hsegments⟩ := segments_text f
  have hblock : ∀ segment ∈ f.block.map (· ++ ['\n']), isDelimiter segment = false := by
    refine List.forall_mem_map.2 fun line hline => ?_
    rw [isDelimiter_append]
    exact (f.block_isBlock line hline).2
  rw [ofText?, String.toList_ofList, dropMarks_append_text f hmarks, hsegments]
  dsimp only
  rw [isDelimiter_append, if_pos f.opening_isDelimiter.2, splitAtDelimiter_append hblock hdelimiter]
  dsimp only
  rw [hbody, Frame.framed, joinLines, List.flatMap_def]

/-- A text whose first line and a later line are delimiters is taken apart. -/
theorem exists_frame {text : List Char} (hfirst : isDelimiter (firstLine text) = true)
    (hlater : ¬ ∀ line ∈ laterLines text, isDelimiter line = false) :
    ∃ f : Frame, text = f.text := by
  obtain ⟨ls, last, rfl, hfields, hls, hlast⟩ := exists_joinLines_append text
  rw [firstLine, hfields] at hfirst
  rw [laterLines, hfields] at hlater
  cases ls with
  | nil => exact absurd nofun hlater
  | cons opening more =>
      obtain ⟨hopening, hmore⟩ := List.forall_mem_cons.1 hls
      have hlines : ∀ line ∈ more ++ [last], '\n' ∉ line :=
        List.forall_mem_append.2 ⟨hmore, List.forall_mem_singleton.2 hlast⟩
      cases hfind : (more ++ [last]).find? isDelimiter with
      | none => exact absurd (fun line hline => by simpa using List.find?_eq_none.1 hfind line hline) hlater
      | some closing =>
          obtain ⟨hclosing, block, after, hcut, hblock⟩ := List.find?_eq_some_iff_append.1 hfind
          rw [hcut] at hlines
          obtain ⟨hblockLines, hclosingLine⟩ := List.forall_mem_append.1 hlines
          let f (body : Option (List Char)) : Frame :=
            ⟨opening, block, closing, body, ⟨hopening, hfirst⟩,
              fun line hline => ⟨hblockLines line hline, by simpa using hblock line hline⟩,
              ⟨(List.forall_mem_cons.1 hclosingLine).1, hclosing⟩⟩
          -- the closing delimiter is the last line, or one with a line feed behind it
          rcases List.eq_nil_or_concat after with rfl | ⟨below, x, rfl⟩
          · obtain ⟨rfl, hx⟩ := List.append_inj' hcut rfl
            obtain rfl := List.singleton_inj.1 hx
            exact ⟨f none, by simp [f, Frame.text, Frame.tail]⟩
          · have hcut : more ++ [last] = block ++ closing :: below ++ [x] := by simpa using hcut
            obtain ⟨rfl, hx⟩ := List.append_inj' hcut rfl
            obtain rfl := List.singleton_inj.1 hx
            exact ⟨f (some (joinLines below ++ last)), by simp [f, Frame.text, Frame.tail, joinLines]⟩

/-! ## Cuts at byte offsets -/

/-- Look for the closing delimiter in the segments that start at a byte offset, the block
having started at another, and take the block and the body out of the text. -/
def closeAt? (text : String) (start offset : Nat) :
    List (List Char) → Option (Except FramingError Framed)
  | [] => some (.error .unclosed)
  | segment :: rest =>
    let next := offset + (String.ofList segment).utf8ByteSize
    if isDelimiter segment then do
      let block ← slice? text start offset
      let body ← slice? text next text.utf8ByteSize
      some (.ok ⟨Metadata.ofText block, String.ofList (trim body.toList)⟩)
    else closeAt? text start next rest

/-- Take a rule document apart at byte offsets; none if a slice cannot be taken. -/
def ofSlices? (content : String) : Option (Except FramingError Framed) :=
  let text := String.ofList (dropMarks content.toList)
  match segments text.toList with
  | [] => some (.error .missing)
  | first :: rest =>
    if isDelimiter first then
      let start := (String.ofList first).utf8ByteSize
      closeAt? text start start rest
    else some (.error .missing)

/-- With the offset at the start of a segment, the slices are the block and the body. -/
theorem closeAt?_eq (first block : List Char) (rest : List (List Char)) :
    closeAt? (String.ofList (first ++ block ++ rest.flatten)) (String.ofList first).utf8ByteSize
        (String.ofList (first ++ block)).utf8ByteSize rest =
      some (match splitAtDelimiter rest with
        | none => .error .unclosed
        | some (more, body) =>
          .ok ⟨Metadata.ofText (String.ofList (block ++ more.flatten)),
            String.ofList (trim body.flatten)⟩) := by
  induction rest generalizing block with
  | nil => rfl
  | cons segment rest ih =>
      have hnext : (String.ofList (first ++ block)).utf8ByteSize +
          (String.ofList segment).utf8ByteSize =
          (String.ofList (first ++ (block ++ segment))).utf8ByteSize := by
        rw [← String.utf8ByteSize_append, ← String.ofList_append, List.append_assoc]
      have htext : first ++ block ++ (segment :: rest).flatten =
          first ++ (block ++ segment) ++ rest.flatten := by simp
      have hbody := slice?_append (first ++ (block ++ segment)) rest.flatten []
      rw [List.append_nil, ← htext] at hbody
      rw [closeAt?, splitAtDelimiter, hnext]
      dsimp only
      split
      · rw [slice?_append, hbody]
        simp
      · rw [htext, ih]
        cases splitAtDelimiter rest with
        | none => rfl
        | some cut => simp

/-- Taking a text apart at byte offsets never fails, and gives the same. -/
theorem ofSlices?_eq (content : String) : ofSlices? content = some (ofText? content) := by
  rw [ofSlices?, ofText?]
  dsimp only
  rw [String.toList_ofList]
  have hflatten := flatten_segments (dropMarks content.toList)
  cases hsegments : segments (dropMarks content.toList) with
  | nil => rfl
  | cons first rest =>
      rw [hsegments, List.flatten_cons] at hflatten
      dsimp only
      split
      · have hclose := closeAt?_eq first [] rest
        rw [List.append_nil, hflatten] at hclose
        exact hclose
      · rfl

/-! ## Texts in quotes and brackets -/

/-- What stands between two characters of one byte each is the slice from the second byte to
the last. -/
theorem slice?_between {first last : Char} (hfirst : first.utf8Size = 1) (hlast : last.utf8Size = 1)
    (inner : List Char) :
    let text := String.ofList (first :: (inner ++ [last]))
    slice? text 1 (text.utf8ByteSize - 1) = some (String.ofList inner) := by
  intro text
  have hslice := slice?_append [first] inner [last]
  have hstart : (String.ofList [first]).utf8ByteSize = 1 := by
    rw [String.utf8ByteSize_ofList, String.utf8Len_cons, String.utf8Len_nil, hfirst]
  have hstop : (String.ofList ([first] ++ inner)).utf8ByteSize = text.utf8ByteSize - 1 := by
    simp [text, String.utf8ByteSize_ofList, hlast]
  rwa [hstart, hstop] at hslice

/-- The text between quotes of one byte is a slice. -/
theorem slice?_unquoteWith {quote : Char} (hsize : quote.utf8Size = 1) {s inner : List Char}
    (h : Metadata.unquoteWith quote s = some inner) :
    slice? (String.ofList s) 1 ((String.ofList s).utf8ByteSize - 1) = some (String.ofList inner) := by
  cases s with
  | nil => cases h
  | cons c rest =>
      rw [Metadata.unquoteWith] at h
      split at h
      · next hquotes =>
        obtain ⟨rfl, hend⟩ := hquotes
        obtain ⟨body, rfl⟩ := List.getLast?_eq_some_iff.1 hend
        rw [List.dropLast_concat] at h
        obtain rfl := Option.some.inj h
        exact slice?_between hsize hsize body
      · cases h

/-- The text between brackets is a slice. -/
theorem slice?_bracketedText {s inner : List Char} (h : Metadata.bracketedText s = some inner) :
    slice? (String.ofList s) 1 ((String.ofList s).utf8ByteSize - 1) = some (String.ofList inner) := by
  unfold Metadata.bracketedText at h
  split at h
  · next rest =>
    split at h
    · next hend =>
      obtain ⟨body, rfl⟩ := List.getLast?_eq_some_iff.1 hend
      rw [List.dropLast_concat] at h
      obtain rfl := Option.some.inj h
      exact slice?_between rfl rfl body
    · cases h
  · cases h

/-- The text that a scalar has in quotes or brackets is the slice from its second byte to its
last: no cut goes through a character there either. -/
theorem slice?_scalar {s inner : List Char}
    (h : (∃ quote ∈ ['"', '\''], Metadata.unquoteWith quote s = some inner) ∨
      Metadata.bracketedText s = some inner) :
    slice? (String.ofList s) 1 ((String.ofList s).utf8ByteSize - 1) = some (String.ofList inner) := by
  rcases h with ⟨quote, hquote, hunquote⟩ | hbracket
  · have hsize : quote.utf8Size = 1 := by
      rcases List.mem_cons.1 hquote with rfl | hquote
      · rfl
      · rw [List.mem_singleton.1 hquote]
        rfl
    exact slice?_unquoteWith hsize hunquote
  · exact slice?_bracketedText hbracket

/-! ## Rule documents -/

/-- Which texts are rule documents, and what is in them.  Byte order marks at the start do
not count.  A text that is empty, or whose first line is no delimiter, has no metadata; one
whose first line is the only delimiter is not closed; any other is taken apart at the first
later delimiter, and the body may have more of them.  The cuts can be made at byte offsets,
none of which is inside a character, and neither are the offsets of what stands in quotes or
brackets in the block. -/
theorem ofText?_frames (content : String) :
    (ofText? content = .error .missing ↔ dropMarks content.toList = [] ∨
        isDelimiter (firstLine (dropMarks content.toList)) = false) ∧
      (ofText? content = .error .unclosed ↔
        isDelimiter (firstLine (dropMarks content.toList)) = true ∧
          ∀ line ∈ laterLines (dropMarks content.toList), isDelimiter line = false) ∧
      (∀ framed, ofText? content = .ok framed ↔
        ∃ f : Frame, dropMarks content.toList = f.text ∧ framed = f.framed) ∧
      (∀ (marks : List Char) (f : Frame), (∀ c ∈ marks, c = '\uFEFF') →
        ofText? (String.ofList (marks ++ f.text)) = .ok f.framed) ∧
      ofSlices? content = some (ofText? content) ∧
      ∀ s inner : List Char,
        ((∃ quote ∈ ['"', '\''], Metadata.unquoteWith quote s = some inner) ∨
          Metadata.bracketedText s = some inner) →
        slice? (String.ofList s) 1 ((String.ofList s).utf8ByteSize - 1) =
          some (String.ofList inner) := by
  refine ⟨ofText?_eq_missing_iff content, ofText?_eq_unclosed_iff content, fun framed => ?_,
    fun marks f hmarks => ofText?_text f hmarks, ofSlices?_eq content,
    fun s inner hinner => slice?_scalar hinner⟩
  have hframe : ∀ f : Frame, dropMarks content.toList = f.text → ofText? content = .ok f.framed := by
    intro f htext
    have hmarks : ∀ c ∈ content.toList.takeWhile (· == '\uFEFF'), c = '\uFEFF' := by
      intro c hc
      simpa using List.all_eq_true.1 List.all_takeWhile c hc
    have hcontent : content.toList.takeWhile (· == '\uFEFF') ++ f.text = content.toList := by
      rw [← htext]
      exact List.takeWhile_append_dropWhile
    have hread := ofText?_text f hmarks
    rwa [hcontent, String.ofList_toList] at hread
  constructor
  · intro hok
    have hfirst : isDelimiter (firstLine (dropMarks content.toList)) = true := by
      rw [← Bool.not_eq_false]
      intro hmissing
      rw [(ofText?_eq_missing_iff content).2 (Or.inr hmissing)] at hok
      cases hok
    have hlater : ¬ ∀ line ∈ laterLines (dropMarks content.toList), isDelimiter line = false := by
      intro hunclosed
      rw [(ofText?_eq_unclosed_iff content).2 ⟨hfirst, hunclosed⟩] at hok
      cases hok
    obtain ⟨f, htext⟩ := exists_frame hfirst hlater
    rw [hframe f htext] at hok
    exact ⟨f, htext, (Except.ok.inj hok).symm⟩
  · rintro ⟨f, htext, rfl⟩
    exact hframe f htext

/-- A document with a byte order mark, a carriage return and a blank behind its delimiters, a
character of two bytes in its block, and a delimiter in its body. -/
theorem ofText?_frames_delimiter_in_body :
    let marks := ['\uFEFF']
    let f : Frame := {
      opening := "---\r".toList
      block := ["title: é".toList]
      closing := "--- ".toList
      body := some "one\n---\ntwo\n".toList
      opening_isDelimiter := ⟨by decide, by decide⟩
      block_isBlock := List.forall_mem_singleton.2 ⟨by decide, by decide⟩
      closing_isDelimiter := ⟨by decide, by decide⟩ }
    let content := String.ofList (marks ++ f.text)
    (∀ c ∈ marks, c = '\uFEFF') ∧ ofText? content = .ok f.framed ∧
      f.framed.body = "one\n---\ntwo" ∧ ofSlices? content = some (.ok f.framed) := by
  intro marks f content
  have hmarks : ∀ c ∈ marks, c = '\uFEFF' := List.forall_mem_singleton.2 rfl
  obtain ⟨-, -, -, hframe, hslices, -⟩ := ofText?_frames content
  have hread : ofText? content = .ok f.framed := hframe marks f hmarks
  rw [hread] at hslices
  exact ⟨hmarks, hread, by decide, hslices⟩

end Framed

end PatchReview
