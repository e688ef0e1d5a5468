import Mathlib.Data.List.Forall2
import PatchReview.Proofs.DocumentFraming
import PatchReview.Proofs.SignificantLines

/-!
# The layout of a rule document

The metadata of a rule document do not depend on its layout: on how lines are ended, on
spaces and tabs at their ends, and on blank lines and comments between them.  They are
decided by the lines of the text, and these count only up to blanks at their ends, the
lines of the block only as far as they say something.

Main definitions:

- `Framed.Relaid`: the lines below an opening delimiter laid out anew.
- `Framed.metadataOfLines`: the metadata of a text, from its lines.

Main results:

- Theorem `Framed.metadata_ofText?_intercalate`: the metadata are those of the lines.
- Theorem `Framed.Relaid.blockLines?_eq`: lines that are laid out anew say the same.
- Theorem `Framed.metadata_of_relaid`: the layout does not change the metadata, nor whether
  and why there are none.
-/

namespace PatchReview

namespace Text

/-- A line with blanks behind it. -/
def IsPadded (line padded : List Char) : Prop :=
  ∃ blanks, padded = line ++ blanks ∧ ∀ c ∈ blanks, isBlank c = true ∧ c ≠ '\n'

/-- A line has no blanks behind it, to begin with. -/
theorem IsPadded.refl (line : List Char) : IsPadded line line :=
  ⟨[], (List.append_nil line).symm, nofun⟩

/-- Lines joined by either line end are joined by line feeds, with blanks behind the lines. -/
theorem exists_intercalate_spell (lineEnd : LineEnd) (ls : List (List Char)) :
    ∃ padded, lineEnd.spell.intercalate ls = ['\n'].intercalate padded ∧
      List.Forall₂ IsPadded ls padded := by
  obtain ⟨blanks, hspell, hblanks⟩ : ∃ blanks, lineEnd.spell = blanks ++ ['\n'] ∧
      ∀ c ∈ blanks, isBlank c = true ∧ c ≠ '\n' := by
    cases lineEnd with
    | feed => exact ⟨[], rfl, nofun⟩
    | returnFeed => exact ⟨['\r'], rfl, List.forall_mem_singleton.2 (by decide)⟩
  induction ls with
  | nil => exact ⟨[], rfl, .nil⟩
  | cons line ls ih =>
      cases ls with
      | nil => exact ⟨[line], by rw [List.intercalate_singleton, List.intercalate_singleton],
          .cons (.refl line) .nil⟩
      | cons next ls =>
          obtain ⟨padded, hpadded, hlines⟩ := ih
          refine ⟨(line ++ blanks) :: padded, ?_, .cons ⟨blanks, rfl, hblanks⟩ hlines⟩
          cases hlines with
          | cons hnext hmore =>
              rw [List.intercalate_cons_cons, hpadded, hspell, List.intercalate_cons_cons,
                List.append_assoc line blanks]

end Text

namespace Framed

open Metadata Text

/-! ## Laying lines out anew -/

/-- A line that is blank, or whose first character that is not blank is `#`. -/
def IsRemark (line : List Char) : Prop :=
  '\n' ∉ line ∧ ∃ blanks rest, line = blanks ++ rest ∧ (∀ c ∈ blanks, isBlank c = true) ∧
    (rest = [] ∨ rest.head? = some '#')

/-- The lines below an opening delimiter laid out anew: padding is put behind the lines of the
block and behind the delimiter that closes it, and remarks between them.  The body stays as
it is. -/
inductive Relaid : List (List Char) → List (List Char) → Prop
  | nil : Relaid [] []
  | remark {remark : List Char} {before after : List (List Char)} (hremark : IsRemark remark)
      (h : Relaid before after) : Relaid before (remark :: after)
  | line {line padding : List Char} {before after : List (List Char)}
      (hline : isDelimiter line = false) (hpadding : IsPadding padding) (h : Relaid before after) :
      Relaid (line :: before) ((line ++ padding) :: after)
  | close {line padding : List Char} (hline : isDelimiter line = true)
      (hpadding : IsPadding padding) (body : List (List Char)) :
      Relaid (line :: body) ((line ++ padding) :: body)

/-- A remark says nothing. -/
theorem IsRemark.isSignificant_eq {line : List Char} (h : IsRemark line) :
    isSignificant line = false := by
  obtain ⟨-, blanks, rest, rfl, hblanks, hrest⟩ := h
  rw [isSignificant, trim_append hblanks]
  rcases hrest with rfl | hhead
  · rfl
  · obtain ⟨tail, rfl⟩ := List.head?_eq_some_iff.1 hhead
    have hstart : trimStart ('#' :: tail) = '#' :: tail := rfl
    rw [trim, hstart, trimEnd_cons (by decide)]
    rfl

/-- A remark is no delimiter. -/
theorem IsRemark.isDelimiter_eq {line : List Char} (h : IsRemark line) :
    isDelimiter line = false := by
  obtain ⟨-, blanks, rest, rfl, hblanks, hrest⟩ := h
  rw [← Bool.not_eq_true]
  intro hdelimiter
  obtain ⟨more, hmore⟩ := exists_eq_of_isDelimiter hdelimiter
  have hhead : (blanks ++ rest).head? = some '-' := congrArg List.head? hmore
  cases blanks with
  | nil =>
      rcases hrest with rfl | hsharp
      · cases hhead
      · cases hsharp.symm.trans hhead
  | cons c blanks =>
      obtain rfl := Option.some.inj hhead
      exact absurd (hblanks '-' List.mem_cons_self) (by decide)

/-- Lines that are laid out anew are lines. -/
theorem Relaid.newline_notMem {before after : List (List Char)} (h : Relaid before after)
    (hbefore : ∀ line ∈ before, '\n' ∉ line) : ∀ line ∈ after, '\n' ∉ line := by
  have hpad : ∀ {line padding : List Char}, '\n' ∉ line → IsPadding padding →
      '\n' ∉ line ++ padding := by
    intro line padding hline hpadding
    rw [List.mem_append, not_or]
    exact ⟨hline, hpadding.newline_notMem⟩
  induction h with
  | nil => exact hbefore
  | remark hremark h ih => exact List.forall_mem_cons.2 ⟨hremark.1, ih hbefore⟩
  | line hline hpadding h ih =>
      obtain ⟨hfirst, hrest⟩ := List.forall_mem_cons.1 hbefore
      exact List.forall_mem_cons.2 ⟨hpad hfirst hpadding, ih hrest⟩
  | close hline hpadding body =>
      obtain ⟨hfirst, hrest⟩ := List.forall_mem_cons.1 hbefore
      exact List.forall_mem_cons.2 ⟨hpad hfirst hpadding, hrest⟩

/-! ## What the lines of a block say -/

/-- The significant lines up to the first delimiter; none if there is no delimiter. -/
def blockLines? (later : List (List Char)) : Option (List Line) :=
  (splitAtDelimiter later).map fun cut => (cut.1.filter isSignificant).map Line.ofText

/-- A delimiter ends the block, and another line is a part of it. -/
theorem blockLines?_cons (line : List Char) (later : List (List Char)) :
    blockLines? (line :: later) =
      if isDelimiter line then some []
      else (blockLines? later).map fun ls => ([line].filter isSignificant).map Line.ofText ++ ls := by
  rw [blockLines?, blockLines?, splitAtDelimiter]
  split
  · rfl
  · rw [Option.map_map, Option.map_map]
    congr 1
    funext cut
    rw [Function.comp_apply, Function.comp_apply, ← List.map_append, ← List.filter_append]
    rfl

/-- Blanks at the end do not make a line a delimiter, nor keep it from being one. -/
theorem isDelimiter_append_blank (line blanks : List Char) (h : ∀ c ∈ blanks, isBlank c = true) :
    isDelimiter (line ++ blanks) = isDelimiter line := by
  rw [isDelimiter, trimEnd_append_blank line blanks h, isDelimiter]

/-- Blanks at the end of a line do not count in the block. -/
theorem blockLines?_append_blank (line blanks : List Char) (h : ∀ c ∈ blanks, isBlank c = true)
    (later : List (List Char)) :
    blockLines? ((line ++ blanks) :: later) = blockLines? (line :: later) := by
  have hsay : ([line ++ blanks].filter isSignificant).map Line.ofText =
      ([line].filter isSignificant).map Line.ofText := by
    rw [List.filter_singleton, List.filter_singleton, isSignificant_append_blank line blanks h]
    cases isSignificant line with
    | false => rfl
    | true =>
        change [Line.ofText (line ++ blanks)] = [Line.ofText line]
        rw [Line.ofText_append_blank line blanks h]
  rw [blockLines?_cons, blockLines?_cons, isDelimiter_append_blank line blanks h, hsay]

/-- The lines of a block that is laid out anew say the same. -/
theorem Relaid.blockLines?_eq {before after : List (List Char)} (h : Relaid before after) :
    blockLines? after = blockLines? before := by
  induction h with
  | nil => rfl
  | remark hremark h ih =>
      rw [blockLines?_cons, hremark.isDelimiter_eq, if_neg Bool.false_ne_true,
        List.filter_singleton, hremark.isSignificant_eq, ih]
      exact Option.map_id'
  | line hline hpadding h ih =>
      rw [blockLines?_append_blank _ _ hpadding.isBlank, blockLines?_cons, blockLines?_cons, ih]
  | close hline hpadding body => exact blockLines?_append_blank _ _ hpadding.isBlank body

/-- So do lines with blanks behind them. -/
theorem blockLines?_of_isPadded {later padded : List (List Char)}
    (h : List.Forall₂ IsPadded later padded) : blockLines? padded = blockLines? later := by
  induction h with
  | nil => rfl
  | cons hline _ ih =>
      obtain ⟨blanks, rfl, hblanks⟩ := hline
      rw [blockLines?_append_blank _ _ fun c hc => (hblanks c hc).1, blockLines?_cons,
        blockLines?_cons, ih]

/-! ## The metadata of lines -/

/-- The metadata of a text, from its first line without byte order marks and its later
lines. -/
def metadataOfLines (first : List Char) (later : List (List Char)) : Except FramingError Metadata :=
  if isDelimiter first then
    match blockLines? later with
    | none => .error .unclosed
    | some ls => .ok (readLines [] .top ls)
  else .error .missing

/-- Byte order marks end at the first other character. -/
theorem dropMarks_append (first : List Char) {rest : List Char} (h : '\uFEFF' ∉ rest.head?) :
    dropMarks (first ++ rest) = dropMarks first ++ rest := by
  have hrest : rest.dropWhile (· == '\uFEFF') = rest := by
    cases rest with
    | nil => rfl
    | cons c rest => exact List.dropWhile_cons_of_neg (by simpa using h)
  rw [dropMarks, List.dropWhile_append, hrest, dropMarks]
  split
  · next hempty => rw [List.isEmpty_iff.1 hempty, List.nil_append]
  · rfl

/-- The byte order marks of joined lines are those of the first. -/
theorem dropMarks_intercalate (first : List Char) (later : List (List Char)) :
    dropMarks (['\n'].intercalate (first :: later)) =
      ['\n'].intercalate (dropMarks first :: later) := by
  cases later with
  | nil => rw [List.intercalate_singleton, List.intercalate_singleton]
  | cons next later =>
      rw [List.intercalate_cons_cons, List.intercalate_cons_cons, List.append_assoc,
        List.append_assoc, dropMarks_append first (by simp)]

/-- Lines are cut at a delimiter. -/
theorem eq_append_of_splitAtDelimiter {later block below : List (List Char)}
    (h : splitAtDelimiter later = some (block, below)) :
    ∃ closing, later = block ++ closing :: below ∧ isDelimiter closing = true ∧
      ∀ line ∈ block, isDelimiter line = false := by
  induction later generalizing block with
  | nil => cases h
  | cons line later ih =>
      rw [splitAtDelimiter] at h
      split at h
      · next hline =>
        cases h
        exact ⟨line, rfl, hline, List.forall_mem_nil _⟩
      · next hline =>
        obtain ⟨⟨more, rest⟩, hcut, heq⟩ := Option.map_eq_some_iff.1 h
        obtain ⟨rfl, rfl⟩ := Prod.mk.inj heq
        obtain ⟨closing, rfl, hclosing, hmore⟩ := ih hcut
        exact ⟨closing, rfl, hclosing, List.forall_mem_cons.2 ⟨by simpa using hline, hmore⟩⟩

/-- Lines between delimiters are a rule document, with the metadata that they say. -/
theorem metadata_ofText?_of_split {first : List Char} {later block below : List (List Char)}
    (hfirst : '\n' ∉ first) (hlater : ∀ line ∈ later, '\n' ∉ line)
    (hdelimiter : isDelimiter first = true)
    (hcut : splitAtDelimiter later = some (block, below)) {marks : List Char}
    (hmarks : ∀ c ∈ marks, c = '\uFEFF') :
    (ofText? (String.ofList (marks ++ ['\n'].intercalate (first :: later)))).map (·.metadata) =
      .ok (readLines [] .top ((block.filter isSignificant).map Line.ofText)) := by
  obtain ⟨closing, rfl, hclosing, hblock⟩ := eq_append_of_splitAtDelimiter hcut
  obtain ⟨hblockLines, hbelow⟩ := List.forall_mem_append.1 hlater
  let f : Frame := {
    opening := first
    block := block
    closing := closing
    body := if below = [] then none else some (['\n'].intercalate below)
    opening_isDelimiter := ⟨hfirst, hdelimiter⟩
    block_isBlock := fun line hline => ⟨hblockLines line hline, hblock line hline⟩
    closing_isDelimiter := ⟨(List.forall_mem_cons.1 hbelow).1, hclosing⟩ }
  have htext : ['\n'].intercalate (first :: (block ++ closing :: below)) = f.text := by
    rw [← List.cons_append, intercalate_append (List.cons_ne_nil _ _)]
    cases below with
    | nil => simp [f, Frame.text, Frame.tail]
    | cons line below => simp [f, Frame.text, Frame.tail, List.intercalate_cons_cons]
  rw [htext, ofText?_text f hmarks, Except.map, Frame.framed, Metadata.ofText,
    String.toList_ofList, significantLines_joinLines hblockLines]

/-- The metadata of a text are those of its lines. -/
theorem metadata_ofText?_intercalate {first : List Char} {later : List (List Char)}
    (hfirst : '\n' ∉ first) (hlater : ∀ line ∈ later, '\n' ∉ line) :
    (ofText? (String.ofList (['\n'].intercalate (first :: later)))).map (·.metadata) =
      metadataOfLines (dropMarks first) later := by
  have hkept : '\n' ∉ dropMarks first :=
    fun hmem => hfirst ((List.dropWhile_sublist _).subset hmem)
  have hmarks := dropMarks_intercalate first later
  have hfields : fields (· == '\n') (['\n'].intercalate (dropMarks first :: later)) =
      dropMarks first :: later :=
    fields_intercalate (List.forall_mem_cons.2 ⟨hkept, hlater⟩) (List.cons_ne_nil _ _)
  rw [metadataOfLines, blockLines?]
  cases hdelimiter : isDelimiter (dropMarks first) with
  | false =>
      have hmissing := (ofText?_eq_missing_iff
        (String.ofList (['\n'].intercalate (first :: later)))).2
      rw [String.toList_ofList, hmarks, firstLine, hfields] at hmissing
      rw [hmissing (.inr hdelimiter)]
      rfl
  | true =>
      rw [if_pos rfl]
      cases hcut : splitAtDelimiter later with
      | none =>
          have hunclosed := (ofText?_eq_unclosed_iff
            (String.ofList (['\n'].intercalate (first :: later)))).2
          rw [String.toList_ofList, hmarks, firstLine, laterLines, hfields] at hunclosed
          rw [hunclosed ⟨hdelimiter, splitAtDelimiter_eq_none_iff.1 hcut⟩]
          rfl
      | some cut =>
          obtain ⟨block, below⟩ := cut
          have htext : ['\n'].intercalate (first :: later) =
              (['\n'].intercalate (first :: later)).takeWhile (· == '\uFEFF') ++
                ['\n'].intercalate (dropMarks first :: later) := by
            rw [← hmarks]
            exact List.takeWhile_append_dropWhile.symm
          rw [htext, metadata_ofText?_of_split hkept hlater hdelimiter hcut]
          · rfl
          · intro c hc
            simpa using List.all_eq_true.1 List.all_takeWhile c hc

/-- Blanks behind the lines do not change the metadata. -/
theorem metadataOfLines_of_isPadded {first padded : List Char} {later lines : List (List Char)}
    (hfirst : IsPadded first padded) (hlater : List.Forall₂ IsPadded later lines) :
    metadataOfLines (dropMarks padded) lines = metadataOfLines (dropMarks first) later := by
  obtain ⟨blanks, rfl, hblanks⟩ := hfirst
  have hmark : '\uFEFF' ∉ blanks.head? := by
    intro hhead
    exact absurd (hblanks _ (List.mem_of_mem_head? hhead)).1 (by decide)
  rw [metadataOfLines, metadataOfLines, dropMarks_append first hmark,
    isDelimiter_append_blank _ _ fun c hc => (hblanks c hc).1, blockLines?_of_isPadded hlater]

/-- Lines with blanks behind them are lines. -/
theorem newline_notMem_of_isPadded {later padded : List (List Char)}
    (h : List.Forall₂ IsPadded later padded) (hlater : ∀ line ∈ later, '\n' ∉ line) :
    ∀ line ∈ padded, '\n' ∉ line := by
  induction h with
  | nil => exact hlater
  | cons hline _ ih =>
      obtain ⟨hfirst, hrest⟩ := List.forall_mem_cons.1 hlater
      obtain ⟨blanks, rfl, hblanks⟩ := hline
      refine List.forall_mem_cons.2 ⟨?_, ih hrest⟩
      rw [List.mem_append, not_or]
      exact ⟨hfirst, fun hmem => (hblanks _ hmem).2 rfl⟩

/-- The metadata of a text are those of its lines, however these are ended. -/
theorem metadata_ofText?_spell {first : List Char} {later : List (List Char)}
    (hlines : ∀ line ∈ first :: later, '\n' ∉ line) (lineEnd : LineEnd) :
    (ofText? (String.ofList (lineEnd.spell.intercalate (first :: later)))).map (·.metadata) =
      metadataOfLines (dropMarks first) later := by
  obtain ⟨padded, hjoin, hpadded⟩ := exists_intercalate_spell lineEnd (first :: later)
  have hnewline := newline_notMem_of_isPadded hpadded hlines
  cases hpadded with
  | cons hfirst hlater =>
      obtain ⟨hopening, hrest⟩ := List.forall_mem_cons.1 hnewline
      rw [hjoin, metadata_ofText?_intercalate hopening hrest,
        metadataOfLines_of_isPadded hfirst hlater]

/-- The layout of a rule document changes neither its metadata nor whether and why it has
none.  Its lines may be ended by line feeds or by carriage returns and line feeds, spaces and
tabs may be put behind the delimiters and the lines of the block, and blank lines and
comments between them. -/
theorem metadata_of_relaid (content : String) {padding : List Char} (hpadding : IsPadding padding)
    {later : List (List Char)} (h : Relaid (laterLines content.toList) later) (lineEnd : LineEnd) :
    (ofText? (String.ofList (lineEnd.spell.intercalate
        ((firstLine content.toList ++ padding) :: later)))).map (·.metadata) =
      (ofText? content).map (·.metadata) := by
  have hfields : fields (· == '\n') content.toList =
      firstLine content.toList :: laterLines content.toList := by
    rw [firstLine, laterLines]
    cases hlines : fields (· == '\n') content.toList with
    | nil => exact absurd hlines (fields_ne_nil _ _)
    | cons first later => rfl
  have hnewline : ∀ line ∈ firstLine content.toList :: laterLines content.toList, '\n' ∉ line := by
    rw [← hfields]
    exact fun line hline => notMem_of_mem_fields hline
  obtain ⟨hfirst, hlater⟩ := List.forall_mem_cons.1 hnewline
  have hpadded : IsPadded (firstLine content.toList) (firstLine content.toList ++ padding) :=
    ⟨padding, rfl, fun c hc => ⟨hpadding.isBlank c hc, fun hfeed =>
      hpadding.newline_notMem (hfeed ▸ hc)⟩⟩
  have hself : List.Forall₂ IsPadded later later :=
    List.forall₂_same.2 fun line _ => .refl line
  have hrelaid : ∀ line ∈ (firstLine content.toList ++ padding) :: later, '\n' ∉ line :=
    newline_notMem_of_isPadded (.cons hpadded hself)
      (List.forall_mem_cons.2 ⟨hfirst, h.newline_notMem hlater⟩)
  have hcontent : content = String.ofList
      (['\n'].intercalate (firstLine content.toList :: laterLines content.toList)) := by
    rw [← hfields, intercalate_fields, String.ofList_toList]
  calc
    (ofText? (String.ofList (lineEnd.spell.intercalate
          ((firstLine content.toList ++ padding) :: later)))).map (·.metadata)
      = metadataOfLines (dropMarks (firstLine content.toList ++ padding)) later :=
        metadata_ofText?_spell hrelaid lineEnd
    _ = metadataOfLines (dropMarks (firstLine content.toList)) later :=
        metadataOfLines_of_isPadded hpadded hself
    _ = metadataOfLines (dropMarks (firstLine content.toList)) (laterLines content.toList) := by
        rw [metadataOfLines, metadataOfLines, h.blockLines?_eq]
    _ = (ofText? content).map (·.metadata) := by
        conv_rhs => rw [hcontent]
        exact (metadata_ofText?_intercalate hfirst hlater).symm

/-- Comments and blank lines between a key and its items and inside an object, padding behind
lines of the block and behind both delimiters, and carriage returns. -/
theorem metadata_of_relaid_inside_object :
    let content := "---\nrules:\n  - id: a\n    pattern: b\ntitle: T\n---\n# body\n"
    let later := ["rules: ".toList, "\t# items".toList, [], "  - id: a\t".toList, "  ".toList,
      "    pattern: b".toList, "title: T".toList, "---  ".toList, "# body".toList, []]
    Relaid (laterLines content.toList) later ∧
      (ofText? (String.ofList (LineEnd.returnFeed.spell.intercalate
          ((firstLine content.toList ++ [' ']) :: later)))).map (·.metadata) =
        (ofText? content).map (·.metadata) ∧
      ((ofText? content).toOption.map fun framed => framed.metadata.map (·.1)) =
        some ["rules", "title"] := by
  intro content later
  have hspace : IsPadding [' '] := List.forall_mem_singleton.2 (.inl rfl)
  have htab : IsPadding ['\t'] := List.forall_mem_singleton.2 (.inr rfl)
  have hspaces : IsPadding [' ', ' '] := List.forall_mem_cons.2 ⟨.inl rfl, hspace⟩
  have hnone : IsPadding [] := nofun
  have hcomment : IsRemark "\t# items".toList :=
    ⟨by decide, ['\t'], "# items".toList, rfl, htab.isBlank, .inr rfl⟩
  have hempty : IsRemark [] := ⟨List.not_mem_nil, [], [], rfl, nofun, .inl rfl⟩
  have hblank : IsRemark "  ".toList := ⟨by decide, [' ', ' '], [], rfl, hspaces.isBlank, .inl rfl⟩
  have hlines : laterLines content.toList = ["rules:".toList, "  - id: a".toList,
      "    pattern: b".toList, "title: T".toList, "---".toList, "# body".toList, []] := by
    decide
  have hrelaid : Relaid (laterLines content.toList) later := by
    rw [hlines]
    refine .line (by decide) hspace <| .remark hcomment <| .remark hempty <| ?_
    refine .line (by decide) htab <| .remark hblank <| .line (by decide) hnone <| ?_
    exact .line (by decide) hnone <| .close (by decide) hspaces _
  exact ⟨hrelaid, metadata_of_relaid content hspace hrelaid .returnFeed, by decide +kernel⟩

end Framed

end PatchReview
