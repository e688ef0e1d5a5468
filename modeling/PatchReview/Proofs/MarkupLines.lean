import Mathlib.Data.List.Forall2
import PatchReview.Proofs.MarkupWriter
import PatchReview.Proofs.SignificantLines

/-!
# Lines of written metadata

A line is read back from every text that writes it, whatever its indentation, and so are all
lines of a block.

Main results:

- Definition `Metadata.IsPropertyKey`: the keys that are read off the front of a line.
- Definition `Metadata.Line.IsWrittenAs`: the texts that write a line.
- Theorem `Metadata.Line.IsWrittenAs.ofText_eq`: a neat line is read back from these.
- Theorem `Metadata.significantLines_joinLines`: the significant lines of a block.
- Theorem `Metadata.significantLines_of_isWrittenAs`: the neat lines of a block are read back.
-/

namespace PatchReview

namespace Metadata

open Text

/-! ## Keys -/

/-- A text of the characters of names has no blanks at its ends. -/
theorem isTrimmed_of_isNameChar {s : List Char} (h : ∀ c ∈ s, isNameChar c = true) :
    IsTrimmed s where
  head c hc := isBlank_of_isNameChar (h c (List.mem_of_mem_head? hc))
  last c hc := isBlank_of_isNameChar (h c (List.mem_of_getLast? hc))

namespace IsKey

variable {key : String} (hkey : IsKey key)
include hkey

theorem isNameChar_of_mem : ∀ c ∈ key.toList, isNameChar c = true :=
  List.all_eq_true.1 hkey.2

theorem toList_ne_nil : key.toList ≠ [] := by
  rw [Ne, String.toList_eq_nil_iff]
  exact hkey.1

/-- A character that keys cannot have is not in a key. -/
theorem notMem {c : Char} (hc : isNameChar c = false) : c ∉ key.toList := by
  intro hmem
  rw [hkey.isNameChar_of_mem c hmem] at hc
  cases hc

theorem isTrimmed : IsTrimmed key.toList :=
  isTrimmed_of_isNameChar hkey.isNameChar_of_mem

end IsKey

/-- A text that is read as the key of a property when it stands at the margin, before a colon:
neither a comment nor an item, on one line, without a colon of its own and without blanks at
its ends. -/
structure IsPropertyKey (key : String) : Prop where
  ne_nil : key.toList ≠ []
  newline_notMem : '\n' ∉ key.toList
  colon_notMem : ':' ∉ key.toList
  isTrimmed : IsTrimmed key.toList
  head_ne : key.toList.head? ≠ some '#'
  notItem : ∀ content, key.toList ≠ '-' :: ' ' :: content

/-- The keys that can be written are such keys. -/
theorem IsKey.isPropertyKey {key : String} (hkey : IsKey key) : IsPropertyKey key where
  ne_nil := hkey.toList_ne_nil
  newline_notMem := hkey.notMem (by decide)
  colon_notMem := hkey.notMem (by decide)
  isTrimmed := hkey.isTrimmed
  head_ne hhead := hkey.notMem (by decide) (List.mem_of_mem_head? hhead)
  notItem content hitem :=
    hkey.notMem (c := ' ') (by decide) (hitem ▸ .tail _ List.mem_cons_self)

/-! ## Spelled lines -/

/-- A line that can be spelled: its parts are on one line and without blanks at their ends. -/
def Line.IsNeat : Line → Prop
  | .item content => content ≠ [] ∧ '\n' ∉ content ∧ IsTrimmed content
  | .property _ key value => IsPropertyKey key ∧ '\n' ∉ value ∧ IsTrimmed value
  | .other => False

/-- A spelled field has no blanks at its ends. -/
theorem isTrimmed_spellField {key : String} {value : List Char} (hkey : IsPropertyKey key)
    (hvalue : IsTrimmed value) : IsTrimmed (spellField key value) where
  head c hc := by
    rw [spellField, List.head?_append_of_ne_nil _ hkey.ne_nil] at hc
    exact hkey.isTrimmed.head c hc
  last c hc := by
    rw [spellField, List.getLast?_append_of_ne_nil _ (List.cons_ne_nil _ _)] at hc
    split at hc
    · cases hc
      rfl
    · next hne =>
      rw [List.getLast?_cons_of_ne_nil (List.cons_ne_nil _ _),
        List.getLast?_cons_of_ne_nil hne] at hc
      exact hvalue.last c hc

/-- A spelled field starts with a character of its key. -/
theorem head?_spellField_ne {name : String} (hname : IsKey name) (value : List Char) {c : Char}
    (hc : isNameChar c = false) : (spellField name value).head? ≠ some c := by
  rw [spellField, List.head?_append_of_ne_nil _ hname.toList_ne_nil]
  exact fun hhead => hname.notMem hc (List.mem_of_mem_head? hhead)

/-- Something stands on a neat line. -/
theorem Line.text_ne_nil {line : Line} (h : line.IsNeat) : line.text ≠ [] := by
  cases line with
  | item content => exact List.cons_ne_nil _ _
  | property indented key value => exact List.append_ne_nil_of_right_ne_nil _ (List.cons_ne_nil _ _)
  | other => exact h.elim

/-- What stands on a neat line has no blanks at its ends. -/
theorem Line.isTrimmed_text {line : Line} (h : line.IsNeat) : IsTrimmed line.text := by
  cases line with
  | item content =>
      obtain ⟨hne, -, hcontent⟩ := h
      constructor
      · rintro c hc
        cases hc
        rfl
      · intro c hc
        rw [text, List.getLast?_cons_of_ne_nil (List.cons_ne_nil _ _),
          List.getLast?_cons_of_ne_nil hne] at hc
        exact hcontent.last c hc
  | property indented key value =>
      obtain ⟨hkey, -, hvalue⟩ := h
      exact isTrimmed_spellField hkey hvalue
  | other => exact h.elim

/-- What stands on a neat line is no comment. -/
theorem Line.head?_text_ne {line : Line} (h : line.IsNeat) : line.text.head? ≠ some '#' := by
  cases line with
  | item content => exact nofun
  | property indented key value =>
      obtain ⟨hkey, -, -⟩ := h
      rw [text, spellField, List.head?_append_of_ne_nil _ hkey.ne_nil]
      exact hkey.head_ne
  | other => exact h.elim

/-- The texts that write a line: an item may be indented by spaces and tabs, and a property is
if it is one of an object. -/
inductive Line.IsWrittenAs : Line → List Char → Prop
  | item {indent : List Char} (hindent : IsPadding indent) (content : List Char) :
      IsWrittenAs (.item content) (indent ++ (Line.item content).text)
  | field (key : String) (value : List Char) :
      IsWrittenAs (.property false key value) (spellField key value)
  | innerField {indent : List Char} (hindent : IsPadding indent) (hne : indent ≠ []) (key : String)
      (value : List Char) : IsWrittenAs (.property true key value) (indent ++ spellField key value)

/-- A neat line is spelled as one of the texts that write it. -/
theorem Line.isWrittenAs_spell {line : Line} (h : line.IsNeat) : line.IsWrittenAs line.spell := by
  have htwo : IsPadding [' ', ' '] := by decide
  have hfour : IsPadding [' ', ' ', ' ', ' '] := by decide
  cases line with
  | item content => exact .item htwo content
  | property indented key value =>
      cases indented with
      | true => exact .innerField hfour (List.cons_ne_nil _ _) key value
      | false => exact .field key value
  | other => exact h.elim

/-- A text that writes a line has what stands on it behind some padding. -/
theorem Line.IsWrittenAs.exists_indent {line : Line} {s : List Char} (h : line.IsWrittenAs s) :
    ∃ indent, s = indent ++ line.text ∧ IsPadding indent := by
  cases h with
  | @item indent hindent content => exact ⟨indent, rfl, hindent⟩
  | field key value => exact ⟨[], rfl, nofun⟩
  | @innerField indent hindent hne key value => exact ⟨indent, rfl, hindent⟩

/-- Trimming takes just the indentation off a text that writes a neat line. -/
theorem Line.IsWrittenAs.trim_eq {line : Line} {s : List Char} (h : line.IsWrittenAs s)
    (hneat : line.IsNeat) : trim s = line.text := by
  obtain ⟨indent, rfl, hindent⟩ := h.exists_indent
  exact trim_append_of_isTrimmed hindent.isBlank (isTrimmed_text hneat)

/-- Texts that write neat lines are significant. -/
theorem Line.IsWrittenAs.isSignificant_eq {line : Line} {s : List Char} (h : line.IsWrittenAs s)
    (hneat : line.IsNeat) : isSignificant s = true := by
  rw [isSignificant, h.trim_eq hneat]
  split
  · next hnil => exact absurd hnil (text_ne_nil hneat)
  · next c rest heq =>
    refine bne_iff_ne.2 ?_
    rintro rfl
    exact head?_text_ne hneat (congrArg List.head? heq)

/-- The text of a field is cut at the colon after its key. -/
theorem exists_splitOnce_spellField {key : String} {value : List Char} (hkey : IsPropertyKey key)
    (hvalue : IsTrimmed value) :
    ∃ after, splitOnce ':' (spellField key value) = some (key.toList, after) ∧
      trim after = value := by
  refine ⟨_, splitOnce_append _ hkey.colon_notMem, ?_⟩
  split
  · next hnil =>
    rw [hnil]
    rfl
  · exact trim_append_of_isTrimmed (List.forall_mem_singleton.2 (by decide)) hvalue

/-- The text of a field is read back as a property. -/
theorem propertyOf_spellField {key : String} {value : List Char} (indented : Bool)
    (hkey : IsPropertyKey key) (hvalue : IsTrimmed value) :
    propertyOf indented (spellField key value) = .property indented key value := by
  obtain ⟨after, hsplit, hafter⟩ := exists_splitOnce_spellField hkey hvalue
  rw [propertyOf, hsplit]
  dsimp only
  rw [hkey.isTrimmed.trim_eq, if_neg hkey.ne_nil, hafter, String.ofList_toList]

/-- The text of a field is no item: its key is none, and has no colon as its second
character. -/
theorem spellField_ne_item {key : String} (hkey : IsPropertyKey key) (value : List Char) :
    spellField key value ≠ ['-'] ∧ ∀ rest, spellField key value ≠ '-' :: ' ' :: rest := by
  rw [spellField]
  cases hlist : key.toList with
  | nil => exact absurd hlist hkey.ne_nil
  | cons c chars =>
      cases chars with
      | nil => exact ⟨nofun, nofun⟩
      | cons d chars =>
          refine ⟨nofun, ?_⟩
          rintro rest heq
          obtain ⟨rfl, htail⟩ := List.cons.inj heq
          obtain ⟨rfl, -⟩ := List.cons.inj htail
          exact hkey.notItem chars hlist

/-- A field at the margin is not indented. -/
theorem isIndented_spellField {key : String} (hkey : IsPropertyKey key) (value : List Char) :
    isIndented (spellField key value) = false := by
  cases hlist : key.toList with
  | nil => exact absurd hlist hkey.ne_nil
  | cons c chars =>
      have hc : isBlank c = false := hkey.isTrimmed.head c (by rw [hlist]; rfl)
      rw [spellField, hlist]
      change (c == ' ' || c == '\t') = false
      rw [Bool.or_eq_false_iff, beq_eq_false_iff_ne, beq_eq_false_iff_ne]
      constructor <;> rintro rfl <;> cases hc

/-- A text that writes a property is indented if the property is. -/
theorem Line.IsWrittenAs.isIndented_eq {indented : Bool} {key : String} {value s : List Char}
    (hkey : IsPropertyKey key) (h : (Line.property indented key value).IsWrittenAs s) :
    isIndented s = indented := by
  cases h with
  | field => exact isIndented_spellField hkey value
  | @innerField indent hindent hne =>
      cases indent with
      | nil => exact absurd rfl hne
      | cons c indent => rcases hindent c List.mem_cons_self with rfl | rfl <;> rfl

/-- A neat line is read back from every text that writes it. -/
theorem Line.IsWrittenAs.ofText_eq {line : Line} {s : List Char} (h : line.IsWrittenAs s)
    (hneat : line.IsNeat) : Line.ofText s = line := by
  rw [Line.ofText, h.trim_eq hneat]
  cases line with
  | item content =>
      obtain ⟨-, -, hcontent⟩ := hneat
      change Line.item (trim content) = .item content
      rw [hcontent.trim_eq]
  | property indented key value =>
      obtain ⟨hkey, -, hvalue⟩ := hneat
      obtain ⟨hdash, hitem⟩ := spellField_ne_item hkey value
      rw [text]
      split
      · next heq => exact absurd heq hdash
      · next rest heq => exact absurd heq (hitem rest)
      · rw [h.isIndented_eq hkey, propertyOf_spellField indented hkey hvalue]
  | other => exact hneat.elim

/-! ## Blocks -/

/-- A field is on one line if its value is. -/
theorem newline_notMem_spellField {key : String} {value : List Char} (hkey : IsPropertyKey key)
    (hvalue : '\n' ∉ value) : '\n' ∉ spellField key value := by
  rw [spellField, List.mem_append, not_or, List.mem_cons, not_or]
  refine ⟨hkey.newline_notMem, by decide, ?_⟩
  split
  · exact List.not_mem_nil
  · exact List.not_mem_cons_of_ne_of_not_mem (by decide) hvalue

/-- What stands on a neat line is a text on one line. -/
theorem Line.newline_notMem_text {line : Line} (h : line.IsNeat) : '\n' ∉ line.text := by
  cases line with
  | item content =>
      obtain ⟨-, hcontent, -⟩ := h
      exact List.not_mem_cons_of_ne_of_not_mem (by decide)
        (List.not_mem_cons_of_ne_of_not_mem (by decide) hcontent)
  | property indented key value =>
      obtain ⟨hkey, hvalue, -⟩ := h
      exact newline_notMem_spellField hkey hvalue
  | other => exact h.elim

/-- A neat line is written on one line. -/
theorem Line.IsWrittenAs.newline_notMem {line : Line} {s : List Char} (h : line.IsWrittenAs s)
    (hneat : line.IsNeat) : '\n' ∉ s := by
  obtain ⟨indent, rfl, hindent⟩ := h.exists_indent
  rw [List.mem_append, not_or]
  exact ⟨hindent.newline_notMem, newline_notMem_text hneat⟩

/-- The significant lines of a block are read off its lines. -/
theorem significantLines_joinLines {ls : List (List Char)} (h : ∀ line ∈ ls, '\n' ∉ line) :
    significantLines (joinLines ls) = (ls.filter isSignificant).map Line.ofText := by
  have hfeed : ∀ c ∈ ['\n'], isBlank c = true := List.forall_mem_singleton.2 (by decide)
  have hsegments := segments_joinLines h []
  have hsignificant : isSignificant ∘ (· ++ ['\n']) = isSignificant := by
    funext line
    exact isSignificant_append_blank line ['\n'] hfeed
  have hline : Line.ofText ∘ (· ++ ['\n']) = Line.ofText := by
    funext line
    exact Line.ofText_append_blank line ['\n'] hfeed
  rw [List.append_nil, segments, List.append_nil] at hsegments
  rw [significantLines_eq, hsegments, List.filter_map, List.map_map, hsignificant, hline]

/-- The significant lines of a block are those of its parts. -/
theorem significantLines_joinLines_append (above below : List (List Char)) :
    significantLines (joinLines (above ++ below)) =
      significantLines (joinLines above) ++ significantLines (joinLines below) := by
  rw [← significantLines_append (isEnded_joinLines above), joinLines, joinLines, joinLines,
    List.flatMap_append]

/-- The neat lines of a block are read back from all texts that write them. -/
theorem significantLines_of_isWrittenAs {ls : List Line} {texts : List (List Char)}
    (hneat : ∀ line ∈ ls, line.IsNeat) (h : List.Forall₂ Line.IsWrittenAs ls texts) :
    significantLines (joinLines texts) = ls := by
  have hread : (∀ s ∈ texts, '\n' ∉ s) ∧ (texts.filter isSignificant).map Line.ofText = ls := by
    induction h with
    | nil => exact ⟨nofun, rfl⟩
    | cons hline _ ih =>
        obtain ⟨hfirst, hrest⟩ := List.forall_mem_cons.1 hneat
        obtain ⟨hnewline, hlines⟩ := ih hrest
        refine ⟨List.forall_mem_cons.2 ⟨hline.newline_notMem hfirst, hnewline⟩, ?_⟩
        rw [List.filter_cons_of_pos (hline.isSignificant_eq hfirst), List.map_cons,
          hline.ofText_eq hfirst, hlines]
  rw [significantLines_joinLines hread.1, hread.2]

/-- Neat lines are spelled as texts that write them. -/
theorem forall₂_isWrittenAs_spell {ls : List Line} (h : ∀ line ∈ ls, line.IsNeat) :
    List.Forall₂ Line.IsWrittenAs ls (ls.map Line.spell) :=
  List.forall₂_map_right_iff.2 (List.forall₂_same.2 fun line hline => Line.isWrittenAs_spell (h line hline))

/-- The neat lines of a block are read back as they are spelled. -/
theorem significantLines_spell {ls : List Line} (h : ∀ line ∈ ls, line.IsNeat) :
    significantLines (joinLines (ls.map Line.spell)) = ls :=
  significantLines_of_isWrittenAs h (forall₂_isWrittenAs_spell h)

end Metadata

end PatchReview
