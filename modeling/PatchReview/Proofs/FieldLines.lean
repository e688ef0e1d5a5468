import PatchReview.Proofs.AppendedBlock
import PatchReview.Proofs.DocumentRoundTrip

/-!
# Fields and lists among other lines

A field at the margin is read wherever it stands in a block: its value is that of the text
behind the colon, unless lines below it set the same key again.  The same holds of a key with
the items of a list below it, as long as the next lines do not go on with the list.

Main results:

- Theorem `Metadata.ofText_field`: a field at the margin sets its value.
- Theorem `Metadata.get?_ofText_field`: the value of a field that is not set again.
- Theorem `Metadata.get?_ofText_list`: the list below a key that is not set again.
-/

namespace PatchReview

open Metadata Text

namespace Metadata

variable {key : String} {value : List Char}

/-! ## A field -/

/-- A field at the margin can stand in a block. -/
theorem isBlockLine_spellField (h : (Line.property false key value).IsNeat) :
    Framed.IsBlockLine (spellField key value) :=
  (Line.IsWrittenAs.field key value).isBlockLine h

/-- The line of a field at the margin. -/
theorem significantLines_spellField (h : (Line.property false key value).IsNeat) :
    significantLines (joinLines [spellField key value]) = [.property false key value] :=
  significantLines_of_isWrittenAs (List.forall_mem_singleton.2 h) (.cons (.field key value) .nil)

/-- A field at the margin sets its value, whatever stands above it. -/
theorem ofText_field (h : (Line.property false key value).IsNeat) (hne : value ≠ [])
    (above below : List (List Char)) :
    ofText (String.ofList (joinLines (above ++ spellField key value :: below))) =
      readLines ((ofText (String.ofList (joinLines above))).set key (.ofScalar key value)) .top
        (significantLines (joinLines below)) := by
  have hcons : above ++ spellField key value :: below =
      above ++ ([spellField key value] ++ below) := rfl
  rw [hcons, ofText, ofText, String.toList_ofList, String.toList_ofList,
    significantLines_joinLines_append, significantLines_joinLines_append,
    significantLines_spellField h, List.singleton_append, readLines_append_field _ _ _ _ hne]

/-- What is set before some lines is kept if these do not set it again. -/
theorem get?_readLines_set {done : Metadata} (hdone : Fields.IsOrdered done) (v : Value)
    {below : List (List Char)}
    (hbelow : Fields.get? (ofText (String.ofList (joinLines below))) key = none) :
    Fields.get? (readLines (done.set key v) .top (significantLines (joinLines below))) key = some v := by
  rw [ofText, String.toList_ofList] at hbelow
  rw [readLines_eq_override (Fields.isOrdered_set hdone key v),
    Fields.get?_override _ (isOrdered_readLines .top _), hbelow, Option.none_or, Fields.get?_set,
    if_pos rfl]

/-- The value of a field at the margin that is not set again below. -/
theorem get?_ofText_field (h : (Line.property false key value).IsNeat) (hne : value ≠ [])
    (above : List (List Char)) {below : List (List Char)}
    (hbelow : Fields.get? (ofText (String.ofList (joinLines below))) key = none) :
    Fields.get? (ofText (String.ofList (joinLines (above ++ spellField key value :: below)))) key =
      some (.ofScalar key value) := by
  rw [ofText_field h hne]
  exact get?_readLines_set (isOrdered_readLines .top _) _ hbelow

/-! ## A list -/

/-- The lines of a key and the items of a list below it, with any indentation. -/
def IsWrittenList (key : String) (items : List RawItem) (ls : List (List Char)) : Prop :=
  List.Forall₂ Line.IsWrittenAs (.property false key [] :: items.flatMap RawItem.lines) ls

/-- The lines of a list are neat. -/
theorem isNeat_of_mem_list (hkey : IsPropertyKey key) {items : List RawItem}
    (hitems : ∀ item ∈ items, item.IsWritable) :
    ∀ line ∈ Line.property false key [] :: items.flatMap RawItem.lines, line.IsNeat := by
  refine List.forall_mem_cons.2 ⟨⟨hkey, List.not_mem_nil, nofun, nofun⟩, ?_⟩
  intro line hline
  obtain ⟨item, hitem, hline⟩ := List.mem_flatMap.1 hline
  exact RawItem.isNeat_of_mem_lines (hitems item hitem) line hline

/-- Texts that write neat lines can stand in a block. -/
theorem isBlockLine_of_isWrittenAs {ls : List Line} {texts : List (List Char)}
    (hneat : ∀ line ∈ ls, line.IsNeat) (h : List.Forall₂ Line.IsWrittenAs ls texts) :
    ∀ s ∈ texts, Framed.IsBlockLine s := by
  induction h with
  | nil => exact nofun
  | cons hline _ ih =>
      obtain ⟨hfirst, hrest⟩ := List.forall_mem_cons.1 hneat
      exact List.forall_mem_cons.2 ⟨hline.isBlockLine hfirst, ih hrest⟩

/-- The list below a key that is not set again. -/
theorem get?_ofText_list (hkey : IsPropertyKey key) {items : List RawItem}
    (hitems : ∀ item ∈ items, item.IsWritable) (hne : items ≠ []) {list : List (List Char)}
    (hlist : IsWrittenList key items list) (above : List (List Char)) {below : List (List Char)}
    (hends : EndsList (significantLines (joinLines below)))
    (hbelow : Fields.get? (ofText (String.ofList (joinLines below))) key = none) :
    Fields.get? (ofText (String.ofList (joinLines (above ++ (list ++ below))))) key =
      some (.list (items.map RawItem.value)) := by
  rw [ofText, String.toList_ofList, significantLines_joinLines_append,
    significantLines_joinLines_append,
    significantLines_of_isWrittenAs (isNeat_of_mem_list hkey hitems) hlist, List.cons_append,
    readLines_append_property, readLines_list hitems hne hends]
  exact get?_readLines_set (isOrdered_readLines .top _) _ hbelow

end Metadata

end PatchReview
