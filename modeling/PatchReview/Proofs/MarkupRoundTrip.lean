import PatchReview.Proofs.MarkupScalars
import PatchReview.Proofs.OrderedFields

/-!
# Written metadata are read back

The reader takes the lines that are written for an entry, and stands where it stood before
them, with the value of the entry under its key.  So a written block is read as the values
of its entries, each under its own key.

Main results:

- Theorem `readLines_item`: the lines of an item add its value to the list that is read.
- Theorem `readLines_list`: a key and the lines of items below it set a list.
- Theorem `readLines_content`: the lines of an entry set its value.
- Theorem `ofText_write`: a written block is read as the fields of its entries.
-/

namespace PatchReview.Metadata

open Text

/-! ## Lists -/

/-- The list that the reader stands in: its key, and all items so far. -/
def State.list? : State → Option (String × List Value)
  | .top => none
  | .inList key items => some (key, items)
  | .inObject key items current => some (key, items ++ [.object current])

section

variable {state : State} {key : String} {items : List Value}

/-- Storing the list that the reader stands in sets it under its key. -/
theorem State.flush_of_list? (h : state.list? = some (key, items)) (done : Metadata) :
    state.flush done = done.set key (.list items) := by
  cases state <;> cases h <;> rfl

/-- In a list, an item line is an item of it. -/
theorem step_item (h : state.list? = some (key, items)) (done : Metadata) (item : List Char)
    (next : Option Line) : step done state (.item item) next = (done, .push key items item) := by
  cases state <;> cases h <;> rfl

/-- An item that opens no object is a text. -/
theorem push_text (key : String) (items : List Value) {content : List Char} (hne : content ≠ [])
    (hitem : objectItem content = none) :
    State.push key items content =
      .inList key (items ++ [.text (String.ofList (unquote content))]) := by
  rw [State.push, hitem]
  dsimp only
  rw [if_neg hne]

/-- A spelled field is an item that opens an object. -/
theorem push_spellField (key : String) (items : List Value) {name : String} {value : List Char}
    (hname : IsKey name) (hvalue : IsTrimmed value) :
    State.push key items (spellField name value) =
      .inObject key items [(name, .ofScalar name value)] := by
  have hquote : ¬ ((spellField name value).head? = some '"' ∨
      (spellField name value).head? = some '\'') :=
    not_or.2 ⟨head?_spellField_ne hname value (by decide), head?_spellField_ne hname value (by decide)⟩
  have hchars : name.toList ≠ [] ∧ name.toList.all isNameChar = true :=
    ⟨hname.toList_ne_nil, hname.2⟩
  obtain ⟨after, hsplit, hafter⟩ := exists_splitOnce_spellField hname.isPropertyKey hvalue
  have hitem : objectItem (spellField name value) = some (name, value) := by
    rw [objectItem, if_neg hquote, hsplit]
    dsimp only
    rw [hname.isTrimmed.trim_eq, if_pos hchars, hafter, String.ofList_toList]
  rw [State.push, hitem]

/-- The fields of an object are set in it. -/
theorem readLines_fields (rest : List (String × List Char)) (done : Metadata) (key : String)
    (items : List Value) (current : Fields Value) (more : List Line) :
    readLines done (.inObject key items current) (rest.map rawLine ++ more) =
      readLines done (.inObject key items (Fields.setAll current (rest.map rawField))) more := by
  induction rest generalizing current with
  | nil => rfl
  | cons field rest ih =>
      rw [List.map_cons, List.cons_append, readLines]
      exact ih (Fields.set current field.1 (.ofScalar field.1 field.2))

/-- The lines of an item add its value to the list that the reader stands in. -/
theorem readLines_item {item : RawItem} (hitem : item.IsWritable)
    (h : state.list? = some (key, items)) (done : Metadata) (more : List Line) :
    ∃ state', state'.list? = some (key, items ++ [item.value]) ∧
      readLines done state (item.lines ++ more) = readLines done state' more := by
  cases item with
  | text content =>
      obtain ⟨hne, hobject, -, -⟩ := hitem
      refine ⟨.inList key (items ++ [.text (String.ofList (unquote content))]), rfl, ?_⟩
      rw [RawItem.lines, List.singleton_append, readLines, step_item h, push_text key items hne hobject]
  | object name value rest =>
      obtain ⟨hname, hfields⟩ := hitem
      obtain ⟨⟨-, -, hvalue⟩, -⟩ := List.forall_mem_cons.1 hfields
      refine ⟨.inObject key items
        (Fields.setAll [(name, .ofScalar name value)] (rest.map rawField)), rfl, ?_⟩
      rw [RawItem.lines, List.cons_append, readLines, step_item h,
        push_spellField key items hname hvalue]
      exact readLines_fields rest done key items _ more

/-- The lines of some items add their values to the list that the reader stands in. -/
theorem readLines_items {written : List RawItem} (hwritten : ∀ item ∈ written, item.IsWritable)
    (h : state.list? = some (key, items)) (done : Metadata) (more : List Line) :
    ∃ state', state'.list? = some (key, items ++ written.map RawItem.value) ∧
      readLines done state (written.flatMap RawItem.lines ++ more) = readLines done state' more := by
  induction written generalizing state items with
  | nil =>
      rw [List.map_nil, List.append_nil]
      exact ⟨state, h, rfl⟩
  | cons item written ih =>
      obtain ⟨hitem, hrest⟩ := List.forall_mem_cons.1 hwritten
      obtain ⟨state₁, h₁, hread₁⟩ :=
        readLines_item hitem h done (written.flatMap RawItem.lines ++ more)
      obtain ⟨state₂, h₂, hread₂⟩ := ih hrest h₁
      rw [List.append_assoc, List.singleton_append] at h₂
      refine ⟨state₂, h₂, ?_⟩
      rw [List.flatMap_cons, List.append_assoc, hread₁, hread₂]

end

/-! ## Entries -/

/-- Lines that do not go on with a list: they start with neither an item nor an indented
property. -/
def EndsList (ls : List Line) : Prop :=
  ∀ line ∈ ls.head?, line = .other ∨ ∃ key value, line = .property false key value

/-- Before such lines, and at the end, the list that is read is stored. -/
theorem readLines_flush {more : List Line} (h : EndsList more) (done : Metadata)
    (state : State) : readLines done state more = readLines (state.flush done) .top more := by
  cases more with
  | nil => rfl
  | cons line more => rcases h line rfl with rfl | ⟨key, value, rfl⟩ <;> cases state <;> rfl

/-- A property with no item below it sets its value. -/
theorem readLines_property {more : List Line} (h : EndsList more) (done : Metadata)
    (key : String) (value : List Char) :
    readLines done .top (.property false key value :: more) =
      readLines (done.set key (.ofScalar key value)) .top more := by
  cases value with
  | cons c value => rfl
  | nil =>
      -- without a value the line below decides: an item would open a list
      cases more with
      | nil => rfl
      | cons line more => rcases h line rfl with rfl | ⟨key', value', rfl⟩ <;> rfl

/-- A key with an item below it opens a list. -/
theorem readLines_open {ls : List Line} (h : ∃ content, ls.head? = some (.item content))
    (done : Metadata) (key : String) :
    readLines done .top (.property false key [] :: ls) = readLines done (.inList key []) ls := by
  obtain ⟨content, hhead⟩ := h
  obtain ⟨more, rfl⟩ := List.head?_eq_some_iff.1 hhead
  rfl

/-- A key and the lines of some items below it set the list of their values. -/
theorem readLines_list {written : List RawItem} (hwritten : ∀ item ∈ written, item.IsWritable)
    (hne : written ≠ []) {more : List Line} (hmore : EndsList more) (done : Metadata) (key : String) :
    readLines done .top (.property false key [] :: (written.flatMap RawItem.lines ++ more)) =
      readLines (done.set key (.list (written.map RawItem.value))) .top more := by
  have hitem : ∃ content,
      (written.flatMap RawItem.lines ++ more).head? = some (.item content) := by
    cases written with
    | nil => exact absurd rfl hne
    | cons item written => cases item <;> exact ⟨_, rfl⟩
  have hlist : (State.inList key []).list? = some (key, []) := rfl
  obtain ⟨state, hstate, hread⟩ := readLines_items hwritten hlist done more
  rw [readLines_open hitem, hread, readLines_flush hmore, State.flush_of_list? hstate,
    List.nil_append]

/-- The lines of what is written under a key start with its property. -/
theorem endsList_lines (key : String) (content : Content) (more : List Line) :
    EndsList (content.lines key ++ more) := by
  unfold Content.lines
  split <;> exact fun line hline => .inr ⟨key, _, (Option.some.inj hline).symm⟩

/-- The lines of entries start with a property at the margin. -/
theorem endsList_linesOf (entries : List (String × Content)) : EndsList (linesOf entries) := by
  cases entries with
  | nil => exact nofun
  | cons entry entries => exact endsList_lines entry.1 entry.2 (linesOf entries)

/-- The lines of what is written under a key set its value. -/
theorem readLines_content {content : Content} (hcontent : content.IsWritable) {more : List Line}
    (hmore : EndsList more) (done : Metadata) (key : String) :
    readLines done .top (content.lines key ++ more) =
      readLines (done.set key content.value) .top more := by
  cases content with
  | scalar s =>
      rw [Content.lines, List.singleton_append, readLines_property hmore, ofScalar_spell hcontent]
      rfl
  | list items =>
      cases items with
      | nil =>
          rw [Content.lines, List.singleton_append, readLines_property hmore]
          rfl
      | cons item items =>
          have hraw : (item :: items).flatMap Item.lines =
              ((item :: items).map Item.raw).flatMap RawItem.lines := by
            rw [List.flatMap_map, funext Item.lines_raw]
          have hvalues : ((item :: items).map Item.raw).map RawItem.value =
              (item :: items).map Item.value := by
            rw [List.map_map]
            exact List.map_congr_left fun item hitem => Item.value_raw (hcontent item hitem)
          have hwritable : ∀ raw ∈ (item :: items).map Item.raw, raw.IsWritable :=
            List.forall_mem_map.2 fun item hitem => Item.isWritable_raw (hcontent item hitem)
          rw [Content.lines, List.cons_append, hraw,
            readLines_list hwritable (List.cons_ne_nil _ _) hmore, hvalues]
          rfl

/-- The lines of entries set their values, in order. -/
theorem readLines_linesOf {entries : List (String × Content)}
    (h : ∀ entry ∈ entries, IsWritableEntry entry) (done : Metadata) :
    readLines done .top (linesOf entries) =
      entries.foldl (fun fields entry => fields.set entry.1 entry.2.value) done := by
  induction entries generalizing done with
  | nil => rfl
  | cons entry entries ih =>
      obtain ⟨⟨-, hcontent⟩, hentries⟩ := List.forall_mem_cons.1 h
      have hlines : linesOf (entry :: entries) = entry.2.lines entry.1 ++ linesOf entries :=
        List.flatMap_cons
      rw [hlines, readLines_content hcontent (endsList_linesOf entries), ih hentries]
      rfl

/-- A written block is read as the fields of its entries. -/
theorem ofText_write {entries : List (String × Content)}
    (h : ∀ entry ∈ entries, IsWritableEntry entry) :
    Metadata.ofText (String.ofList (write entries)) =
      Fields.ofList (entries.map fun entry => (entry.1, entry.2.value)) := by
  rw [Metadata.ofText, String.toList_ofList, write,
    significantLines_spell (isNeat_of_mem_linesOf h), readLines_linesOf h, Fields.ofList,
    List.foldl_map]

example : String.ofList (write [
      ("title", .scalar (.text "a: b")),
      ("rules", .list [.text "c", .object "id" (.int 1) [("pattern", .text "\\d")]])]) =
    "title: \"a: b\"\nrules:\n  - \"c\"\n  - id: 1\n    pattern: \"\\\\d\"\n" := by
  decide

end PatchReview.Metadata
