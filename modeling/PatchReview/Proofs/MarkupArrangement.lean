import PatchReview.Proofs.MarkupRoundTrip
import PatchReview.Proofs.OrderedFields

/-!
# Metadata in any arrangement

Metadata can be written with their entries, and the fields of the objects in them, in any
order, and are read back the same: nothing is lost, doubled or moved to another key, and
each value keeps its type.

Main results:

- Definition `IsWritable`: which metadata the markup can carry.
- Definition `Arranges`: the entries that write some metadata, in any order.
- Theorem `exists_arranges`: all metadata that the markup can carry can be written.
- Theorem `readsBack_arrangement`: however they are arranged, they are read back.
-/

namespace PatchReview.Metadata

/-! ## What the markup can carry -/

/-- A value that stands on the line of its key: null, a truth value, a number of 64 bits
or a text on one line. -/
def Value.IsScalar : Value → Prop
  | .null => True
  | .bool _ => True
  | .int i => Text.isInt64 i = true
  | .text s => IsOneLine s
  | _ => False

/-- A value that is an item of a list: a text on one line, or an object with fields. -/
def Value.IsItem : Value → Prop
  | .text s => IsOneLine s
  | .object fields =>
    fields ≠ [] ∧ Fields.IsOrdered fields ∧ ∀ field ∈ fields, IsKey field.1 ∧ field.2.IsScalar
  | _ => False

/-- A value that stands under a key: a scalar, or a list of items. -/
def Value.IsContent : Value → Prop
  | .list items => ∀ item ∈ items, item.IsItem
  | v => v.IsScalar

instance (v : Value) : Decidable v.IsScalar :=
  match v with
  | .null => isTrue trivial
  | .bool _ => isTrue trivial
  | .int i => inferInstanceAs (Decidable (Text.isInt64 i = true))
  | .text s => inferInstanceAs (Decidable (IsOneLine s))
  | .list _ => isFalse id
  | .object _ => isFalse id

instance (v : Value) : Decidable v.IsItem :=
  match v with
  | .text s => inferInstanceAs (Decidable (IsOneLine s))
  | .object fields =>
    have : Decidable (fields ≠ []) :=
      decidable_of_iff (fields.isEmpty = false) List.isEmpty_eq_false_iff
    inferInstanceAs (Decidable (fields ≠ [] ∧ Fields.IsOrdered fields ∧
      ∀ field ∈ fields, IsKey field.1 ∧ field.2.IsScalar))
  | .null => isFalse id
  | .bool _ => isFalse id
  | .int _ => isFalse id
  | .list _ => isFalse id

instance (v : Value) : Decidable v.IsContent :=
  match v with
  | .list items => inferInstanceAs (Decidable (∀ item ∈ items, item.IsItem))
  | .null => isTrue trivial
  | .bool _ => isTrue trivial
  | .int i => inferInstanceAs (Decidable (Text.isInt64 i = true))
  | .text s => inferInstanceAs (Decidable (IsOneLine s))
  | .object _ => isFalse id

/-- Metadata that the markup can carry. -/
structure IsWritable (m : Metadata) : Prop where
  /-- Each key has one value. -/
  isOrdered : Fields.IsOrdered m
  /-- The markup can carry the keys and the values. -/
  entries : ∀ entry ∈ m, IsKey entry.1 ∧ entry.2.IsContent

/-- Entries that write some metadata: those of the metadata, in any order.  The fields of
objects may stand in any order as well. -/
structure Arranges (entries : List (String × Content)) (m : Metadata) : Prop where
  /-- The entries can be written. -/
  writable : ∀ entry ∈ entries, IsWritableEntry entry
  /-- Their values are those of the metadata. -/
  perm : (entries.map fun entry => (entry.1, entry.2.value)).Perm m

/-! ## Every value can be written -/

/-- A scalar value can be written. -/
theorem exists_scalar {v : Value} (h : v.IsScalar) : ∃ s : Scalar, s.value = v ∧ s.IsWritable := by
  cases v with
  | null => exact ⟨.null, rfl, trivial⟩
  | bool b => exact ⟨.bool b, rfl, trivial⟩
  | int i => exact ⟨.int i, rfl, h⟩
  | text s => exact ⟨.text s, rfl, h⟩
  | list items => exact h.elim
  | object fields => exact h.elim

/-- If every element has a source, the list has a list of sources. -/
theorem exists_map_eq {α β : Type} {f : α → β} {P : α → Prop} {bs : List β}
    (h : ∀ b ∈ bs, ∃ a, f a = b ∧ P a) : ∃ as : List α, as.map f = bs ∧ ∀ a ∈ as, P a := by
  induction bs with
  | nil => exact ⟨[], rfl, nofun⟩
  | cons b bs ih =>
      obtain ⟨⟨a, rfl, ha⟩, hrest⟩ := List.forall_mem_cons.1 h
      obtain ⟨as, rfl, has⟩ := ih hrest
      exact ⟨a :: as, rfl, List.forall_mem_cons.2 ⟨ha, has⟩⟩

/-- An item value can be written. -/
theorem exists_item {v : Value} (h : v.IsItem) : ∃ item : Item, item.value = v ∧ item.IsWritable := by
  cases v with
  | text s => exact ⟨.text s, rfl, h⟩
  | object fields =>
      obtain ⟨hne, hordered, hfields⟩ := h
      have hsource : ∀ field ∈ fields, ∃ written : String × Scalar,
          (written.1, written.2.value) = field ∧ IsWritableField written := by
        intro field hfield
        obtain ⟨hkey, hscalar⟩ := hfields field hfield
        obtain ⟨s, hs, hwritable⟩ := exists_scalar hscalar
        exact ⟨(field.1, s), by rw [hs], hkey, hwritable⟩
      obtain ⟨written, hvalues, hwritten⟩ := exists_map_eq hsource
      cases written with
      | nil => exact absurd hvalues.symm hne
      | cons first rest =>
          refine ⟨.object first.1 first.2 rest, ?_, hwritten⟩
          have hvalue : (Item.object first.1 first.2 rest).value =
              .object (Fields.ofList ((first :: rest).map fun field => (field.1, field.2.value))) :=
            rfl
          rw [hvalue, hvalues, Fields.ofList_eq_of_perm hordered (List.Perm.refl _)]
  | null => exact h.elim
  | bool b => exact h.elim
  | int i => exact h.elim
  | list items => exact h.elim

/-- A value that may stand under a key can be written. -/
theorem exists_content {v : Value} (h : v.IsContent) :
    ∃ content : Content, content.value = v ∧ content.IsWritable := by
  have hscalar : v.IsScalar → ∃ content : Content, content.value = v ∧ content.IsWritable := by
    intro hv
    obtain ⟨s, hs, hwritable⟩ := exists_scalar hv
    exact ⟨.scalar s, hs, hwritable⟩
  cases v with
  | list items =>
      obtain ⟨written, hvalues, hwritten⟩ := exists_map_eq fun item hitem => exists_item (h item hitem)
      exact ⟨.list written, congrArg Value.list hvalues, hwritten⟩
  | null => exact hscalar h
  | bool b => exact hscalar h
  | int i => exact hscalar h
  | text s => exact hscalar h
  | object fields => exact hscalar h

/-- All metadata that the markup can carry can be written. -/
theorem exists_arranges {m : Metadata} (h : IsWritable m) : ∃ entries, Arranges entries m := by
  have hsource : ∀ entry ∈ m, ∃ written : String × Content,
      (written.1, written.2.value) = entry ∧ IsWritableEntry written := by
    intro entry hentry
    obtain ⟨hkey, hcontent⟩ := h.entries entry hentry
    obtain ⟨content, hvalue, hwritable⟩ := exists_content hcontent
    exact ⟨(entry.1, content), by rw [hvalue], hkey, hwritable⟩
  obtain ⟨entries, hvalues, hwritten⟩ := exists_map_eq hsource
  exact ⟨entries, hwritten, hvalues ▸ List.Perm.refl _⟩

/-! ## Reading back -/

/-- Metadata that the markup can carry can be written, and however they are arranged, what
is written is read back as the same metadata. -/
theorem readsBack_arrangement {m : Metadata} (h : IsWritable m) :
    (∃ entries, Arranges entries m) ∧
      ∀ entries, Arranges entries m → Metadata.ofText (String.ofList (write entries)) = m := by
  refine ⟨exists_arranges h, fun entries harranges => ?_⟩
  rw [ofText_write harranges.writable]
  exact Fields.ofList_eq_of_perm h.isOrdered harranges.perm

/-- Values of every kind, texts that look like other lines, and a null above a list, written
in another order than their own. -/
theorem readsBack_arrangement_mixed :
    let m : Metadata := [
      ("a", .null),
      ("b-list", .list [.text "- x: 1", .object [("id", .int (-7)), ("pattern", .text "\\d\\\\")],
        .object [("k", .null)]]),
      ("c", .text "# [1, 'two']"),
      ("pattern", .text "\\\\s\"")]
    let entries : List (String × Content) := [
      ("pattern", .scalar (.text "\\\\s\"")),
      ("a", .scalar .null),
      ("b-list", .list [.text "- x: 1",
        .object "pattern" (.text "\\d\\\\") [("id", .int (-7))], .object "k" .null []]),
      ("c", .scalar (.text "# [1, 'two']"))]
    IsWritable m ∧ Arranges entries m ∧ Metadata.ofText (String.ofList (write entries)) = m := by
  intro m entries
  have hm : IsWritable m := ⟨by decide, by decide⟩
  have hitems : (Content.list [.text "- x: 1",
      .object "pattern" (.text "\\d\\\\") [("id", .int (-7))], .object "k" .null []]).IsWritable := by
    have hline : IsOneLine "\\d\\\\" := by decide
    have hpattern : IsWritableField ("pattern", .text "\\d\\\\") := ⟨by decide, hline⟩
    have hid : IsWritableField ("id", .int (-7)) := ⟨by decide, rfl⟩
    have hk : IsWritableField ("k", .null) := ⟨by decide, trivial⟩
    simp only [Content.IsWritable, List.forall_mem_cons, Item.IsWritable]
    exact ⟨by decide, ⟨hpattern, hid, nofun⟩, ⟨hk, nofun⟩, nofun⟩
  have hentries : Arranges entries m := by
    constructor
    · have hpattern : IsOneLine "\\\\s\"" := by decide
      have hc : IsOneLine "# [1, 'two']" := by decide
      simp only [entries, List.forall_mem_cons]
      exact ⟨⟨by decide, hpattern⟩, ⟨by decide, trivial⟩, ⟨by decide, hitems⟩, ⟨by decide, hc⟩, nofun⟩
    -- the first entry is the last one of the metadata
    · exact (List.perm_append_comm : (m.drop 3 ++ m.take 3).Perm (m.take 3 ++ m.drop 3))
  exact ⟨hm, hentries, (readsBack_arrangement hm).2 entries hentries⟩

end PatchReview.Metadata
