import PatchReview.Proofs.MarkupLines

/-!
# Written scalars

A spelled scalar is read back with its type and its text.  All that is written for entries
stands on neat lines, which are read back as they are.

Main results:

- Theorem `ofScalar_spell`: a spelled scalar is read back.
- Theorem `isNeat_of_mem_linesOf`: the lines of entries are neat.
-/

namespace PatchReview.Metadata

open Text

/-! ## Scalars -/

/-- Collapsing backslashes undoes doubling them. -/
theorem collapseBackslashes_doubleBackslashes (s : List Char) :
    collapseBackslashes (doubleBackslashes s) = s := by
  induction s with
  | nil => rfl
  | cons c rest ih =>
      by_cases hc : c = '\\'
      · rw [doubleBackslashes, if_pos hc, collapseBackslashes, if_pos ⟨rfl, rfl⟩, ih, hc]
      · rw [doubleBackslashes, if_neg hc]
        cases hrest : doubleBackslashes rest with
        | nil =>
            rw [hrest] at ih
            rw [← ih]
            rfl
        | cons d tail =>
            rw [collapseBackslashes, if_neg fun h => hc h.1, ← hrest, ih]

/-- Quotes around a text are taken off. -/
theorem unquote_inQuotes (s : List Char) : unquote (inQuotes s) = s := by
  have hdouble : unquoteWith '"' (inQuotes s) = some s := by
    rw [inQuotes, unquoteWith, List.getLast?_concat, if_pos ⟨rfl, rfl⟩, List.dropLast_concat]
  rw [unquote, hdouble]
  rfl

/-- What is read as a number or as a text: neither nothing nor a list nor a truth value. -/
structure IsPlain (s : List Char) : Prop where
  ne_nil : s ≠ []
  brackets : bracketedText s = none
  ne_true : s ≠ ['t', 'r', 'u', 'e']
  ne_false : s ≠ ['f', 'a', 'l', 's', 'e']

/-- A plain text that spells a number is one. -/
theorem ofScalar_of_readInt64_eq_some {s : List Char} (hs : IsPlain s) {i : Int}
    (h : readInt64 s = some i) (key : String) : Value.ofScalar key s = .int i := by
  rw [Value.ofScalar, if_neg hs.ne_nil, hs.brackets]
  dsimp only
  rw [if_neg hs.ne_true, if_neg hs.ne_false, h]

/-- A plain text that spells no number is a text. -/
theorem ofScalar_of_readInt64_eq_none {s : List Char} (hs : IsPlain s)
    (h : readInt64 s = none) (key : String) :
    Value.ofScalar key s = .text (String.ofList
      (if isPatternKey key then collapseBackslashes (unquote s) else unquote s)) := by
  rw [Value.ofScalar, if_neg hs.ne_nil, hs.brackets]
  dsimp only
  rw [if_neg hs.ne_true, if_neg hs.ne_false, h]

/-- A text in quotes is a text. -/
theorem ofScalar_inQuotes (key : String) (s : List Char) :
    Value.ofScalar key (inQuotes s) =
      .text (String.ofList (if isPatternKey key then collapseBackslashes s else s)) := by
  have hplain : IsPlain (inQuotes s) := ⟨nofun, rfl, nofun, nofun⟩
  rw [ofScalar_of_readInt64_eq_none hplain rfl, unquote_inQuotes]

/-- A natural number is written by its digits. -/
theorem toList_toString_ofNat (n : Nat) :
    (toString (Int.ofNat n)).toList = Nat.toDigits 10 n :=
  Nat.toList_repr

/-- A negative number has a minus sign before its digits. -/
theorem toList_toString_negSucc (n : Nat) :
    (toString (Int.negSucc n)).toList = '-' :: Nat.toDigits 10 (n + 1) := by
  change ("-" ++ (n + 1).repr).toList = _
  rw [String.toList_append, Nat.toList_repr]
  rfl

/-- A number is read back. -/
theorem readInt64_toString {i : Int} (h : isInt64 i = true) :
    readInt64 (toString i).toList = some i := by
  cases i with
  | ofNat n =>
      have hread := readDigits_toDigits n
      rw [toList_toString_ofNat]
      cases hdigits : Nat.toDigits 10 n with
      | nil => exact absurd hdigits Nat.toDigits_ne_nil
      | cons c rest =>
          have hc : c.isDigit = true :=
            isDigit_of_mem_toDigits (hdigits ▸ List.mem_cons_self)
          rw [hdigits] at hread
          unfold readInt64
          split
          · next heq =>
            rw [(List.cons.inj heq).1] at hc
            cases hc
          · next heq =>
            rw [(List.cons.inj heq).1] at hc
            cases hc
          · rw [hread]
            exact Option.filter_eq_some_iff.2 ⟨rfl, h⟩
  | negSucc n =>
      rw [toList_toString_negSucc, readInt64, readDigits_toDigits]
      exact Option.filter_eq_some_iff.2 ⟨rfl, h⟩

/-- The characters of a number are those of keys. -/
theorem isNameChar_of_mem_toString (i : Int) :
    ∀ c ∈ (toString i).toList, isNameChar c = true := by
  have hdigit : ∀ n, ∀ c ∈ Nat.toDigits 10 n, isNameChar c = true := by
    intro n c hc
    have hc : c.isDigit = true := isDigit_of_mem_toDigits hc
    rw [isNameChar, Char.isAlphanum, hc, Bool.or_true]
    rfl
  intro c hc
  cases i with
  | ofNat n =>
      rw [toList_toString_ofNat] at hc
      exact hdigit n c hc
  | negSucc n =>
      rw [toList_toString_negSucc] at hc
      rcases List.mem_cons.1 hc with rfl | hc
      · rfl
      · exact hdigit (n + 1) c hc

/-- The characters of a truth value are those of keys. -/
theorem isNameChar_of_mem_toString_bool (b : Bool) :
    ∀ c ∈ (toString b).toList, isNameChar c = true := by
  rw [← List.all_eq_true]
  cases b <;> decide

/-- A number that is spelled is not a list. -/
theorem ofScalar_toString {i : Int} (h : isInt64 i = true) (key : String) :
    Value.ofScalar key (toString i).toList = .int i := by
  have hread := readInt64_toString h
  have hne : ∀ s, readInt64 s = none → (toString i).toList ≠ s := by
    rintro s hs heq
    rw [heq, hs] at hread
    cases hread
  refine ofScalar_of_readInt64_eq_some ⟨hne _ (by decide), ?_, hne _ (by decide),
    hne _ (by decide)⟩ hread key
  unfold bracketedText
  split
  · next rest heq =>
    have hbracket := isNameChar_of_mem_toString i '[' (heq ▸ List.mem_cons_self)
    cases hbracket
  · rfl

/-- A spelled scalar is read back. -/
theorem ofScalar_spell {s : Scalar} (h : s.IsWritable) (key : String) :
    Value.ofScalar key (s.spell key) = s.value := by
  cases s with
  | null => rfl
  | bool b => cases b <;> rfl
  | int i => exact ofScalar_toString h key
  | text s =>
      rw [Scalar.spell, ofScalar_inQuotes]
      split
      · rw [collapseBackslashes_doubleBackslashes, String.ofList_toList]
        rfl
      · rw [String.ofList_toList]
        rfl

/-! ## Neat lines -/

/-- A text in quotes has no blanks at its ends. -/
theorem isTrimmed_inQuotes (s : List Char) : IsTrimmed (inQuotes s) where
  head c hc := by
    cases hc
    rfl
  last c hc := by
    rw [inQuotes, ← List.cons_append, List.getLast?_concat] at hc
    cases hc
    rfl

/-- A text in quotes is on one line if the text is. -/
theorem newline_notMem_inQuotes {s : List Char} (h : '\n' ∉ s) : '\n' ∉ inQuotes s := by
  rw [inQuotes, List.mem_cons, List.mem_append, List.mem_singleton, not_or, not_or]
  exact ⟨by decide, h, by decide⟩

/-- Doubling backslashes adds no other character. -/
theorem mem_of_mem_doubleBackslashes {s : List Char} {c : Char} (h : c ∈ doubleBackslashes s) :
    c ∈ s := by
  induction s with
  | nil => exact h
  | cons d rest ih =>
      rw [doubleBackslashes] at h
      split at h
      · next hd =>
        rw [hd]
        rcases List.mem_cons.1 h with rfl | h
        · exact List.mem_cons_self
        · rcases List.mem_cons.1 h with rfl | h
          · exact List.mem_cons_self
          · exact List.mem_cons_of_mem _ (ih h)
      · rcases List.mem_cons.1 h with rfl | h
        · exact List.mem_cons_self
        · exact List.mem_cons_of_mem _ (ih h)

/-- A spelled scalar has no blanks at its ends. -/
theorem Scalar.isTrimmed_spell (s : Scalar) (key : String) : IsTrimmed (s.spell key) := by
  cases s with
  | null => exact ⟨nofun, nofun⟩
  | bool b => exact isTrimmed_of_isNameChar (isNameChar_of_mem_toString_bool b)
  | int i => exact isTrimmed_of_isNameChar (isNameChar_of_mem_toString i)
  | text s => exact isTrimmed_inQuotes _

/-- A spelled scalar is on one line. -/
theorem Scalar.newline_notMem_spell {s : Scalar} (h : s.IsWritable) (key : String) :
    '\n' ∉ s.spell key := by
  cases s with
  | null => exact List.not_mem_nil
  | bool b => exact fun hmem => nomatch isNameChar_of_mem_toString_bool b _ hmem
  | int i => exact fun hmem => nomatch isNameChar_of_mem_toString i _ hmem
  | text s =>
      refine newline_notMem_inQuotes ?_
      split
      · exact fun hmem => h (mem_of_mem_doubleBackslashes hmem)
      · exact h

/-- The text of a field that can be read off its line. -/
structure IsRawField (field : String × List Char) : Prop where
  isPropertyKey : IsPropertyKey field.1
  newline_notMem : '\n' ∉ field.2
  isTrimmed : IsTrimmed field.2

/-- An item that can be read off its lines: a text must not open an object, and an object is
opened by a key. -/
def RawItem.IsWritable : RawItem → Prop
  | .text content =>
    content ≠ [] ∧ objectItem content = none ∧ '\n' ∉ content ∧ IsTrimmed content
  | .object name value rest => IsKey name ∧ ∀ field ∈ (name, value) :: rest, IsRawField field

/-- A text in quotes opens no object. -/
theorem objectItem_inQuotes (s : List Char) : objectItem (inQuotes s) = none :=
  if_pos (Or.inl rfl)

/-- A spelled field can be read off its line. -/
theorem isRawField_spell {name : String} {s : Scalar} (h : IsWritableField (name, s)) :
    IsRawField (name, s.spell name) :=
  ⟨h.1.isPropertyKey, Scalar.newline_notMem_spell h.2 name, s.isTrimmed_spell name⟩

/-- An item that the markup can carry can be read off its lines. -/
theorem Item.isWritable_raw {item : Item} (h : item.IsWritable) : item.raw.IsWritable := by
  cases item with
  | text s =>
      exact ⟨List.cons_ne_nil _ _, objectItem_inQuotes _, newline_notMem_inQuotes h,
        isTrimmed_inQuotes _⟩
  | object name value rest =>
      obtain ⟨hfirst, hrest⟩ := List.forall_mem_cons.1 h
      exact ⟨hfirst.1, List.forall_mem_cons.2 ⟨isRawField_spell hfirst,
        List.forall_mem_map.2 fun field hfield => isRawField_spell (hrest field hfield)⟩⟩

/-- What is written for an item is read as its value. -/
theorem Item.value_raw {item : Item} (h : item.IsWritable) : item.raw.value = item.value := by
  cases item with
  | text s => rw [raw, RawItem.value, unquote_inQuotes, String.ofList_toList, value]
  | object name value rest =>
      have hfields : (((name, value) :: rest).map fun field =>
          (field.1, field.2.spell field.1)).map rawField =
          ((name, value) :: rest).map fun field => (field.1, field.2.value) := by
        rw [List.map_map]
        refine List.map_congr_left fun field hfield => ?_
        rw [Function.comp_apply, rawField, ofScalar_spell (h field hfield).2]
      have hvalue : Item.value (.object name value rest) = .object (Fields.ofList
          (((name, value) :: rest).map fun field => (field.1, field.2.value))) := rfl
      rw [hvalue, ← hfields]
      rfl

/-- The lines of an item that can be read are neat. -/
theorem RawItem.isNeat_of_mem_lines {item : RawItem} (h : item.IsWritable) :
    ∀ line ∈ item.lines, line.IsNeat := by
  cases item with
  | text content =>
      obtain ⟨hne, -, hnewline, htrimmed⟩ := h
      exact List.forall_mem_singleton.2 ⟨hne, hnewline, htrimmed⟩
  | object name value rest =>
      obtain ⟨-, hfields⟩ := h
      obtain ⟨⟨hname, hnewline, hvalue⟩, hrest⟩ := List.forall_mem_cons.1 hfields
      refine List.forall_mem_cons.2 ⟨⟨?_, ?_, ?_⟩, List.forall_mem_map.2 ?_⟩
      · exact List.append_ne_nil_of_right_ne_nil _ (List.cons_ne_nil _ _)
      · exact newline_notMem_spellField hname hnewline
      · exact isTrimmed_spellField hname hvalue
      · intro field hfield
        obtain ⟨hkey, hfeed, htrimmed⟩ := hrest field hfield
        exact ⟨hkey, hfeed, htrimmed⟩

/-- The lines of what is written under a key are neat. -/
theorem Content.isNeat_of_mem_lines {key : String} {content : Content} (hkey : IsKey key)
    (h : content.IsWritable) : ∀ line ∈ content.lines key, line.IsNeat := by
  cases content with
  | scalar s =>
      refine List.forall_mem_singleton.2 ?_
      exact ⟨hkey.isPropertyKey, Scalar.newline_notMem_spell h key, s.isTrimmed_spell key⟩
  | list items =>
      cases items with
      | nil =>
          refine List.forall_mem_singleton.2 ?_
          have hbrackets : IsTrimmed ['[', ']'] := by
            constructor <;> rintro c hc <;> cases hc <;> rfl
          exact ⟨hkey.isPropertyKey, by decide, hbrackets⟩
      | cons item items =>
          refine List.forall_mem_cons.2 ⟨⟨hkey.isPropertyKey, List.not_mem_nil, nofun, nofun⟩, ?_⟩
          intro line hline
          obtain ⟨item', hitem', hline⟩ := List.mem_flatMap.1 hline
          rw [← Item.lines_raw] at hline
          exact RawItem.isNeat_of_mem_lines (Item.isWritable_raw (h item' hitem')) line hline

/-- The lines of entries are neat. -/
theorem isNeat_of_mem_linesOf {entries : List (String × Content)}
    (h : ∀ entry ∈ entries, IsWritableEntry entry) : ∀ line ∈ linesOf entries, line.IsNeat := by
  intro line hline
  obtain ⟨entry, hentry, hline⟩ := List.mem_flatMap.1 hline
  obtain ⟨hkey, hcontent⟩ := h entry hentry
  exact Content.isNeat_of_mem_lines hkey hcontent line hline

end PatchReview.Metadata
