import PatchReview.Proofs.ClauseList
import PatchReview.Proofs.DecimalSpelling
import PatchReview.Proofs.FieldLines

/-!
# Texts without quotes

A text that is written without quotes is first read as a truth value, a number or a text, and
turned back into a text where a field of a document or of a clause is one.  The two steps
undo each other, except for the spellings of numbers that no number is printed in: these are
replaced by what their number is printed as.

Main definitions:

- `Metadata.IsPlainText`: the texts that can be written without quotes.
- `Metadata.shown`: what such a text becomes.
- `Metadata.IsRespelled`: the texts that do not stay as they are.

Main results:

- Theorem `Metadata.shown_eq_iff`: which texts stay as they are.
- Theorem `Metadata.asText?_ofScalar`: the text of a scalar that is a plain text.
- Theorem `Document.texts_of_plain`: what plain texts become in a document.
-/

namespace PatchReview

namespace Metadata

open Text

/-! ## Plain texts -/

/-- A text that can be written without quotes: not empty, on one line, without blanks at its
ends, neither starting with a quote nor between brackets. -/
structure IsPlainText (t : List Char) : Prop where
  ne_nil : t ≠ []
  newline_notMem : '\n' ∉ t
  isTrimmed : IsTrimmed t
  notQuoted : t.head? ≠ some '"' ∧ t.head? ≠ some '\''
  notBracketed : ¬ (t.head? = some '[' ∧ t.getLast? = some ']')

instance (t : List Char) : Decidable (IsPlainText t) :=
  decidable_of_iff (t ≠ [] ∧ '\n' ∉ t ∧ IsTrimmed t ∧
      (t.head? ≠ some '"' ∧ t.head? ≠ some '\'') ∧ ¬ (t.head? = some '[' ∧ t.getLast? = some ']'))
    ⟨fun h => ⟨h.1, h.2.1, h.2.2.1, h.2.2.2.1, h.2.2.2.2⟩, fun h => ⟨h.1, h.2, h.3, h.4, h.5⟩⟩

/-- What a plain text becomes: a number is printed, and another text stays as it is. -/
def shown (t : List Char) : String :=
  match readInt64 t with
  | some i => toString i
  | none => String.ofList t

/-- A text that is read as a number and not what the number is printed as. -/
def IsRespelled (t : List Char) : Prop :=
  (readInt64 t).isSome ∧ IsRedundant t

instance (t : List Char) : Decidable (IsRespelled t) :=
  inferInstanceAs (Decidable (_ ∧ _))

/-- A plain text stays as it is unless it is a number with a redundant sign or zero. -/
theorem shown_eq_iff (t : List Char) : shown t = String.ofList t ↔ ¬ IsRespelled t := by
  rw [shown, IsRespelled]
  cases hread : readInt64 t with
  | none => exact iff_of_true rfl fun h => absurd h.1 Bool.false_ne_true
  | some i =>
      have hsome : (some i).isSome = true := rfl
      dsimp only
      rw [hsome, eq_self, true_and, ← toString_of_readInt64_iff hread, ← String.toList_inj,
        String.toList_ofList]

/-- A text between no brackets is not a list. -/
theorem bracketedText_eq_none {t : List Char} (h : ¬ (t.head? = some '[' ∧ t.getLast? = some ']')) :
    bracketedText t = none := by
  unfold bracketedText
  split
  · next rest =>
    split
    · next hlast =>
      refine absurd ⟨rfl, ?_⟩ h
      cases rest with
      | nil => cases hlast
      | cons c rest => rwa [List.getLast?_cons_cons]
    · rfl
  · rfl

/-- Quotes are taken off only if there is one in front. -/
theorem unquoteWith_eq_none {quote : Char} {t : List Char} (h : t.head? ≠ some quote) :
    unquoteWith quote t = none := by
  cases t with
  | nil => rfl
  | cons c rest =>
      rw [unquoteWith, if_neg]
      rintro ⟨rfl, -⟩
      exact h rfl

/-- A text without backslashes has none to collapse. -/
theorem collapseBackslashes_of_notMem {s : List Char} (h : '\\' ∉ s) : collapseBackslashes s = s := by
  induction s with
  | nil => rfl
  | cons c s ih =>
      rw [List.mem_cons, not_or] at h
      cases s with
      | nil => rfl
      | cons d s => rw [collapseBackslashes, if_neg fun heq => h.1 heq.1.symm, ih h.2]

/-- The text of a scalar that is a plain text; in patterns backslashes are collapsed. -/
theorem asText?_ofScalar {t : List Char} (ht : IsPlainText t) (key : String) :
    (Value.ofScalar key t).asText? =
      some (if isPatternKey key then unescapePattern (shown t) else shown t) := by
  -- the text of a number or a truth value has no backslashes
  have hkept : ∀ s : String, '\\' ∉ s.toList →
      (if isPatternKey key then unescapePattern s else s) = s := by
    intro s hs
    split
    · rw [unescapePattern, collapseBackslashes_of_notMem hs, String.ofList_toList]
    · rfl
  by_cases htrue : t = ['t', 'r', 'u', 'e']
  · subst htrue
    have hshown : shown ['t', 'r', 'u', 'e'] = "true" := rfl
    rw [hshown, hkept "true" (by decide)]
    rfl
  by_cases hfalse : t = ['f', 'a', 'l', 's', 'e']
  · subst hfalse
    have hshown : shown ['f', 'a', 'l', 's', 'e'] = "false" := rfl
    rw [hshown, hkept "false" (by decide)]
    rfl
  have hplain : IsPlain t := ⟨ht.ne_nil, bracketedText_eq_none ht.notBracketed, htrue, hfalse⟩
  cases hread : readInt64 t with
  | some i =>
      have hshown : shown t = toString i := by rw [shown, hread]
      have hbackslash : '\\' ∉ (toString i).toList := fun hmem =>
        absurd (isNameChar_of_mem_toString i _ hmem) (by decide)
      rw [ofScalar_of_readInt64_eq_some hplain hread, hshown, hkept _ hbackslash]
      rfl
  | none =>
      have hshown : shown t = String.ofList t := by rw [shown, hread]
      have hunquote : unquote t = t := by
        rw [unquote, unquoteWith_eq_none ht.notQuoted.1, unquoteWith_eq_none ht.notQuoted.2]
        rfl
      rw [ofScalar_of_readInt64_eq_none hplain hread, hunquote, hshown, unescapePattern,
        String.toList_ofList, Value.asText?]
      split <;> rfl

/-- What a text becomes is not empty if the text is not, in patterns neither. -/
theorem unescapePattern_shown_ne {t : List Char} (ht : t ≠ []) : unescapePattern (shown t) ≠ "" := by
  have hprinted : ∀ i : Int, (toString i).toList ≠ [] := by
    intro i
    cases i with
    | ofNat n =>
        rw [toList_toString_ofNat]
        exact Nat.toDigits_ne_nil
    | negSucc n =>
        rw [toList_toString_negSucc]
        exact List.cons_ne_nil _ _
  have hshown : (shown t).toList ≠ [] := by
    rw [shown]
    split
    · exact hprinted _
    · rwa [String.toList_ofList]
  have hcollapse : ∀ s : List Char, s ≠ [] → collapseBackslashes s ≠ [] := by
    intro s hs
    unfold collapseBackslashes
    split
    · exact absurd rfl hs
    · exact List.cons_ne_nil _ _
    · split <;> exact List.cons_ne_nil _ _
  rw [unescapePattern, Ne, ← String.toList_eq_nil_iff, String.toList_ofList]
  exact hcollapse _ hshown

/-! ## Plain texts in items -/

/-- The fields of an item as they are written. -/
def RawItem.fields : RawItem → List (String × List Char)
  | .text _ => []
  | .object name value rest => (name, value) :: rest

/-- An item writes a text under a name, and nothing under this name after it. -/
def RawItem.Writes (item : RawItem) (name : String) (t : List Char) : Prop :=
  ∃ before after, item.fields = before ++ (name, t) :: after ∧ name ∉ after.map (·.1)

/-- An item that writes a field is an object. -/
theorem RawItem.Writes.exists_value {item : RawItem} {name : String} {t : List Char}
    (h : item.Writes name t) :
    ∃ fields, item.value = .object fields ∧
      Fields.get? fields name = some (.ofScalar name t) := by
  obtain ⟨before, after, hfields, hafter⟩ := h
  have hnames : name ∉ (after.map rawField).map (·.1) := by
    rw [List.map_map]
    exact hafter
  cases item with
  | text content => exact absurd hfields.symm (List.append_ne_nil_of_right_ne_nil _ (List.cons_ne_nil _ _))
  | object first value rest =>
      refine ⟨_, rfl, ?_⟩
      rw [fields] at hfields
      rw [hfields, List.map_append, List.map_cons]
      exact Fields.get?_ofList_append (before.map rawField) name _ hnames

end Metadata

namespace Document

open Metadata Text

/-- What a clause says where its item writes a plain text: the text of that field, and of a
pattern the text without the doubling of backslashes. -/
structure LoadsText (item : RawItem) (t : List Char) (c : Clause) : Prop where
  id : item.Writes "id" t → c.id = shown t
  message : item.Writes "message" t → c.message = shown t
  pattern : item.Writes "pattern" t → c.pattern = unescapePattern (shown t)
  negativePattern : item.Writes "negativePattern" t →
    c.negativePattern = some (unescapePattern (shown t))

/-- The text of a field that an item writes. -/
theorem textOf?_of_writes {item : RawItem} {fields : Metadata} (hvalue : item.value = .object fields)
    {t : List Char} (ht : IsPlainText t) {name : String} (h : item.Writes name t) :
    textOf? fields name =
      some (if isPatternKey name then unescapePattern (shown t) else shown t) := by
  obtain ⟨written, hwritten, hget⟩ := h.exists_value
  rw [hvalue, Value.object.injEq] at hwritten
  rw [textOf?, hwritten, hget, Option.bind_some, asText?_ofScalar ht]

/-- A clause that is made from the fields of an item has the plain texts that the item
writes. -/
theorem loadsText_of_describes {item : RawItem} {fields : Metadata}
    (hvalue : item.value = .object fields) {d : Document} {n : Nat} {c : Clause}
    (hc : Describes d n fields c) {t : List Char} (ht : IsPlainText t) : LoadsText item t c where
  id h := by
    rw [hc.id, textOf?_of_writes hvalue ht h]
    rfl
  message h := by
    rw [hc.message, textOf?_of_writes hvalue ht h]
    rfl
  pattern h := by
    have hpattern := hc.pattern
    rw [textOf?_of_writes hvalue ht h] at hpattern
    exact (Option.some.inj hpattern).symm
  negativePattern h := by
    rw [hc.negativePattern, textOf?_of_writes hvalue ht h]
    exact Option.filter_eq_some_iff.2 ⟨rfl, decide_eq_true (unescapePattern_shown_ne ht.ne_nil)⟩

/-- An item that writes a plain text as its pattern has a pattern. -/
theorem hasPattern_of_writes {item : RawItem} {t : List Char} (ht : IsPlainText t)
    (h : item.Writes "pattern" t) : ∃ fields, item.value = .object fields ∧ HasPattern fields := by
  obtain ⟨fields, hvalue, -⟩ := h.exists_value
  exact ⟨fields, hvalue, _, textOf?_of_writes hvalue ht h, unescapePattern_shown_ne ht.ne_nil⟩

/-! ## Plain texts in documents -/

/-- Lines that set nothing under a name. -/
def LeavesUnset (name : String) (ls : List (List Char)) : Prop :=
  Fields.get? (Metadata.ofText (String.ofList (joinLines ls))) name = none

/-- A document with a field at the margin that is a plain text and not set again. -/
theorem exists_textOf?_field (id : String) {name : String} (hname : IsPropertyKey name)
    {t : List Char} (ht : IsPlainText t) {above below : List (List Char)}
    (hlines : ∀ line ∈ above ++ below, Framed.IsBlockLine line) (hbelow : LeavesUnset name below)
    (body : List Char) :
    ∃ framed, ofText? id (String.ofList
        (Framed.compose (above ++ spellField name t :: below) body)) = .ok (ofFramed id framed) ∧
      textOf? framed.metadata name =
        some (if isPatternKey name then unescapePattern (shown t) else shown t) := by
  have hneat : (Line.property false name t).IsNeat := ⟨hname, ht.newline_notMem, ht.isTrimmed⟩
  obtain ⟨habove, hrest⟩ := List.forall_mem_append.1 hlines
  have hblock : ∀ line ∈ above ++ spellField name t :: below, Framed.IsBlockLine line :=
    List.forall_mem_append.2 ⟨habove, List.forall_mem_cons.2 ⟨isBlockLine_spellField hneat, hrest⟩⟩
  refine ⟨_, ofText?_compose id hblock body, ?_⟩
  rw [textOf?, get?_ofText_field hneat ht.ne_nil above hbelow, Option.bind_some,
    asText?_ofScalar ht]

/-- A document with a rule list below its key that is not set again. -/
theorem exists_ruleEntries_list (id : String) {items : List RawItem}
    (hitems : ∀ item ∈ items, item.IsWritable) (hne : items ≠ []) {list : List (List Char)}
    (hlist : IsWrittenList "rules" items list) {above below : List (List Char)}
    (hlines : ∀ line ∈ above ++ below, Framed.IsBlockLine line)
    (hends : EndsList (significantLines (joinLines below))) (hbelow : LeavesUnset "rules" below)
    (body : List Char) :
    ∃ framed, ofText? id (String.ofList (Framed.compose (above ++ (list ++ below)) body)) =
          .ok (ofFramed id framed) ∧
      ruleEntries framed.metadata = items.map RawItem.value := by
  have hkey : IsPropertyKey "rules" := IsKey.isPropertyKey (by decide)
  obtain ⟨habove, hrest⟩ := List.forall_mem_append.1 hlines
  have hblock : ∀ line ∈ above ++ (list ++ below), Framed.IsBlockLine line :=
    List.forall_mem_append.2 ⟨habove, List.forall_mem_append.2
      ⟨isBlockLine_of_isWrittenAs (isNeat_of_mem_list hkey hitems) hlist, hrest⟩⟩
  refine ⟨_, ofText?_compose id hblock body, ?_⟩
  rw [ruleEntries, get?_ofText_list hkey hitems hne hlist above hends hbelow]
  rfl

/-- A title, a category, and the texts of the clauses that are written without quotes become
what is shown for them, patterns without the doubling of backslashes.  That is the text as it
is written, unless it is a number with a plus sign or a zero in front. -/
theorem texts_of_plain {t : List Char} (ht : IsPlainText t) (id : String)
    {above below : List (List Char)} (hlines : ∀ line ∈ above ++ below, Framed.IsBlockLine line)
    (body : List Char) :
    (shown t = String.ofList t ↔ ¬ IsRespelled t) ∧
      (LeavesUnset "title" below → ∃ read, ofText? id (String.ofList
          (Framed.compose (above ++ spellField "title" t :: below) body)) = .ok read ∧
        read.value.title = shown t) ∧
      (LeavesUnset "category" below → ∃ read, ofText? id (String.ofList
          (Framed.compose (above ++ spellField "category" t :: below) body)) = .ok read ∧
        read.value.category = shown t) ∧
      ∀ (items : List RawItem) (list : List (List Char)), (∀ item ∈ items, item.IsWritable) →
        items ≠ [] → IsWrittenList "rules" items list →
        EndsList (significantLines (joinLines below)) → LeavesUnset "rules" below →
        ∃ read, ofText? id (String.ofList
            (Framed.compose (above ++ (list ++ below)) body)) = .ok read ∧
          (∀ item ∈ items, item.Writes "pattern" t →
            ∃ fields, item.value = .object fields ∧ HasPattern fields) ∧
          ∃ kept, Keeps read.value [] ((items.map RawItem.value).zipIdx 1) kept ∧
            List.Forall₂ (fun entry c => Describes read.value entry.2 entry.1 c ∧
              ∀ item ∈ items, item.value = .object entry.1 → LoadsText item t c)
              kept read.value.rules := by
  refine ⟨shown_eq_iff t, fun hbelow => ?_, fun hbelow => ?_, ?_⟩
  · have hname : IsPropertyKey "title" := IsKey.isPropertyKey (by decide)
    obtain ⟨framed, hread, htext⟩ := exists_textOf?_field id hname ht hlines hbelow body
    refine ⟨_, hread, ?_⟩
    have htitle : (ofFramed id framed).value.title =
        (textOf? framed.metadata "title").getD (titleOfId id) := rfl
    rw [htitle, htext]
    rfl
  · have hname : IsPropertyKey "category" := IsKey.isPropertyKey (by decide)
    obtain ⟨framed, hread, htext⟩ := exists_textOf?_field id hname ht hlines hbelow body
    refine ⟨_, hread, ?_⟩
    have hcategory : (ofFramed id framed).value.category =
        (textOf? framed.metadata "category").getD defaultCategory := rfl
    rw [hcategory, htext]
    rfl
  · intro items list hitems hne hlist hends hbelow
    obtain ⟨framed, hread, hentries⟩ :=
      exists_ruleEntries_list id hitems hne hlist hlines hends hbelow body
    obtain ⟨kept, hkept, hclauses⟩ := exists_keeps_ofFramed id framed
    rw [hentries] at hkept
    refine ⟨_, hread, fun item _ => hasPattern_of_writes ht, kept, hkept, hclauses.imp ?_⟩
    exact fun entry c hc => ⟨hc, fun item _ hvalue => loadsText_of_describes hvalue hc ht⟩

/-- A negative number as a title, and as the id, the pattern and the message of a clause whose
lines are indented by one space and a tab. -/
theorem texts_of_plain_negative :
    let t := "-42".toList
    let items := [RawItem.text "a text".toList, .object "id" t [("pattern", t), ("message", t)]]
    let list := ["rules:".toList, " - a text".toList, "- id: -42".toList, "\tpattern: -42".toList,
      " \tmessage: -42".toList]
    let below := ["severity: error".toList]
    shown t = "-42" ∧
      (∃ read, ofText? "doc" (String.ofList
          (Framed.compose ([] ++ "title: -42".toList :: below) [])) = .ok read ∧
        read.value.title = "-42") ∧
      ∃ read, ofText? "doc" (String.ofList (Framed.compose ([] ++ (list ++ below)) [])) = .ok read ∧
        ∃ kept, Keeps read.value [] ((items.map RawItem.value).zipIdx 1) kept ∧
          List.Forall₂ (fun entry c => Describes read.value entry.2 entry.1 c ∧
            ∀ item ∈ items, item.value = .object entry.1 → LoadsText item t c)
            kept read.value.rules := by
  intro t items list below
  have ht : IsPlainText t := by decide
  have hitems : ∀ item ∈ items, item.IsWritable := by
    have hfield : ∀ {name}, IsKey name → IsRawField (name, t) :=
      fun hname => ⟨hname.isPropertyKey, ht.newline_notMem, ht.isTrimmed⟩
    refine List.forall_mem_cons.2 ⟨⟨by decide, rfl, by decide, by decide⟩,
      List.forall_mem_singleton.2 ⟨by decide, ?_⟩⟩
    exact List.forall_mem_cons.2 ⟨hfield (by decide), List.forall_mem_cons.2
      ⟨hfield (by decide), List.forall_mem_singleton.2 (hfield (by decide))⟩⟩
  have hlist : IsWrittenList "rules" items list := by
    have hnone : IsPadding [] := by decide
    have hspace : IsPadding [' '] := by decide
    have htab : IsPadding ['\t'] := by decide
    have hboth : IsPadding [' ', '\t'] := by decide
    refine .cons (.field "rules" []) <| .cons (.item hspace _) <|
      .cons (.item hnone _) ?_
    exact .cons (.innerField htab (List.cons_ne_nil _ _) "pattern" t) <|
      .cons (.innerField hboth (List.cons_ne_nil _ _) "message" t) .nil
  have hlines : ∀ line ∈ [] ++ below, Framed.IsBlockLine line :=
    List.forall_mem_singleton.2 ⟨by decide, by decide⟩
  have hends : EndsList (significantLines (joinLines below)) := by
    rintro line hline
    exact .inr ⟨"severity", "error".toList, (Option.some.inj hline).symm⟩
  have hunset : ∀ name, (Fields.get? (Metadata.ofText (String.ofList (joinLines below)))
      name).isNone = true → LeavesUnset name below := fun name h => Option.isNone_iff_eq_none.1 h
  obtain ⟨hshown, htitle, -, hclauses⟩ := texts_of_plain ht "doc" hlines []
  obtain ⟨read, hread, -, hkept⟩ :=
    hclauses items list hitems (List.cons_ne_nil _ _) hlist hends (hunset "rules" (by decide +kernel))
  exact ⟨hshown.2 (by decide), htitle (hunset "title" (by decide +kernel)), read, hread, hkept⟩

/-- A title with zeros in front, an id with a plus sign, and minus zero as a pattern do not
stay as they are written, and the same text does as an item of a list. -/
theorem texts_of_respelled :
    let content := "---\ntitle: 007\nfilePatterns:\n  - 007\nrules:\n  - id: +5\n" ++
      "    pattern: -0\n---\n"
    IsPlainText "007".toList ∧ IsPlainText "+5".toList ∧ IsPlainText "-0".toList ∧
      ∃ read, ofText? "doc" content = .ok read ∧ read.value.title = "7" ∧
        read.value.filePatterns = ["007"] ∧
        read.value.rules.map (fun c => (c.id, c.pattern)) = [("5", "0")] := by
  intro content
  have htexts : ((ofText? "doc" content).toOption.map fun read => (read.value.title,
      read.value.filePatterns, read.value.rules.map fun c => (c.id, c.pattern))) =
      some ("7", ["007"], [("5", "0")]) := by
    decide +kernel
  cases hread : ofText? "doc" content with
  | error e =>
      rw [hread] at htexts
      cases htexts
  | ok read =>
      rw [hread] at htexts
      obtain ⟨htitle, hlists⟩ := Prod.mk.inj (Option.some.inj htexts)
      obtain ⟨hpatterns, hrules⟩ := Prod.mk.inj hlists
      exact ⟨by decide, by decide, by decide, read, rfl, htitle, hpatterns, hrules⟩

end Document

end PatchReview
