import PatchReview.Proofs.FieldLines

/-!
# Lists on one line and lists in a block

A list of texts can be written on the line of its key, between brackets and with commas
between the texts, or in a block of items below the key.  In both notations the texts may
stand in double quotes, so that they can have what the markup uses.  The quotes protect an
item of a block from everything, and a text on one line from everything but commas: the
line is cut at every comma before quotes are taken off.  So the two notations give the same
list exactly if no text has a comma.

Main definitions:

- `Metadata.inlineForm` and `Metadata.blockForm`: the two notations.

Main results:

- Theorem `Metadata.inlineItems_intercalate`: what stands between commas is read on its own.
- Theorem `Metadata.readLines_items_inQuotes`: the items of a block are read with their commas.
- Theorem `Metadata.ofScalar_inline_eq_iff`: what is read from one line.
- Theorem `Document.ofText?_inlineForm`: when the notations agree, and what a list in a block is.
-/

namespace PatchReview

namespace Metadata

open Text

/-! ## Texts between commas -/

/-- What stands on both sides of a comma is read on its own. -/
theorem inlineItems_append_cons (first rest : List Char) :
    inlineItems (first ++ ',' :: rest) = inlineItems first ++ inlineItems rest := by
  rw [inlineItems, fields_append_cons, List.map_append, List.filter_append, List.map_append,
    ← inlineItems, ← inlineItems]

/-- A space before the first text does not count. -/
theorem inlineItems_space (s : List Char) : inlineItems (' ' :: s) = inlineItems s := by
  have hspace : ∀ first, trim (' ' :: first) = trim first :=
    trim_append (List.forall_mem_singleton.2 (by decide))
  cases hs : fields (· == ',') s with
  | nil => exact absurd hs (fields_ne_nil _ s)
  | cons first others =>
      have hfields : fields (· == ',') (' ' :: s) = (' ' :: first) :: others := by
        rw [fields, hs]
        rfl
      rw [inlineItems, hfields, inlineItems, hs, List.map_cons, List.map_cons, hspace]

/-- What stands between commas and spaces is read on its own. -/
theorem inlineItems_intercalate (parts : List (List Char)) :
    inlineItems ([',', ' '].intercalate parts) = parts.flatMap inlineItems := by
  induction parts with
  | nil => rfl
  | cons part parts ih =>
      cases parts with
      | nil => rw [List.intercalate_singleton, List.flatMap_singleton]
      | cons next parts =>
          rw [List.intercalate_cons_cons, List.flatMap_cons, ← ih, List.append_assoc]
          change inlineItems (part ++ ',' :: ' ' :: [',', ' '].intercalate (next :: parts)) = _
          rw [inlineItems_append_cons, inlineItems_space]

/-- A text in quotes without a comma is read as it is. -/
theorem inlineItems_inQuotes {s : List Char} (hs : s ≠ []) (hcomma : ',' ∉ s) :
    inlineItems (inQuotes s) = [.text (String.ofList s)] := by
  have hnone : ',' ∉ inQuotes s := by
    rw [inQuotes, List.mem_cons, List.mem_append, List.mem_singleton, not_or, not_or]
    exact ⟨by decide, hcomma, by decide⟩
  rw [inlineItems, fields_of_notMem hnone, List.map_singleton, (isTrimmed_inQuotes s).trim_eq,
    unquote_inQuotes, List.filter_singleton, decide_eq_true hs]
  rfl

/-- A quote that is not closed is kept. -/
theorem unquote_of_quote_notMem {s : List Char} (h : '"' ∉ s) : unquote ('"' :: s) = '"' :: s := by
  have hdouble : unquoteWith '"' ('"' :: s) = none := by
    rw [unquoteWith, if_neg]
    rintro ⟨-, hlast⟩
    exact h (List.mem_of_getLast? hlast)
  have hsingle : unquoteWith '\'' ('"' :: s) = none := by
    rw [unquoteWith, if_neg]
    exact fun hquote => absurd hquote.1 (by decide)
  rw [unquote, hdouble, hsingle]
  rfl

/-- A text in quotes with a comma is cut there, and its first part keeps a quote. -/
theorem exists_quote_mem_inlineItems {s : List Char} (hquote : '"' ∉ s) (hcomma : ',' ∈ s) :
    ∃ text, .text text ∈ inlineItems (inQuotes s) ∧ '"' ∈ text.toList := by
  obtain ⟨before, after, rfl, hbefore⟩ := List.eq_append_cons_of_mem hcomma
  -- the part before the first comma has the opening quote, and no quote that closes it
  have hcut : inQuotes (before ++ ',' :: after) = ('"' :: before) ++ ',' :: (after ++ ['"']) := by
    simp [inQuotes]
  have hnone : ',' ∉ '"' :: before := List.not_mem_cons_of_ne_of_not_mem (by decide) hbefore
  have hkept := trimEnd_prefix before
  have hopen : '"' ∉ trimEnd before :=
    fun hmem => hquote (List.mem_append_left _ (hkept.subset hmem))
  have htrim : trim ('"' :: before) = '"' :: trimEnd before := trimEnd_cons (by decide) before
  refine ⟨String.ofList ('"' :: trimEnd before), ?_, by simp⟩
  rw [hcut, inlineItems_append_cons, List.mem_append]
  left
  rw [inlineItems, fields_of_notMem hnone, List.map_singleton, htrim, unquote_of_quote_notMem hopen]
  exact List.mem_singleton.2 rfl

/-! ## The two notations -/

/-- A text that can stand in double quotes: not empty, on one line, and without such quotes. -/
structure IsQuotable (t : String) : Prop where
  ne_empty : t ≠ ""
  newline_notMem : '\n' ∉ t.toList
  quote_notMem : '"' ∉ t.toList

instance (t : String) : Decidable (IsQuotable t) :=
  decidable_of_iff (t ≠ "" ∧ '\n' ∉ t.toList ∧ '"' ∉ t.toList)
    ⟨fun h => ⟨h.1, h.2.1, h.2.2⟩, fun h => ⟨h.1, h.2, h.3⟩⟩

/-- A list of quoted texts on one line. -/
def inlineList (texts : List String) : List Char :=
  '[' :: ([',', ' '].intercalate (texts.map fun t => inQuotes t.toList) ++ [']'])

/-- The line of a key with a list of quoted texts. -/
def inlineForm (key : String) (texts : List String) : List Char :=
  spellField key (inlineList texts)

/-- The line of a key, and below it, indented, a line for each quoted text. -/
def blockForm (indent : List Char) (key : String) (texts : List String) : List (List Char) :=
  spellField key [] :: texts.map fun t => indent ++ (Line.item (inQuotes t.toList)).text

/-- A list of quoted texts on one line is read as these texts exactly if none of them has a
comma. -/
theorem ofScalar_inline_eq_iff {texts : List String} (h : ∀ t ∈ texts, IsQuotable t) (key : String) :
    Value.ofScalar key (inlineList texts) = .list (texts.map .text) ↔
      ∀ t ∈ texts, ',' ∉ t.toList := by
  have hread : Value.ofScalar key (inlineList texts) =
      .list (texts.flatMap fun t => inlineItems (inQuotes t.toList)) := by
    have hne : inlineList texts ≠ [] := List.cons_ne_nil _ _
    have hbrackets : bracketedText (inlineList texts) =
        some ([',', ' '].intercalate (texts.map fun t => inQuotes t.toList)) := by
      rw [inlineList, bracketedText, List.getLast?_concat, if_pos rfl, List.dropLast_concat]
    rw [Value.ofScalar, if_neg hne, hbrackets]
    dsimp only
    rw [inlineItems_intercalate, List.flatMap_map]
  rw [hread, Value.list.injEq]
  constructor
  · -- an item with a quote is none of the texts
    intro heq t ht hcomma
    obtain ⟨text, htext, hquote⟩ := exists_quote_mem_inlineItems (h t ht).quote_notMem hcomma
    have hmem : .text text ∈ texts.map Value.text := heq ▸ List.mem_flatMap_of_mem ht htext
    obtain ⟨u, hu, hsame⟩ := List.mem_map.1 hmem
    obtain rfl := Value.text.inj hsame
    exact (h u hu).quote_notMem hquote
  · intro hcomma
    calc
      (texts.flatMap fun t => inlineItems (inQuotes t.toList))
        = texts.flatMap fun t => [Value.text t] := by
          refine List.flatMap_congr fun t ht => ?_
          rw [inlineItems_inQuotes (String.toList_eq_nil_iff.not.2 (h t ht).ne_empty) (hcomma t ht),
            String.ofList_toList]
      _ = texts.map .text := (List.map_eq_flatMap ..).symm

/-! ## Reading the two notations -/

/-- The line of a key with a list of quoted texts is neat. -/
theorem isNeat_inlineForm {key : String} (hkey : IsPropertyKey key) {texts : List String}
    (h : ∀ t ∈ texts, IsQuotable t) : (Line.property false key (inlineList texts)).IsNeat := by
  refine ⟨hkey, ?_, ⟨fun c hc => ?_, fun c hc => ?_⟩⟩
  · rw [inlineList, List.mem_cons, List.mem_append, List.mem_singleton, not_or, not_or]
    refine ⟨by decide, notMem_intercalate (by decide) ?_, by decide⟩
    exact List.forall_mem_map.2 fun t ht => newline_notMem_inQuotes (h t ht).newline_notMem
  · cases hc
    rfl
  · rw [inlineList, ← List.cons_append, List.getLast?_concat] at hc
    cases hc
    rfl

/-- The lines of a key and quoted items are neat. -/
theorem isNeat_of_mem_quotedItems {key : String} (hkey : IsPropertyKey key) {texts : List String}
    (h : ∀ t ∈ texts, IsQuotable t) : ∀ line ∈ Line.property false key [] ::
      texts.map (fun t => .item (inQuotes t.toList)), line.IsNeat :=
  List.forall_mem_cons.2 ⟨⟨hkey, List.not_mem_nil, nofun, nofun⟩,
    List.forall_mem_map.2 fun t ht => ⟨List.cons_ne_nil _ _,
      newline_notMem_inQuotes (h t ht).newline_notMem, isTrimmed_inQuotes _⟩⟩

/-- A list in a block writes its key and its items. -/
theorem isWrittenAs_blockForm {indent : List Char} (hindent : IsPadding indent) (key : String)
    (texts : List String) :
    List.Forall₂ Line.IsWrittenAs (.property false key [] ::
      texts.map fun t => .item (inQuotes t.toList)) (blockForm indent key texts) :=
  .cons (.field key []) (List.forall₂_map_left_iff.2 (List.forall₂_map_right_iff.2
    (List.forall₂_same.2 fun t _ => .item hindent (inQuotes t.toList))))

/-- Quoted items are added to the list that the reader stands in, commas and all. -/
theorem readLines_items_inQuotes (done : Metadata) (key : String) (items : List Value)
    (texts : List String) (more : List Line) :
    readLines done (.inList key items)
        ((texts.map fun t => Line.item (inQuotes t.toList)) ++ more) =
      readLines done (.inList key (items ++ texts.map .text)) more := by
  induction texts generalizing items with
  | nil => rw [List.map_nil, List.nil_append, List.map_nil, List.append_nil]
  | cons t texts ih =>
      have hlist : (State.inList key items).list? = some (key, items) := rfl
      have hquoted : inQuotes t.toList ≠ [] := List.cons_ne_nil _ _
      rw [List.map_cons, List.cons_append, readLines, step_item hlist,
        push_text key items hquoted (objectItem_inQuotes _), unquote_inQuotes,
        String.ofList_toList]
      dsimp only
      rw [ih, List.append_assoc, List.map_cons, List.singleton_append]

/-- A list of texts is stored before every line but an item. -/
theorem readLines_inList {more : List Line} (h : ∀ content, more.head? ≠ some (.item content))
    (done : Metadata) (key : String) (items : List Value) :
    readLines done (.inList key items) more = readLines (done.set key (.list items)) .top more := by
  cases more with
  | nil => rfl
  | cons line more =>
      cases line with
      | item content => exact absurd rfl (h content)
      | property indented name value => rfl
      | other => rfl

/-- A list of quoted texts in a block sets these texts, whatever stands above it. -/
theorem ofText_blockForm {indent : List Char} (hindent : IsPadding indent) {key : String}
    (hkey : IsPropertyKey key) {texts : List String} (hne : texts ≠ []) (h : ∀ t ∈ texts, IsQuotable t) (above : List (List Char)) {below : List (List Char)}
    (hbelow : ∀ content, (significantLines (joinLines below)).head? ≠ some (.item content)) :
    ofText (String.ofList (joinLines (above ++ (blockForm indent key texts ++ below)))) =
      readLines ((ofText (String.ofList (joinLines above))).set key (.list (texts.map .text))) .top
        (significantLines (joinLines below)) := by
  have hitem : ∀ more : List Line, ∃ content,
      ((texts.map fun t => Line.item (inQuotes t.toList)) ++ more).head? = some (.item content) := by
    intro more
    cases texts with
    | nil => exact absurd rfl hne
    | cons t texts => exact ⟨_, rfl⟩
  rw [ofText, ofText, String.toList_ofList, String.toList_ofList, significantLines_joinLines_append,
    significantLines_joinLines_append, significantLines_of_isWrittenAs
      (isNeat_of_mem_quotedItems hkey h) (isWrittenAs_blockForm hindent key texts),
    List.cons_append, readLines_append_property, readLines_open (hitem _),
    readLines_items_inQuotes, readLines_inList hbelow, List.nil_append]

/-- A list of quoted texts on one line sets what is read from it, whatever stands above it. -/
theorem ofText_inlineForm {key : String} (hkey : IsPropertyKey key) {texts : List String}
    (h : ∀ t ∈ texts, IsQuotable t) (above below : List (List Char)) :
    ofText (String.ofList (joinLines (above ++ inlineForm key texts :: below))) =
      readLines ((ofText (String.ofList (joinLines above))).set key
        (.ofScalar key (inlineList texts))) .top (significantLines (joinLines below)) :=
  ofText_field (isNeat_inlineForm hkey h) (List.cons_ne_nil _ _) above below

end Metadata

namespace Document

open Metadata Text

/-- A list of quoted texts in a block is read as these texts.  On one line it is read as these
texts exactly if none of them has a comma; then a document is read the same in either
notation, so that file patterns select the same files. -/
theorem ofText?_inlineForm {indent : List Char} (hindent : IsPadding indent) {key : String}
    (hkey : IsPropertyKey key) {texts : List String} (hne : texts ≠ []) (h : ∀ t ∈ texts, IsQuotable t) :
    Metadata.ofText (String.ofList (joinLines (blockForm indent key texts))) =
        [(key, .list (texts.map .text))] ∧
      (Metadata.ofText (String.ofList (joinLines [inlineForm key texts])) =
          [(key, .list (texts.map .text))] ↔ ∀ t ∈ texts, ',' ∉ t.toList) ∧
      ((∀ t ∈ texts, ',' ∉ t.toList) →
        ∀ (id : String) (above below : List (List Char)) (body : List Char),
          (∀ line ∈ above ++ below, Framed.IsBlockLine line) →
          (∀ content, (significantLines (joinLines below)).head? ≠ some (.item content)) →
          ofText? id (String.ofList
              (Framed.compose (above ++ inlineForm key texts :: below) body)) =
            ofText? id (String.ofList
              (Framed.compose (above ++ (blockForm indent key texts ++ below)) body))) := by
  refine ⟨?_, ?_, ?_⟩
  · have hnothing : ∀ content, (significantLines (joinLines [])).head? ≠ some (.item content) := nofun
    have hread := ofText_blockForm hindent hkey hne h [] hnothing
    rw [List.nil_append, List.append_nil] at hread
    rw [hread]
    rfl
  · have hread : Metadata.ofText (String.ofList (joinLines [inlineForm key texts])) =
        [(key, .ofScalar key (inlineList texts))] := ofText_inlineForm hkey h [] []
    rw [hread, ← ofScalar_inline_eq_iff h key, List.cons.injEq, Prod.mk.injEq]
    exact ⟨fun heq => heq.1.2, fun heq => ⟨⟨rfl, heq⟩, rfl⟩⟩
  · intro hcomma id above below body hlines hbelow
    obtain ⟨habove, hrest⟩ := List.forall_mem_append.1 hlines
    have hinline : ∀ line ∈ above ++ inlineForm key texts :: below, Framed.IsBlockLine line :=
      List.forall_mem_append.2 ⟨habove, List.forall_mem_cons.2
        ⟨isBlockLine_spellField (isNeat_inlineForm hkey h), hrest⟩⟩
    have hblock : ∀ line ∈ above ++ (blockForm indent key texts ++ below), Framed.IsBlockLine line :=
      List.forall_mem_append.2 ⟨habove, List.forall_mem_append.2
        ⟨isBlockLine_of_isWrittenAs (isNeat_of_mem_quotedItems hkey h)
          (isWrittenAs_blockForm hindent key texts), hrest⟩⟩
    rw [ofText?_compose id hinline, ofText?_compose id hblock, ofText_inlineForm hkey h,
      ofText_blockForm hindent hkey hne h above hbelow, (ofScalar_inline_eq_iff h key).2 hcomma]

/-- File patterns that have what the markup uses, apart from commas and double quotes. -/
theorem ofText?_inlineForm_marks :
    let texts := ["**/*.ts", "key: [1]", "# - 'x'", " \\ "]
    let document := fun lines => String.ofList (Framed.compose lines [])
    (∀ t ∈ texts, IsQuotable t ∧ ',' ∉ t.toList) ∧
      Metadata.ofText (String.ofList (joinLines (blockForm [' ', ' '] "filePatterns" texts))) =
        [("filePatterns", .list (texts.map .text))] ∧
      ofText? "id" (document ["title: T".toList, inlineForm "filePatterns" texts,
          "category: c".toList]) =
        ofText? "id" (document ("title: T".toList ::
          (blockForm [' ', ' '] "filePatterns" texts ++ ["category: c".toList]))) := by
  intro texts document
  have hindent : IsPadding [' ', ' '] := by decide
  have htexts : ∀ t ∈ texts, IsQuotable t ∧ ',' ∉ t.toList := by decide
  have hkey : IsPropertyKey "filePatterns" := IsKey.isPropertyKey (by decide)
  have hlines : ∀ line ∈ ["title: T".toList] ++ ["category: c".toList], Framed.IsBlockLine line :=
    List.forall_mem_cons.2 ⟨⟨by decide, by decide⟩, List.forall_mem_singleton.2 ⟨by decide, by decide⟩⟩
  obtain ⟨hblock, -, hread⟩ := ofText?_inlineForm hindent hkey (List.cons_ne_nil _ _)
    fun t ht => (htexts t ht).1
  exact ⟨htexts, hblock, hread (fun t ht => (htexts t ht).2) "id" ["title: T".toList]
    ["category: c".toList] [] hlines nofun⟩

/-- A file pattern with a comma is one pattern in a block, and on one line two patterns with
stray quotes. -/
theorem filePatternsOf_inlineForm_comma :
    let texts := ["src/a,b.ts"]
    let inline := Metadata.ofText (String.ofList (joinLines [inlineForm "filePatterns" texts]))
    let block :=
      Metadata.ofText (String.ofList (joinLines (blockForm [' ', ' '] "filePatterns" texts)))
    (∀ t ∈ texts, IsQuotable t) ∧ filePatternsOf block = texts ∧
      filePatternsOf inline = ["\"src/a", "b.ts\""] ∧ inline ≠ block := by
  intro texts inline block
  have hblock : filePatternsOf block = texts := by decide +kernel
  have hinline : filePatternsOf inline = ["\"src/a", "b.ts\""] := by decide +kernel
  refine ⟨by decide, hblock, hinline, ?_⟩
  intro heq
  rw [heq, hblock] at hinline
  exact absurd hinline (by decide)

end Document

end PatchReview
