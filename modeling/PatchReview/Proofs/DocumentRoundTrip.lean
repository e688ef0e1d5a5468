import PatchReview.Proofs.DocumentFraming
import PatchReview.Proofs.MarkupRoundTrip
import PatchReview.Rules.Document.Reader

/-!
# Written documents are read back

A rule document is written as a delimiter, its metadata block, a second delimiter, and its
body.  Reading what was written gives the document again: the block is framed by the
delimiters, its entries are read back, and the fields of the document are taken from them.

Main definitions:

- `Framed.compose`: a text from the lines of a block and a body.
- `Document.compose`: the text of a document.

Main results:

- Theorem `Framed.ofText?_compose`: framing gives back the block and the trimmed body.
- Theorem `Document.clauseOf_valuesOf`: a clause is read back from its fields.
- Theorem `Document.clausesFrom_items`: so are clauses with different ids, in order.
- Theorem `Document.readsBack_compose`: a written document is read back.
-/

namespace PatchReview

open Metadata Text

/-! ## Framing -/

namespace Framed

/-- The text of a rule document with some lines as its block. -/
def compose (block : List (List Char)) (body : List Char) : List Char :=
  joinLines (['-', '-', '-'] :: block ++ [['-', '-', '-']]) ++ body

/-- Framing gives back a block without delimiters, and the trimmed body. -/
theorem ofText?_compose {block : List (List Char)} (hblock : ∀ line ∈ block, IsBlockLine line)
    (body : List Char) :
    Framed.ofText? (String.ofList (compose block body)) =
      .ok ⟨Metadata.ofText (String.ofList (joinLines block)), String.ofList (trim body)⟩ := by
  have hdelimiter : IsDelimiterLine ['-', '-', '-'] := ⟨by decide, by decide⟩
  let f : Frame := {
    opening := ['-', '-', '-']
    block := block
    closing := ['-', '-', '-']
    body := some body
    opening_isDelimiter := hdelimiter
    block_isBlock := hblock
    closing_isDelimiter := hdelimiter }
  have htext : compose block body = f.text := by
    simp [f, compose, Frame.text, Frame.tail, joinLines]
  have hmarks : ∀ c ∈ ([] : List Char), c = '\uFEFF' := List.forall_mem_nil _
  have hread := ofText?_text f hmarks
  rw [List.nil_append] at hread
  rw [htext, hread]
  rfl

end Framed

/-- A text that writes a neat line can stand in a block: it is no delimiter. -/
theorem Metadata.Line.IsWrittenAs.isBlockLine {line : Line} {s : List Char} (h : line.IsWrittenAs s)
    (hneat : line.IsNeat) : Framed.IsBlockLine s := by
  refine ⟨h.newline_notMem hneat, ?_⟩
  obtain ⟨indent, rfl, -⟩ := h.exists_indent
  have hself : trimEnd (indent ++ line.text) = indent ++ line.text := by
    refine trimEnd_eq_self ?_
    rw [List.getLast?_append_of_ne_nil _ (text_ne_nil hneat)]
    exact (isTrimmed_text hneat).last
  rw [Framed.isDelimiter, hself, beq_eq_false_iff_ne]
  intro heq
  -- a line has a space or a colon
  cases line with
  | item content =>
      have hspace : ' ' ∈ indent ++ text (.item content) :=
        List.mem_append_right _ (.tail _ List.mem_cons_self)
      rw [heq] at hspace
      exact absurd hspace (by decide)
  | property indented key value =>
      have hcolon : ':' ∈ indent ++ text (.property indented key value) :=
        List.mem_append_right _ (List.mem_append_right _ List.mem_cons_self)
      rw [heq] at hcolon
      exact absurd hcolon (by decide)
  | other => exact hneat.elim

/-! ## Writing documents -/

/-- A clause that can be written: its texts are on one line, and no pattern is empty. -/
structure Clause.IsWritable (c : Clause) : Prop where
  id : IsOneLine c.id
  pattern : IsOneLine c.pattern
  pattern_ne : c.pattern ≠ ""
  negativePattern : ∀ p ∈ c.negativePattern, IsOneLine p ∧ p ≠ ""
  message : IsOneLine c.message

namespace Document

/-- A document that can be written: its texts are on one line, it has file patterns, no two
of its clauses share an id, and its body has no blanks at its ends. -/
structure IsWritable (d : Document) : Prop where
  title : IsOneLine d.title
  category : IsOneLine d.category
  filePatterns : ∀ p ∈ d.filePatterns, IsOneLine p
  filePatterns_ne : d.filePatterns ≠ []
  rules : ∀ c ∈ d.rules, c.IsWritable
  nodup : (d.rules.map (·.id)).Nodup
  body : String.ofList (trim d.body.toList) = d.body

/-- The fields of a clause after its id. -/
def clauseFields (c : Clause) : List (String × Scalar) :=
  [("pattern", .text c.pattern)]
    ++ (c.negativePattern.map fun p => ("negativePattern", Scalar.text p)).toList
    ++ [("message", .text c.message), ("severity", .text c.severity.label)]
    ++ if c.ignoreCase then [("caseInsensitive", .bool true)] else []

/-- A clause as an item of a list. -/
def clauseItem (c : Clause) : Item :=
  .object "id" (.text c.id) (clauseFields c)

/-- The metadata entries of a document. -/
def entries (d : Document) : List (String × Content) := [
  ("title", .scalar (.text d.title)),
  ("severity", .scalar (.text d.severity.label)),
  ("category", .scalar (.text d.category)),
  ("filePatterns", .list (d.filePatterns.map .text)),
  ("rules", .list (d.rules.map clauseItem))]

/-- The text of a document. -/
def compose (d : Document) : String :=
  String.ofList (Framed.compose ((linesOf d.entries).map Line.spell) d.body.toList)

/-! ## What is written can be read -/

/-- The labels of severities are on one line. -/
theorem isOneLine_label (s : Severity) : IsOneLine s.label := by
  unfold IsOneLine
  cases s <;> decide

/-- The fields of a clause can be written. -/
theorem isWritable_clauseItem {c : Clause} (h : c.IsWritable) : (clauseItem c).IsWritable := by
  refine List.forall_mem_cons.2 ⟨isWritableField_mk (by decide) h.id, ?_⟩
  simp only [clauseFields, List.forall_mem_append, List.forall_mem_cons]
  refine ⟨⟨⟨⟨?_, nofun⟩, ?_⟩, ?_, ?_, nofun⟩, ?_⟩
  · exact isWritableField_mk (by decide) h.pattern
  · intro field hfield
    rw [Option.mem_toList, Option.map_eq_some_iff] at hfield
    obtain ⟨p, hp, rfl⟩ := hfield
    exact isWritableField_mk (by decide) (h.negativePattern p hp).1
  · exact isWritableField_mk (by decide) h.message
  · exact isWritableField_mk (by decide) (isOneLine_label c.severity)
  · split
    · exact List.forall_mem_singleton.2 (isWritableField_mk (by decide) trivial)
    · exact nofun

/-- The entries of a document can be written. -/
theorem isWritableEntry_of_mem_entries {d : Document} (h : d.IsWritable) :
    ∀ entry ∈ d.entries, IsWritableEntry entry := by
  simp only [entries, List.forall_mem_cons]
  refine ⟨?_, ?_, ?_, ?_, ?_, nofun⟩
  · exact isWritableEntry_mk (by decide) h.title
  · exact isWritableEntry_mk (by decide) (isOneLine_label d.severity)
  · exact isWritableEntry_mk (by decide) h.category
  · exact isWritableEntry_mk (by decide) (List.forall_mem_map.2 h.filePatterns)
  · refine isWritableEntry_mk (by decide) (List.forall_mem_map.2 ?_)
    exact fun c hc => isWritable_clauseItem (h.rules c hc)

/-! ## Reading clauses -/

/-- The fields of a clause with their values. -/
def valuesOf (c : Clause) : List (String × Value) :=
  (("id", Scalar.text c.id) :: clauseFields c).map fun (name, s) => (name, s.value)

/-- No two fields of a clause have the same name. -/
theorem nodup_names_valuesOf (c : Clause) : ((valuesOf c).map (·.1)).Nodup := by
  obtain ⟨id, pattern, negativePattern, message, severity, ignoreCase⟩ := c
  cases negativePattern <;> cases ignoreCase <;> simp [valuesOf, clauseFields]

/-- What the fields of a clause read as. -/
theorem get?_valuesOf (c : Clause) :
    textOf? (Fields.ofList (valuesOf c)) "id" = some c.id ∧
      textOf? (Fields.ofList (valuesOf c)) "pattern" = some c.pattern ∧
      textOf? (Fields.ofList (valuesOf c)) "negativePattern" = c.negativePattern ∧
      textOf? (Fields.ofList (valuesOf c)) "message" = some c.message ∧
      textOf? (Fields.ofList (valuesOf c)) "severity" = some c.severity.label ∧
      isTrue (Fields.ofList (valuesOf c)) "caseInsensitive" = c.ignoreCase := by
  simp only [textOf?, isTrue, Fields.get?_ofList (nodup_names_valuesOf c)]
  obtain ⟨id, pattern, negativePattern, message, severity, ignoreCase⟩ := c
  -- which fields there are depends on the negative pattern and the flag
  cases negativePattern <;> cases ignoreCase <;> exact ⟨rfl, rfl, rfl, rfl, rfl, rfl⟩

/-- A clause is read back from its fields. -/
theorem clauseOf_valuesOf (d : Document) (position : Nat) {c : Clause} (h : c.IsWritable) :
    clauseOf d position (Fields.ofList (valuesOf c)) = pure (some c) := by
  obtain ⟨hid, hpattern, hnegative, hmessage, hseverity, hcase⟩ := get?_valuesOf c
  have hown : clauseSeverity d (Fields.ofList (valuesOf c)) = pure c.severity := by
    rw [clauseSeverity, hseverity]
    dsimp only
    rw [Severity.ofText?_label]
  have hpatternKept : (some c.pattern).filter (· ≠ "") = some c.pattern :=
    Option.filter_eq_some_iff.2 ⟨rfl, decide_eq_true h.pattern_ne⟩
  have hnegativeKept : c.negativePattern.filter (· ≠ "") = c.negativePattern := by
    cases hp : c.negativePattern with
    | none => rfl
    | some p => exact Option.filter_eq_some_iff.2 ⟨rfl, decide_eq_true (h.negativePattern p hp).2⟩
  rw [clauseOf, hpattern, hpatternKept]
  dsimp only
  rw [hown, clauseId, hid, hnegative, hnegativeKept, hmessage, hcase]
  rfl

/-- Clauses with different ids are read back from their items. -/
theorem clausesFrom_items (d : Document) {rules : List Clause} (hrules : ∀ c ∈ rules, c.IsWritable)
    (hnodup : (rules.map (·.id)).Nodup) (position : Nat) {taken : List String}
    (htaken : ∀ c ∈ rules, c.id ∉ taken) :
    clausesFrom d position taken (rules.map fun c => (clauseItem c).value) = pure rules := by
  induction rules generalizing position taken with
  | nil => rfl
  | cons c rules ih =>
      obtain ⟨hc, hrest⟩ := List.forall_mem_cons.1 hrules
      rw [List.map_cons, List.nodup_cons] at hnodup
      obtain ⟨hcnew, hnew⟩ := List.forall_mem_cons.1 htaken
      -- the id of this clause is taken for all that follow
      have hothers : ∀ c' ∈ rules, c'.id ∉ c.id :: taken := by
        intro c' hc' hmem
        rcases List.mem_cons.1 hmem with heq | hmem
        · exact hnodup.1 (heq ▸ List.mem_map_of_mem hc')
        · exact hnew c' hc' hmem
      have hvalue : (clauseItem c).value = .object (Fields.ofList (valuesOf c)) := rfl
      rw [List.map_cons, hvalue, clausesFrom, clauseOf_valuesOf d position hc, Logged.pure_bind]
      dsimp only
      rw [if_neg hcnew, ih hrest hnodup.2 (position + 1) hothers]
      rfl

/-! ## Reading documents -/

/-- A document is read from the lines of its block and its body. -/
theorem ofText?_compose (id : String) {block : List (List Char)}
    (hblock : ∀ line ∈ block, Framed.IsBlockLine line) (body : List Char) :
    ofText? id (String.ofList (Framed.compose block body)) =
      .ok (ofFramed id ⟨Metadata.ofText (String.ofList (joinLines block)),
        String.ofList (trim body)⟩) := by
  rw [ofText?, Framed.ofText?_compose hblock]
  rfl

/-- The metadata of a written document. -/
def metadataOf (d : Document) : Metadata :=
  Fields.ofList (d.entries.map fun entry => (entry.1, entry.2.value))

/-- Framing a written document gives back its metadata and its body. -/
theorem framed_compose {d : Document} (h : d.IsWritable) :
    Framed.ofText? d.compose = .ok ⟨d.metadataOf, d.body⟩ := by
  have hentries := isWritableEntry_of_mem_entries h
  have hneat := isNeat_of_mem_linesOf hentries
  have hblock : ∀ line ∈ (linesOf d.entries).map Line.spell, Framed.IsBlockLine line :=
    List.forall_mem_map.2 fun line hline =>
      (Line.isWrittenAs_spell (hneat line hline)).isBlockLine (hneat line hline)
  rw [compose, Framed.ofText?_compose hblock, ← write, ofText_write hentries, h.body]
  rfl

/-- What the metadata of a document read as. -/
theorem get?_metadataOf (d : Document) :
    textOf? d.metadataOf "title" = some d.title ∧
      textOf? d.metadataOf "severity" = some d.severity.label ∧
      textOf? d.metadataOf "category" = some d.category ∧
      Fields.get? d.metadataOf "filePatterns" =
        some (.list ((d.filePatterns.map Item.text).map Item.value)) ∧
      Fields.get? d.metadataOf "rules" = some (.list ((d.rules.map clauseItem).map Item.value)) := by
  have hnodup : ((d.entries.map fun entry => (entry.1, entry.2.value)).map (·.1)).Nodup := by
    simp [entries]
  simp only [textOf?, metadataOf, Fields.get?_ofList hnodup]
  exact ⟨rfl, rfl, rfl, rfl, rfl⟩

/-- The file patterns of a document are read back. -/
theorem filePatternsOf_metadataOf (d : Document) : filePatternsOf d.metadataOf = d.filePatterns := by
  obtain ⟨-, -, -, hpatterns, -⟩ := get?_metadataOf d
  rw [filePatternsOf, hpatterns]
  dsimp only
  rw [List.filterMap_map, List.filterMap_map]
  exact List.filterMap_some

/-- The clauses of a document are read back, whatever the document that they are for. -/
theorem clausesOf_metadataOf {d : Document} (h : d.IsWritable) (reader : Document) :
    clausesOf reader d.metadataOf = pure d.rules := by
  obtain ⟨-, -, -, -, hrules⟩ := get?_metadataOf d
  rw [clausesOf, hrules]
  dsimp only
  rw [List.map_map]
  exact clausesFrom_items reader h.rules h.nodup 1 fun _ _ => List.not_mem_nil

/-- The document that is read for an id from what was written for another. -/
def readAs (d : Document) (id : String) : Document :=
  { (((new id d.title d.severity).withCategory d.category).withFilePatterns d.filePatterns).withBody
      d.body with
    rules := d.rules
    metadata := d.metadataOf }

/-- The metadata and the body of a document are read as it, without a warning. -/
theorem ofFramed_metadataOf (id : String) {d : Document} (h : d.IsWritable) :
    ofFramed id ⟨d.metadataOf, d.body⟩ = pure (d.readAs id) := by
  obtain ⟨htitle, hlabel, hcategory, -, -⟩ := get?_metadataOf d
  have hseverity : severityOf d.metadataOf = pure (some d.severity) := by
    rw [severityOf, hlabel]
    dsimp only
    rw [Severity.ofText?_label]
  rw [ofFramed]
  dsimp only
  rw [hseverity, Logged.pure_bind, clausesOf_metadataOf h, Logged.pure_bind, htitle, hcategory,
    filePatternsOf_metadataOf]
  rfl

/-- File patterns are kept if there are any. -/
theorem filePatterns_readAs (id : String) {d : Document} (h : d.filePatterns ≠ []) :
    (d.readAs id).filePatterns = d.filePatterns :=
  if_neg fun hempty => h (List.isEmpty_iff.1 hempty)

/-- A written document is read back without a warning. -/
theorem readsBack_compose (id : String) {d : Document} (h : d.IsWritable) :
    ∃ d', ofText? id d.compose = .ok (pure d') ∧ d'.title = d.title ∧ d'.severity = d.severity ∧
      d'.category = d.category ∧ d'.filePatterns = d.filePatterns ∧ d'.rules = d.rules ∧
      d'.body = d.body := by
  refine ⟨d.readAs id, ?_, rfl, rfl, rfl, filePatterns_readAs id h.filePatterns_ne, rfl, rfl⟩
  rw [ofText?, framed_compose h, Except.map, ofFramed_metadataOf id h]

/-- A document whose texts hold what the markup uses: quotes, colons, backslashes, dashes,
brackets, sharps, and a delimiter in the body. -/
theorem readsBack_compose_marks :
    let d : Document := {
      Document.new "any" " - \"title\": [#1] " .warning with
      category := "---"
      filePatterns := ["", "**/*.ts", "# [a, b]"]
      body := "Body: first\n---\nsecond"
      rules := [
        { id := "", pattern := "\\\\d+\\", message := "say \"no\": 'x'", severity := .error },
        { id := "- key: [1]", pattern := "\"", negativePattern := some "\\s#", message := "",
          severity := .info, ignoreCase := true }] }
    d.IsWritable ∧ ∃ d', ofText? "other" d.compose = .ok (pure d') ∧ d'.title = d.title ∧
      d'.severity = d.severity ∧ d'.category = d.category ∧ d'.filePatterns = d.filePatterns ∧
      d'.rules = d.rules ∧ d'.body = d.body := by
  intro d
  have hrules : ∀ c ∈ d.rules, c.IsWritable := by
    refine List.forall_mem_cons.2 ⟨?_, List.forall_mem_singleton.2 ?_⟩
    · exact ⟨by decide, by decide, by decide, nofun, by decide⟩
    · refine ⟨by decide, by decide, by decide, ?_, by decide⟩
      rintro p hp
      cases hp
      exact ⟨by decide, by decide⟩
  have hwritable : d.IsWritable := {
    title := by decide
    category := by decide
    filePatterns := by decide
    filePatterns_ne := by decide
    rules := hrules
    nodup := by decide
    body := by decide }
  exact ⟨hwritable, readsBack_compose "other" hwritable⟩

end Document

end PatchReview
