import PatchReview.Metadata.Reader
import PatchReview.Proofs.OrderedFields
import PatchReview.Proofs.SignificantLines

/-!
# A block below another

What a reader stores does not depend on what it stored before, only on the lines and on
where it stands.  A line `key: value` that is not indented takes it back between the
properties, wherever it stood: in a list, in an object, or at a key that waits for its
items.  So a block that starts with such a line is read below any other block, well formed
or not, as if it stood alone, and its entries are laid over those above.

Main results:

- Theorem `exists_stored`: what lines store, whatever was stored before.
- Theorem `readLines_eq_override`: lines read below stored entries are laid over them.
- Theorem `readLines_append_property`: a property that is not indented closes what is above.
- Definition `StartsSection`: a block that starts with such a property.
- Theorem `isSectionLine_iff`: the lines that start a section are those read as such.
- Theorem `ofText_below`: such a block is read below any other as if it stood alone.
-/

namespace PatchReview.Metadata

open Text

/-! ## What lines store -/

/-- Leaving a list stores at most the list. -/
theorem exists_stored_flush (state : State) :
    ∃ entries, ∀ done : Metadata, state.flush done = Fields.setAll done entries := by
  cases state with
  | top => exact ⟨[], fun _ => rfl⟩
  | inList key items => exact ⟨[(key, .list items)], fun _ => rfl⟩
  | inObject key items current => exact ⟨[(key, .list (items ++ [.object current]))], fun _ => rfl⟩

/-- A line between properties stores at most its own value. -/
theorem exists_stored_topLine (line : Line) (next : Option Line) :
    ∃ entries state, ∀ done, topLine done line next = (Fields.setAll done entries, state) := by
  cases line with
  | property indented key value =>
      cases value with
      | nil =>
          rcases next with _ | (_ | _ | _)
          · exact ⟨[(key, .null)], .top, fun _ => rfl⟩
          · exact ⟨[], .inList key [], fun _ => rfl⟩
          · exact ⟨[(key, .null)], .top, fun _ => rfl⟩
          · exact ⟨[(key, .null)], .top, fun _ => rfl⟩
      | cons c value => exact ⟨[(key, .ofScalar key (c :: value))], .top, fun _ => rfl⟩
  | item content => exact ⟨[], .top, fun _ => rfl⟩
  | other => exact ⟨[], .top, fun _ => rfl⟩

/-- What a line stores, and where it takes the reader, do not depend on what was stored
before. -/
theorem exists_stored_step (state : State) (line : Line) (next : Option Line) :
    ∃ entries after, ∀ done, step done state line next = (Fields.setAll done entries, after) := by
  have hleave : (∀ done, step done state line next = topLine (state.flush done) line next) →
      ∃ entries after, ∀ done, step done state line next = (Fields.setAll done entries, after) := by
    intro htop
    obtain ⟨flushed, hflushed⟩ := exists_stored_flush state
    obtain ⟨entries, after, hline⟩ := exists_stored_topLine line next
    refine ⟨flushed ++ entries, after, fun done => ?_⟩
    rw [htop, hflushed, hline, Fields.setAll_append]
  cases state with
  | top => exact hleave fun _ => rfl
  | inList key items =>
      cases line with
      | item content => exact ⟨[], .push key items content, fun _ => rfl⟩
      | property indented name value => exact hleave fun _ => rfl
      | other => exact hleave fun _ => rfl
  | inObject key items current =>
      cases line with
      | item content => exact ⟨[], .push key (items ++ [.object current]) content, fun _ => rfl⟩
      | property indented name value =>
          cases indented with
          | true =>
              exact ⟨[], .inObject key items (Fields.set current name (.ofScalar name value)),
                fun _ => rfl⟩
          | false => exact hleave fun _ => rfl
      | other => exact hleave fun _ => rfl

/-- What lines store does not depend on what was stored before. -/
theorem exists_stored (state : State) (ls : List Line) :
    ∃ entries, ∀ done, readLines done state ls = Fields.setAll done entries := by
  induction ls generalizing state with
  | nil => exact exists_stored_flush state
  | cons line rest ih =>
      obtain ⟨stored, after, hstep⟩ := exists_stored_step state line rest.head?
      obtain ⟨entries, hrest⟩ := ih after
      refine ⟨stored ++ entries, fun done => ?_⟩
      rw [readLines, hstep]
      dsimp only
      rw [hrest, Fields.setAll_append]

/-- Metadata are in order, each key once. -/
theorem isOrdered_readLines (state : State) (ls : List Line) :
    Fields.IsOrdered (readLines [] state ls) := by
  obtain ⟨entries, hentries⟩ := exists_stored state ls
  rw [hentries]
  exact Fields.isOrdered_ofList entries

/-- Lines that are read below stored entries are laid over these. -/
theorem readLines_eq_override {done : Metadata} (hdone : Fields.IsOrdered done) (state : State)
    (ls : List Line) : readLines done state ls = Fields.override done (readLines [] state ls) := by
  obtain ⟨entries, hentries⟩ := exists_stored state ls
  have hofList : readLines [] state ls = Fields.ofList entries := hentries []
  rw [hentries done, hofList, Fields.override_ofList hdone]

/-! ## A property that is not indented -/

/-- The line below counts only if it is an item: then a key without a value opens a list. -/
theorem step_of_next_not_item {next : Option Line} (h : ∀ content, next ≠ some (.item content))
    (done : Metadata) (state : State) (line : Line) :
    step done state line next = step done state line none := by
  have htop : ∀ done, topLine done line next = topLine done line none := by
    intro done
    cases line with
    | property indented key value =>
        cases value with
        | nil =>
            rcases next with _ | (content | _ | _)
            · rfl
            · exact absurd rfl (h content)
            · rfl
            · rfl
        | cons c value => rfl
    | item content => rfl
    | other => rfl
  unfold step
  split
  · rfl
  · rfl
  · rfl
  · exact htop _

/-- A property that is not indented closes the list that the reader stands in. -/
theorem step_property (done : Metadata) (state : State) (key : String) (value : List Char)
    (next : Option Line) :
    step done state (.property false key value) next =
      step (state.flush done) .top (.property false key value) next := by
  cases state <;> rfl

/-- Lines from a property that is not indented on are read as if the block above had ended. -/
theorem readLines_append_property (done : Metadata) (state : State) (before : List Line)
    (key : String) (value : List Char) (rest : List Line) :
    readLines done state (before ++ .property false key value :: rest) =
      readLines (readLines done state before) .top (.property false key value :: rest) := by
  induction before generalizing done state with
  | nil =>
      have hempty : readLines done state [] = state.flush done := rfl
      rw [List.nil_append, hempty, readLines, readLines, step_property]
  | cons line before ih =>
      -- the last line above sees a property below it, and no line if it is read alone
      have hnext : step done state line (before ++ .property false key value :: rest).head? =
          step done state line before.head? := by
        cases before with
        | nil =>
            refine step_of_next_not_item ?_ done state line
            intro content hitem
            cases hitem
        | cons below before => rfl
      rw [List.cons_append, readLines, readLines, hnext]
      exact ih _ _

/-- A property with a value that is not indented sets it, whatever stands above. -/
theorem readLines_append_field (done : Metadata) (state : State) (before : List Line)
    (key : String) {value : List Char} (hvalue : value ≠ []) (rest : List Line) :
    readLines done state (before ++ .property false key value :: rest) =
      readLines ((readLines done state before).set key (.ofScalar key value)) .top rest := by
  rw [readLines_append_property]
  cases value with
  | nil => exact absurd rfl hvalue
  | cons c value => rfl

/-! ## Blocks -/

/-- A line `key: value` or `key:` that is not indented: it has a colon behind a key, and
does not start with a dash and a space as items do. -/
structure IsSectionLine (line : List Char) : Prop where
  isIndented_eq : isIndented line = false
  notItem : ∀ content, trim line ≠ '-' :: ' ' :: content
  exists_key : ∃ key value, trim line = key ++ ':' :: value ∧ ':' ∉ key ∧ trim key ≠ []

/-- A block that starts, behind blank lines and comments, with a line `key: value` or
`key:` that is not indented. -/
def StartsSection (block : String) : Prop :=
  ∃ line rest, (lines block.toList).filter isSignificant = line :: rest ∧ IsSectionLine line

/-- Such lines are just the properties that are not indented. -/
theorem isSectionLine_iff {line : List Char} :
    IsSectionLine line ↔ ∃ key value, Line.ofText line = .property false key value := by
  constructor
  · rintro ⟨hindented, hitem, key, value, htrim, hcolon, hkey⟩
    refine ⟨String.ofList (trim key), trim value, ?_⟩
    rw [Line.ofText]
    split
    · next hdash =>
      have hmem : ':' ∈ trim line := htrim ▸ List.mem_append_right key List.mem_cons_self
      rw [hdash] at hmem
      exact absurd hmem (by decide)
    · next content heq => exact absurd heq (hitem content)
    · rw [propertyOf, htrim, splitOnce_append value hcolon]
      dsimp only
      rw [if_neg hkey, hindented]
  · rintro ⟨key, value, hline⟩
    rw [Line.ofText] at hline
    split at hline
    · cases hline
    · cases hline
    · next hitem =>
      rw [propertyOf] at hline
      split at hline
      · cases hline
      · next before after hsplit =>
        split at hline
        · cases hline
        · next hkey =>
          obtain ⟨hindented, -, -⟩ := Line.property.inj hline
          exact ⟨hindented, hitem, before, after, eq_append_of_splitOnce hsplit,
            notMem_of_splitOnce hsplit, hkey⟩

/-- The lines of a block that starts a section. -/
theorem StartsSection.exists_significantLines {block : String} (h : StartsSection block) :
    ∃ key value rest, significantLines block.toList = .property false key value :: rest := by
  obtain ⟨line, rest, hlines, hline⟩ := h
  obtain ⟨key, value, htext⟩ := isSectionLine_iff.1 hline
  exact ⟨key, value, rest.map Line.ofText, by rw [significantLines, hlines, List.map_cons, htext]⟩

/-- A block that starts a section is laid over the block above it. -/
theorem ofText_of_significantLines {block before after : String} (hafter : StartsSection after)
    (hlines : significantLines block.toList =
      significantLines before.toList ++ significantLines after.toList) :
    ofText block = Fields.override (ofText before) (ofText after) := by
  obtain ⟨key, value, rest, hstart⟩ := hafter.exists_significantLines
  rw [ofText, hlines, hstart, readLines_append_property,
    readLines_eq_override (isOrdered_readLines .top _), ofText, ofText, hstart]

/-- A block that starts a section is read below any other as if it stood alone: its entries
are laid over those above, key by key.  The blocks may have any line ends, and the last line
above may have none, with a line feed put between the blocks. -/
theorem ofText_below {after : String} (hafter : StartsSection after) (before : String) :
    ofText (before ++ "\n" ++ after) = Fields.override (ofText before) (ofText after) ∧
      (IsEnded before.toList →
        ofText (before ++ after) = Fields.override (ofText before) (ofText after)) ∧
      ∀ key, Fields.get? (Fields.override (ofText before) (ofText after)) key =
        (Fields.get? (ofText after) key).or (Fields.get? (ofText before) key) := by
  refine ⟨?_, fun hends => ?_, Fields.get?_override _ (isOrdered_readLines .top _)⟩
  · have hends : IsEnded (before.toList ++ ['\n']) := by simp [IsEnded]
    have hfeed : "\n".toList = ['\n'] := rfl
    refine ofText_of_significantLines hafter ?_
    rw [String.toList_append, String.toList_append, hfeed, significantLines_append hends,
      significantLines_append_newline]
  · refine ofText_of_significantLines hafter ?_
    rw [String.toList_append, significantLines_append hends]

/-- A section below a block that ends in an unfinished object, behind a stray item and a line
that says nothing. -/
theorem ofText_below_unfinished_object :
    let before := "- stray\ntitle: Old\nno colon\nrules:\n  - id: a\n    pattern: b"
    let after := "\n# note\ntitle: New\n  severity: high\ntags:\n"
    StartsSection after ∧
      ofText (before ++ "\n" ++ after) = Fields.override (ofText before) (ofText after) ∧
      (Fields.get? (ofText (before ++ "\n" ++ after)) "title").bind Value.asText? = some "New" ∧
      ((Fields.get? (ofText (before ++ "\n" ++ after)) "rules").bind Value.items?).map List.length =
        some 1 := by
  intro before after
  have hline : IsSectionLine "title: New".toList := by
    refine ⟨by decide, nofun, "title".toList, " New".toList, ?_⟩
    decide
  have hafter : StartsSection after :=
    ⟨"title: New".toList, ["  severity: high".toList, "tags:".toList], by decide, hline⟩
  exact ⟨hafter, (ofText_below hafter before).1, by decide +kernel, by decide +kernel⟩

end PatchReview.Metadata
