import Mathlib.Data.List.Forall2
import PatchReview.Rules.Document.Reader

/-!
# The clauses of a document

The clauses of a document are made from the entries of its rule list, one after the other.
An entry is skipped if it is no object, if it has no pattern, or if a clause that was kept
before has its id.  The entries are numbered as they stand in the list, so what is skipped
neither shifts the ids that are made from these numbers nor takes an id from a later entry.

Main definitions:

- `Document.Describes`: what the fields of an entry say about its clause.
- `Document.Keeps`: which of some numbered entries are kept.

Main results:

- Theorem `Document.clauseOf_cases`: an entry describes a clause exactly if it has a pattern.
- Theorem `Document.exists_keeps_clausesFrom`: the clauses are those of the kept entries.
- Theorem `Document.Keeps.unique`: the rule for keeping entries decides which they are.
- Theorem `Document.rules_of_ofText?`: the clauses of a document that is read from a text.
-/

namespace PatchReview.Document

open Metadata

/-! ## What an entry describes -/

/-- The entries of the rule list of a document; none if there is no list. -/
def ruleEntries (metadata : Metadata) : List Value :=
  ((Fields.get? metadata "rules").bind Value.items?).getD []

/-- Fields with a pattern: a text that is not empty. -/
def HasPattern (fields : Metadata) : Prop :=
  ∃ pattern, textOf? fields "pattern" = some pattern ∧ pattern ≠ ""

/-- The clause that the fields of an entry with a number describe.  What they do not say, or
say wrong, is taken from the document. -/
structure Describes (d : Document) (n : Nat) (fields : Metadata) (c : Clause) : Prop where
  id : c.id = (textOf? fields "id").getD (d.id ++ "-" ++ toString n)
  pattern : textOf? fields "pattern" = some c.pattern
  pattern_ne : c.pattern ≠ ""
  negativePattern : c.negativePattern = (textOf? fields "negativePattern").filter (· ≠ "")
  message : c.message = (textOf? fields "message").getD d.title
  severity : c.severity = ((textOf? fields "severity").bind Severity.ofText?).getD d.severity
  ignoreCase : c.ignoreCase = true ↔ Fields.get? fields "caseInsensitive" = some (.bool true)

/-- The severity of a clause is its own if it has one, and that of its document otherwise. -/
theorem value_clauseSeverity (d : Document) (fields : Metadata) :
    (clauseSeverity d fields).value =
      ((textOf? fields "severity").bind Severity.ofText?).getD d.severity := by
  rw [clauseSeverity]
  cases textOf? fields "severity" with
  | none => rfl
  | some raw =>
      rw [Option.bind_some]
      dsimp only
      cases Severity.ofText? raw <;> rfl

/-- A flag is set by the truth value, and by nothing else. -/
theorem isTrue_iff (fields : Metadata) (name : String) :
    isTrue fields name = true ↔ Fields.get? fields name = some (.bool true) := by
  rw [isTrue]
  split
  · next b hb => rw [hb, Option.some.injEq, Value.bool.injEq]
  · next hb => exact ⟨nofun, fun h => absurd h (hb true)⟩

/-- An entry with a pattern describes a clause, and one without describes none. -/
theorem clauseOf_cases (d : Document) (n : Nat) (fields : Metadata) :
    (¬ HasPattern fields ∧ (clauseOf d n fields).value = none) ∨
      ∃ c, (clauseOf d n fields).value = some c ∧ HasPattern fields ∧ Describes d n fields c := by
  rw [clauseOf]
  cases hpattern : (textOf? fields "pattern").filter (· ≠ "") with
  | none =>
      left
      refine ⟨?_, rfl⟩
      rintro ⟨pattern, htext, hne⟩
      exact Option.filter_eq_none_iff.1 hpattern pattern htext (decide_eq_true hne)
  | some pattern =>
      right
      obtain ⟨htext, hne⟩ := Option.filter_eq_some_iff.1 hpattern
      have hne : pattern ≠ "" := of_decide_eq_true hne
      exact ⟨_, rfl, ⟨pattern, htext, hne⟩, {
        id := rfl
        pattern := htext
        pattern_ne := hne
        negativePattern := rfl
        message := rfl
        severity := value_clauseSeverity d fields
        ignoreCase := isTrue_iff fields "caseInsensitive" }⟩

/-! ## Which entries are kept -/

/-- The entries that are kept of some numbered ones, where `taken` are the ids that cannot be
used again: the objects with a pattern whose id is not taken, neither by these nor by an
earlier entry that is kept. -/
structure Keeps (d : Document) (taken : List String) (entries : List (Value × Nat))
    (kept : List (Metadata × Nat)) : Prop where
  pairwise : kept.Pairwise fun a b => a.2 < b.2
  mem_iff : ∀ fields n, (fields, n) ∈ kept ↔
    (.object fields, n) ∈ entries ∧ HasPattern fields ∧ clauseId d n fields ∉ taken ∧
      ∀ other m, (other, m) ∈ kept → m < n → clauseId d m other ≠ clauseId d n fields

namespace Keeps

variable {d : Document} {taken : List String} {entries : List (Value × Nat)}
  {kept : List (Metadata × Nat)}

/-- An entry is skipped if it is no object with a pattern and an id that is not taken. -/
theorem skip (h : Keeps d taken entries kept) {entry : Value} {n : Nat}
    (hentry : ∀ fields, entry = .object fields → HasPattern fields → clauseId d n fields ∈ taken) :
    Keeps d taken ((entry, n) :: entries) kept where
  pairwise := h.pairwise
  mem_iff fields m := by
    rw [h.mem_iff, List.mem_cons]
    refine and_congr_left ?_
    rintro ⟨hpattern, hid, -⟩
    rw [or_iff_right]
    intro heq
    obtain ⟨rfl, rfl⟩ := Prod.mk.inj heq
    exact hid (hentry fields rfl hpattern)

/-- An object with a pattern and an id that is not taken is kept, and its id is taken for the
entries with higher numbers. -/
theorem take {fields : Metadata} {n : Nat} (h : Keeps d (clauseId d n fields :: taken) entries kept)
    (hentries : ∀ entry ∈ entries, n < entry.2) (hpattern : HasPattern fields)
    (hid : clauseId d n fields ∉ taken) :
    Keeps d taken ((.object fields, n) :: entries) ((fields, n) :: kept) where
  pairwise := by
    refine List.pairwise_cons.2 ⟨?_, h.pairwise⟩
    intro entry hentry
    exact hentries _ ((h.mem_iff entry.1 entry.2).1 hentry).1
  mem_iff other m := by
    rw [List.mem_cons, List.mem_cons, Prod.mk.injEq, Prod.mk.injEq, Value.object.injEq, h.mem_iff]
    constructor
    · rintro (⟨rfl, rfl⟩ | ⟨hmem, hother, hfree, hearlier⟩)
      · refine ⟨.inl ⟨rfl, rfl⟩, hpattern, hid, ?_⟩
        intro later k hlater hlt
        rcases List.mem_cons.1 hlater with heq | hlater
        · obtain ⟨rfl, rfl⟩ := Prod.mk.inj heq
          exact absurd hlt (Nat.lt_irrefl _)
        · have hgt := hentries _ ((h.mem_iff later k).1 hlater).1
          exact absurd hgt (Nat.not_lt_of_gt hlt)
      · rw [List.mem_cons, not_or] at hfree
        refine ⟨.inr hmem, hother, hfree.2, ?_⟩
        intro later k hlater hlt
        rcases List.mem_cons.1 hlater with heq | hlater
        · obtain ⟨rfl, rfl⟩ := Prod.mk.inj heq
          exact Ne.symm hfree.1
        · exact hearlier later k hlater hlt
    · rintro ⟨heq | hmem, hother, hfree, hearlier⟩
      · exact .inl heq
      · right
        refine ⟨hmem, hother, ?_, fun later k hlater => hearlier later k (.tail _ hlater)⟩
        rw [List.mem_cons, not_or]
        exact ⟨Ne.symm (hearlier fields n List.mem_cons_self (hentries _ hmem)), hfree⟩

/-- No two kept entries have the same id. -/
theorem nodup (h : Keeps d taken entries kept) :
    (kept.map fun entry => clauseId d entry.2 entry.1).Nodup := by
  rw [List.nodup_iff_pairwise_ne, List.pairwise_map]
  refine h.pairwise.imp_of_mem ?_
  intro a b ha hb hlt
  exact ((h.mem_iff b.1 b.2).1 hb).2.2.2 a.1 a.2 ha hlt

/-- The rule for keeping entries decides which they are. -/
theorem unique {other : List (Metadata × Nat)} (h : Keeps d taken entries kept)
    (hother : Keeps d taken entries other) : kept = other := by
  -- by induction on the number of an entry, since the rule looks at earlier kept entries only
  have hsame : ∀ n fields, (fields, n) ∈ kept ↔ (fields, n) ∈ other := by
    intro n
    induction n using Nat.strongRecOn with
    | ind n ih =>
        intro fields
        rw [h.mem_iff, hother.mem_iff]
        refine and_congr_right' (and_congr_right' (and_congr_right' (forall₂_congr ?_)))
        intro earlier m
        constructor
        · exact fun hfree hmem hlt => hfree ((ih m hlt earlier).2 hmem) hlt
        · exact fun hfree hmem hlt => hfree ((ih m hlt earlier).1 hmem) hlt
  have hnodup : ∀ {l : List (Metadata × Nat)}, (l.Pairwise fun a b => a.2 < b.2) → l.Nodup := by
    intro l hl
    refine List.Pairwise.imp ?_ hl
    rintro a b hlt rfl
    exact Nat.lt_irrefl _ hlt
  refine List.Perm.eq_of_pairwise ?_ h.pairwise hother.pairwise
    ((List.perm_ext_iff_of_nodup (hnodup h.pairwise) (hnodup hother.pairwise)).2
      fun entry => hsame entry.2 entry.1)
  exact fun a b _ _ hab hba => absurd hba (Nat.lt_asymm hab)

end Keeps

/-! ## The clauses of a list -/

/-- The clauses that are made from some entries are those of the kept entries, in order. -/
theorem exists_keeps_clausesFrom (d : Document) (n : Nat) (taken : List String)
    (entries : List Value) :
    ∃ kept, Keeps d taken (entries.zipIdx n) kept ∧
      List.Forall₂ (fun entry c => Describes d entry.2 entry.1 c) kept
        (clausesFrom d n taken entries).value := by
  induction entries generalizing n taken with
  | nil => exact ⟨[], ⟨.nil, by simp⟩, .nil⟩
  | cons entry rest ih =>
      rw [List.zipIdx_cons]
      have hskip : (clausesFrom d n taken (entry :: rest)).value =
            (clausesFrom d (n + 1) taken rest).value →
          (∀ fields, entry = .object fields → HasPattern fields → clauseId d n fields ∈ taken) →
          ∃ kept, Keeps d taken ((entry, n) :: rest.zipIdx (n + 1)) kept ∧
            List.Forall₂ (fun entry c => Describes d entry.2 entry.1 c) kept
              (clausesFrom d n taken (entry :: rest)).value := by
        intro hvalue hentry
        obtain ⟨kept, hkept, hclauses⟩ := ih (n + 1) taken
        exact ⟨kept, hkept.skip hentry, hvalue ▸ hclauses⟩
      cases entry with
      | object fields =>
          rcases clauseOf_cases d n fields with ⟨hpattern, hnone⟩ | ⟨c, hc, hpattern, hdescribes⟩
          · refine hskip ?_ ?_
            · rw [clausesFrom, Logged.value_bind, hnone]
            · rintro other heq hother
              cases heq
              exact absurd hother hpattern
          · have hid : c.id = clauseId d n fields := hdescribes.id
            by_cases htaken : c.id ∈ taken
            · refine hskip ?_ ?_
              · rw [clausesFrom, Logged.value_bind, hc]
                dsimp only
                rw [if_pos htaken]
                rfl
              · rintro other heq -
                cases heq
                exact hid ▸ htaken
            · obtain ⟨kept, hkept, hclauses⟩ := ih (n + 1) (c.id :: taken)
              rw [hid] at hkept
              refine ⟨(fields, n) :: kept, hkept.take ?_ hpattern (hid ▸ htaken), ?_⟩
              · exact fun entry hentry => List.le_snd_of_mem_zipIdx hentry
              · rw [clausesFrom, Logged.value_bind, hc]
                dsimp only
                rw [if_neg htaken]
                exact .cons hdescribes hclauses
      | null => exact hskip rfl nofun
      | bool b => exact hskip rfl nofun
      | int i => exact hskip rfl nofun
      | text s => exact hskip rfl nofun
      | list items => exact hskip rfl nofun

/-- The clauses of a document are those of the kept entries of its rule list. -/
theorem exists_keeps_clausesOf (d : Document) (metadata : Metadata) :
    ∃ kept, Keeps d [] ((ruleEntries metadata).zipIdx 1) kept ∧
      List.Forall₂ (fun entry c => Describes d entry.2 entry.1 c) kept
        (clausesOf d metadata).value := by
  have hclauses : (clausesOf d metadata).value =
      (clausesFrom d 1 [] (ruleEntries metadata)).value := by
    rw [clausesOf, ruleEntries]
    split
    · next items hitems =>
      rw [hitems]
      rfl
    · next hitems =>
      cases hget : Fields.get? metadata "rules" with
      | none => rfl
      | some v =>
          cases v with
          | list items => exact absurd hget (hitems items)
          | _ => rfl
  rw [hclauses]
  exact exists_keeps_clausesFrom d 1 [] (ruleEntries metadata)

/-- A document is read from the metadata and the body of its text. -/
theorem ofText?_eq_ok {id content : String} {read : Logged Document}
    (h : ofText? id content = .ok read) :
    ∃ framed, Framed.ofText? content = .ok framed ∧ read = ofFramed id framed := by
  rw [ofText?] at h
  cases hframed : Framed.ofText? content with
  | error e =>
      rw [hframed] at h
      cases h
  | ok framed =>
      rw [hframed] at h
      exact ⟨framed, rfl, (Except.ok.inj h).symm⟩

/-- The clauses of a framed text are those of the kept entries of its rule list. -/
theorem exists_keeps_ofFramed (id : String) (framed : Framed) :
    let d := (ofFramed id framed).value
    ∃ kept, Keeps d [] ((ruleEntries framed.metadata).zipIdx 1) kept ∧
      List.Forall₂ (fun entry c => Describes d entry.2 entry.1 c) kept d.rules := by
  intro d
  -- the clauses are read for the document without them, which has the same id and defaults
  obtain ⟨reader, hrules, hid, htitle, hseverity⟩ : ∃ reader : Document,
      d.rules = (clausesOf reader framed.metadata).value ∧ d.id = reader.id ∧
      d.title = reader.title ∧ d.severity = reader.severity := ⟨_, rfl, rfl, rfl, rfl⟩
  obtain ⟨kept, hkept, hclauses⟩ := exists_keeps_clausesOf reader framed.metadata
  have hclauseId : clauseId d = clauseId reader := by
    funext n fields
    rw [clauseId, clauseId, hid]
  refine ⟨kept, ⟨hkept.pairwise, hclauseId ▸ hkept.mem_iff⟩, hrules ▸ hclauses.imp ?_⟩
  intro entry c hc
  exact { hc with
    id := hid ▸ hc.id
    message := htitle ▸ hc.message
    severity := hseverity ▸ hc.severity }

/-- The ids of the clauses are those of the entries that they are made from. -/
theorem map_id_of_forall₂ {d : Document} {kept : List (Metadata × Nat)} {rules : List Clause}
    (h : List.Forall₂ (fun entry c => Describes d entry.2 entry.1 c) kept rules) :
    rules.map (·.id) = kept.map fun entry => clauseId d entry.2 entry.1 := by
  induction h with
  | nil => rfl
  | cons hc _ ih => rw [List.map_cons, List.map_cons, ih, hc.id, clauseId]

/-- The clauses of a document that is read from a text are, in order, those of the kept
entries of the rule list in its metadata, whose numbers count all entries from one; there is
one way only to keep entries.  So the ids of the clauses are different, no pattern is empty,
and a negative pattern that is empty is none. -/
theorem rules_of_ofText? {id content : String} {read : Logged Document}
    (h : ofText? id content = .ok read) :
    let d := read.value
    Framed.ofText? content = .ok ⟨d.metadata, d.body⟩ ∧
      (∃ kept, Keeps d [] ((ruleEntries d.metadata).zipIdx 1) kept ∧
        (∀ other, Keeps d [] ((ruleEntries d.metadata).zipIdx 1) other → other = kept) ∧
        List.Forall₂ (fun entry c => Describes d entry.2 entry.1 c) kept d.rules) ∧
      (d.rules.map (·.id)).Nodup ∧
      ∀ c ∈ d.rules, c.pattern ≠ "" ∧ c.negativePattern ≠ some "" := by
  obtain ⟨framed, hframed, rfl⟩ := ofText?_eq_ok h
  intro d
  obtain ⟨kept, hkept, hclauses⟩ := exists_keeps_ofFramed id framed
  refine ⟨hframed, ⟨kept, hkept, fun other hother => hother.unique hkept, hclauses⟩, ?_, ?_⟩
  · rw [map_id_of_forall₂ hclauses]
    exact hkept.nodup
  · intro c hc
    obtain ⟨entry, -, hdescribes⟩ : ∃ entry ∈ kept, Describes d entry.2 entry.1 c := by
      obtain ⟨i, hi, rfl⟩ := List.getElem_of_mem hc
      exact ⟨_, List.getElem_mem _, (List.forall₂_iff_get.1 hclauses).2 i
        (hclauses.length_eq ▸ hi) hi⟩
    refine ⟨hdescribes.pattern_ne, ?_⟩
    rw [hdescribes.negativePattern]
    intro hempty
    exact of_decide_eq_true (Option.filter_eq_some_iff.1 hempty).2 rfl

/-- A rule list with a text, an entry without a pattern, an entry without an id, and two
entries of the id that the entry without a pattern has. -/
theorem rules_of_ofText?_skipped :
    let content := "---\nrules:\n  - a text\n  - id: x\n  - pattern: a\n  - id: x\n    pattern: b\n" ++
      "    severity: loud\n    negativePattern: ''\n  - id: x\n    pattern: c\n---\n"
    ∃ read, ofText? "doc" content = .ok read ∧
      read.value.rules.map (fun c => (c.id, c.pattern)) = [("doc-3", "a"), ("x", "b")] ∧
      (read.value.rules.map (·.id)).Nodup ∧
      ∃ kept, Keeps read.value [] ((ruleEntries read.value.metadata).zipIdx 1) kept ∧
        (∀ other, Keeps read.value [] ((ruleEntries read.value.metadata).zipIdx 1) other →
          other = kept) ∧
        List.Forall₂ (fun entry c => Describes read.value entry.2 entry.1 c) kept
          read.value.rules := by
  intro content
  have hrules : ((ofText? "doc" content).toOption.map fun read =>
      read.value.rules.map fun c => (c.id, c.pattern)) = some [("doc-3", "a"), ("x", "b")] := by
    decide +kernel
  cases hread : ofText? "doc" content with
  | error e =>
      rw [hread] at hrules
      cases hrules
  | ok read =>
      rw [hread] at hrules
      obtain ⟨-, hkept, hnodup, -⟩ := rules_of_ofText? hread
      exact ⟨read, rfl, Option.some.inj hrules, hnodup, hkept⟩

end PatchReview.Document
