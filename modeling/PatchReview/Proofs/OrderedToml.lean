import PatchReview.Proofs.OrderedTables

/-!
# Tables in order from TOML

A TOML text builds up a tree of tables by setting entries, so that all tables in it are in
order at every moment.

Main result:

- Theorem `Toml.isOrdered_ofText?`: TOML text is read as a table in order.
-/

namespace PatchReview.Toml

open Config (Value Table)
open Text (Reader)

/-! ## Tables under construction -/

/-- A node whose tables hold their keys in order, each once; lists are not looked into. -/
inductive Node.IsOrdered : Node → Prop where
  | value {v : Value} (h : v.IsOrdered) : IsOrdered (.value v)
  | table {origin : Origin} {entries : List (String × Node)} (names : Fields.IsOrdered entries)
      (nodes : ∀ entry ∈ entries, IsOrdered entry.2) : IsOrdered (.table origin entries)
  | tables (earlier : List (List (String × Node))) (last : List (String × Node)) :
      IsOrdered (.tables earlier last)

namespace Entries

/-- Entries in order, and so are the tables in them. -/
structure IsOrdered (entries : Entries) : Prop where
  names : Fields.IsOrdered entries
  nodes : ∀ entry ∈ entries, entry.2.IsOrdered

theorem isOrdered_nil : Entries.IsOrdered [] :=
  ⟨Fields.isOrdered_nil, nofun⟩

theorem IsOrdered.table {entries : Entries} (h : entries.IsOrdered) (origin : Origin) :
    (Node.table origin entries).IsOrdered :=
  .table h.names h.nodes

theorem IsOrdered.of_table {origin : Origin} {entries : Entries}
    (h : (Node.table origin entries).IsOrdered) : entries.IsOrdered := by
  cases h with
  | table names nodes => exact ⟨names, nodes⟩

theorem IsOrdered.set {entries : Entries} (h : entries.IsOrdered) (key : String) {n : Node}
    (hn : n.IsOrdered) : Entries.IsOrdered (Fields.set entries key n) := by
  refine ⟨Fields.isOrdered_set h.names key n, fun entry hentry => ?_⟩
  rcases Fields.mem_of_mem_set hentry with rfl | hentry
  · exact hn
  · exact h.nodes entry hentry

theorem IsOrdered.get? {entries : Entries} (h : entries.IsOrdered) {key : String} {n : Node}
    (hget : Fields.get? entries key = some n) : n.IsOrdered :=
  h.nodes _ (Fields.mem_of_get? hget)

/-- A change that keeps the order at the end of a path keeps it on the way. -/
theorem IsOrdered.update {dotted : Bool} {change : Origin → Entries → Option Entries}
    (hchange : ∀ origin entries changed, entries.IsOrdered →
      change origin entries = some changed → changed.IsOrdered)
    {path : List String} {origin : Origin} {entries changed : Entries} (h : entries.IsOrdered)
    (hupdate : Entries.update dotted change path origin entries = some changed) :
    changed.IsOrdered := by
  induction path generalizing origin entries changed with
  | nil => exact hchange origin entries changed h hupdate
  | cons key rest ih =>
      unfold Entries.update at hupdate
      split at hupdate
      · obtain ⟨below, hbelow, rfl⟩ := Option.map_eq_some_iff.1 hupdate
        exact h.set key ((ih isOrdered_nil hbelow).table _)
      · cases hupdate
      · obtain ⟨below, -, rfl⟩ := Option.map_eq_some_iff.1 hupdate
        exact h.set key (.tables _ _)
      · next hget =>
        obtain ⟨-, hupdate⟩ := Option.ite_none_left_eq_some.1 hupdate
        obtain ⟨below, hbelow, rfl⟩ := Option.map_eq_some_iff.1 hupdate
        exact h.set key ((ih (IsOrdered.of_table (h.get? hget)) hbelow).table _)

theorem IsOrdered.put {path : List String} {key : String} {v : Value} {entries changed : Entries}
    (h : entries.IsOrdered) (hv : v.IsOrdered) (hput : entries.put path key v = some changed) :
    changed.IsOrdered := by
  refine h.update (fun origin table changed htable hchange => ?_) hput
  obtain ⟨-, hchange⟩ := Option.ite_none_left_eq_some.1 hchange
  split at hchange
  · cases hchange
  · cases hchange
    exact htable.set key (.value hv)

theorem IsOrdered.putUnder {header path : List String} {key : String} {v : Value}
    {entries changed : Entries} (h : entries.IsOrdered) (hv : v.IsOrdered)
    (hput : entries.putUnder header path key v = some changed) : changed.IsOrdered :=
  h.update (fun _ _ _ htable hchange => htable.put hv hchange) hput

theorem IsOrdered.openTable {path : List String} {key : String} {entries changed : Entries}
    (h : entries.IsOrdered) (hopen : entries.openTable path key = some changed) :
    changed.IsOrdered := by
  refine h.update (fun origin table changed htable hchange => ?_) hopen
  split at hchange
  · cases hchange
    exact htable.set key (isOrdered_nil.table _)
  · next hget =>
    cases hchange
    exact htable.set key ((IsOrdered.of_table (htable.get? hget)).table _)
  · cases hchange

theorem IsOrdered.openNext {path : List String} {key : String} {entries changed : Entries}
    (h : entries.IsOrdered) (hopen : entries.openNext path key = some changed) :
    changed.IsOrdered := by
  refine h.update (fun origin table changed htable hchange => ?_) hopen
  split at hchange
  · cases hchange
    exact htable.set key (.tables _ _)
  · cases hchange
    exact htable.set key (.tables _ _)
  · cases hchange

/-- Entries keep their names as fields of a table. -/
theorem toFields_eq (entries : Entries) :
    Entries.toFields entries = entries.map fun (key, node) => (key, node.toValue) := by
  induction entries with
  | nil => rfl
  | cons entry rest ih => rw [Entries.toFields, ih, List.map_cons]

end Entries

/-- A node in order is a value in order. -/
theorem Node.isOrdered_toValue {n : Node} (h : n.IsOrdered) : n.toValue.IsOrdered := by
  induction h with
  | value h => exact h
  | table names nodes ih =>
      rw [Node.toValue, Entries.toFields_eq]
      refine .table (List.pairwise_map.2 names) ?_
      exact List.forall_mem_map.2 ih
  | tables earlier last => exact .plain nofun

/-- Entries in order are a table in order. -/
theorem Entries.IsOrdered.toFields {entries : Entries} (h : entries.IsOrdered) :
    Table.IsOrdered (Entries.toFields entries) :=
  Node.isOrdered_toValue (h.table .defined)

/-! ## Values -/

/-- A number is no table. -/
theorem isPlain_of_wholeNumber {i : Int} {rest rest' : List Char} {v : Value}
    (h : wholeNumber i rest = some (v, rest')) : v.IsPlain := by
  obtain ⟨-, h⟩ := Option.ite_none_right_eq_some.1 h
  cases h
  exact nofun

theorem isPlain_of_readBased {base : Nat} {cs rest : List Char} {v : Value}
    (h : readBased base cs = some (v, rest)) : v.IsPlain := by
  simp only [readBased, Option.bind_eq_bind, Option.bind_eq_some_iff, Prod.exists] at h
  obtain ⟨digits, rest', -, n, -, h⟩ := h
  exact isPlain_of_wholeNumber h

theorem isPlain_of_readInteger {cs rest : List Char} {v : Value}
    (h : readInteger cs = some (v, rest)) : v.IsPlain := by
  unfold readInteger at h
  split at h
  · exact isPlain_of_readBased h
  · exact isPlain_of_readBased h
  · exact isPlain_of_readBased h
  · simp only [Option.bind_eq_bind, Option.bind_eq_some_iff, Prod.exists] at h
    obtain ⟨digits, rest', -, h⟩ := h
    exact isPlain_of_wholeNumber h

theorem isPlain_of_readReal {cs rest : List Char} {v : Value} (h : readReal cs = some (v, rest)) :
    v.IsPlain := by
  unfold readReal at h
  dsimp only at h
  split at h
  · cases h
    exact nofun
  · cases h
    exact nofun
  · obtain ⟨⟨whole, rest'⟩, -, h⟩ := Option.bind_eq_some_iff.1 h
    dsimp only at h
    split at h
    · obtain ⟨⟨fraction, rest'⟩, -, h⟩ := Option.bind_eq_some_iff.1 h
      obtain ⟨-, h⟩ := Option.ite_none_right_eq_some.1 h
      cases h
      exact nofun
    · obtain ⟨⟨exponent, rest'⟩, -, h⟩ := Option.bind_eq_some_iff.1 h
      obtain ⟨-, h⟩ := Option.ite_none_right_eq_some.1 h
      cases h
      exact nofun

/-- A date or a time is a table with its spelling. -/
theorem isOrdered_of_readMoment {cs rest : List Char} {v : Value}
    (h : readMoment cs = some (v, rest)) : v.IsOrdered := by
  have hspelled (spelling : String) :
      (Value.table [("$__toml_private_datetime", .text spelling)]).IsOrdered :=
    .table (Fields.isOrdered_singleton _) (List.forall_mem_singleton.2 (.plain nofun))
  unfold readMoment at h
  split at h
  · obtain ⟨rest', -, h⟩ := Option.bind_eq_some_iff.1 h
    cases h
    exact hspelled _
  · obtain ⟨rest', -, h⟩ := Option.bind_eq_some_iff.1 h
    cases h
    exact hspelled _

theorem isOrdered_of_readNumber {cs rest : List Char} {v : Value}
    (h : readNumber cs = some (v, rest)) : v.IsOrdered := by
  rcases Option.or_eq_some_iff.1 h with h | ⟨-, h⟩
  · rcases Option.or_eq_some_iff.1 h with h | ⟨-, h⟩
    · exact isOrdered_of_readMoment h
    · exact .plain (isPlain_of_readReal h)
  · exact .plain (isPlain_of_readInteger h)

section

variable {value : Reader Value} (hvalue : ∀ cs v rest, value cs = some (v, rest) → v.IsOrdered)
include hvalue

theorem isOrdered_of_readAssignment {cs rest : List Char} {a : Assignment}
    (h : readAssignment value cs = some (a, rest)) : a.value.IsOrdered := by
  unfold readAssignment at h
  obtain ⟨⟨⟨path, key⟩, rest₁⟩, -, h⟩ := Option.bind_eq_some_iff.1 h
  dsimp only at h
  split at h
  · obtain ⟨⟨v, rest₂⟩, hv, h⟩ := Option.bind_eq_some_iff.1 h
    cases h
    exact hvalue _ _ _ hv
  · cases h

theorem isOrdered_of_readAssignments {fuel : Nat} {cs rest : List Char} {as : List Assignment}
    (h : readAssignments value fuel cs = some (as, rest)) : ∀ a ∈ as, a.value.IsOrdered := by
  induction fuel generalizing cs as rest with
  | zero => cases h
  | succ fuel ih =>
      unfold readAssignments at h
      obtain ⟨⟨first, rest₁⟩, hfirst, h⟩ := Option.bind_eq_some_iff.1 h
      have hvalue₁ := isOrdered_of_readAssignment hvalue hfirst
      dsimp only at h
      split at h
      · obtain ⟨⟨more, rest₂⟩, hmore, h⟩ := Option.bind_eq_some_iff.1 h
        cases h
        exact List.forall_mem_cons.2 ⟨hvalue₁, ih hmore⟩
      · cases h
        exact List.forall_mem_singleton.2 hvalue₁
      · cases h

end

/-- Assignments of values in order make a table in order. -/
theorem isOrdered_of_tableOf {as : List Assignment} (has : ∀ a ∈ as, a.value.IsOrdered) {v : Value}
    (h : tableOf as = some v) : v.IsOrdered := by
  obtain ⟨entries, hentries, rfl⟩ := Option.map_eq_some_iff.1 h
  suffices hfold : ∀ start : Entries, start.IsOrdered →
      as.foldlM (fun entries a => Entries.put a.path a.key a.value entries) start = some entries →
        Entries.IsOrdered entries from (hfold [] Entries.isOrdered_nil hentries).toFields
  clear h hentries
  induction as with
  | nil =>
      intro start hstart h
      cases h
      exact hstart
  | cons a rest ih =>
      obtain ⟨ha, hrest⟩ := List.forall_mem_cons.1 has
      intro start hstart h
      rw [List.foldlM_cons] at h
      obtain ⟨next, hnext, h⟩ := Option.bind_eq_some_iff.1 h
      exact ih hrest next (hstart.put ha hnext) h

/-- A value is read in order. -/
theorem isOrdered_of_readValue {depth : Nat} {cs rest : List Char} {v : Value}
    (h : readValue depth cs = some (v, rest)) : v.IsOrdered := by
  induction depth generalizing cs v rest with
  | zero => cases h
  | succ depth ih =>
      unfold readValue at h
      split at h
      · cases h
      · obtain ⟨⟨items, rest'⟩, -, h⟩ := Option.map_eq_some_iff.1 h
        cases h
        exact .plain nofun
      · split at h
        · cases h
          exact Table.isOrdered_nil
        · obtain ⟨⟨as, rest₁⟩, has, h⟩ := Option.bind_eq_some_iff.1 h
          obtain ⟨table, htable, h⟩ := Option.bind_eq_some_iff.1 h
          cases h
          exact isOrdered_of_tableOf (isOrdered_of_readAssignments (fun _ _ _ hv => ih hv) has) htable
      · cases h
        exact .plain nofun
      · cases h
        exact .plain nofun
      · split at h
        · obtain ⟨⟨s, rest'⟩, -, h⟩ := Option.map_eq_some_iff.1 h
          cases h
          exact .plain nofun
        · exact isOrdered_of_readNumber h

/-! ## Lines -/

theorem isOrdered_of_readHeader {closing : List Char}
    {openAt : List String → String → Entries → Option Entries}
    (hopen : ∀ path key entries changed, Entries.IsOrdered entries →
      openAt path key entries = some changed → changed.IsOrdered)
    {p p' : Progress} (hp : p.entries.IsOrdered) {cs rest : List Char}
    (h : readHeader closing openAt p cs = some (p', rest)) : p'.entries.IsOrdered := by
  unfold readHeader at h
  obtain ⟨⟨⟨path, key⟩, rest'⟩, -, h⟩ := Option.bind_eq_some_iff.1 h
  obtain ⟨-, h⟩ := Option.ite_none_right_eq_some.1 h
  obtain ⟨entries, hentries, h⟩ := Option.bind_eq_some_iff.1 h
  cases h
  exact hopen path key p.entries entries hp hentries

/-- A line keeps the order of what the lines so far have built. -/
theorem isOrdered_of_readLine {p p' : Progress} (hp : p.entries.IsOrdered) {cs rest : List Char}
    (h : readLine p cs = some (p', rest)) : p'.entries.IsOrdered := by
  unfold readLine at h
  split at h
  · exact isOrdered_of_readHeader (fun _ _ _ _ hentries => hentries.openNext) hp h
  · exact isOrdered_of_readHeader (fun _ _ _ _ hentries => hentries.openTable) hp h
  · obtain ⟨⟨a, rest'⟩, ha, h⟩ := Option.bind_eq_some_iff.1 h
    obtain ⟨entries, hentries, h⟩ := Option.bind_eq_some_iff.1 h
    cases h
    have hvalue := isOrdered_of_readAssignment (fun _ _ _ hv => isOrdered_of_readValue hv) ha
    exact hp.putUnder hvalue hentries

theorem isOrdered_of_readLines {fuel : Nat} {p : Progress} (hp : p.entries.IsOrdered)
    {cs : List Char} {entries : Entries} (h : readLines fuel p cs = some entries) :
    entries.IsOrdered := by
  induction fuel generalizing p cs with
  | zero => cases h
  | succ fuel ih =>
      unfold readLines at h
      split at h
      · cases h
        exact hp
      · split at h
        · obtain ⟨rest, -, h⟩ := Option.bind_eq_some_iff.1 h
          exact ih hp h
        · obtain ⟨⟨p', rest⟩, hline, h⟩ := Option.bind_eq_some_iff.1 h
          obtain ⟨rest', -, h⟩ := Option.bind_eq_some_iff.1 h
          exact ih (isOrdered_of_readLine hp hline) h

/-- TOML text is read as a table in order. -/
theorem isOrdered_ofText? {text : String} {t : Table} (h : ofText? text = some t) :
    t.IsOrdered := by
  obtain ⟨entries, hentries, rfl⟩ := Option.map_eq_some_iff.1 h
  exact (isOrdered_of_readLines Entries.isOrdered_nil hentries).toFields

end PatchReview.Toml
