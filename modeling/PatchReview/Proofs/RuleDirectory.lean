import Mathlib.Data.List.Sort
import PatchReview.Proofs.ByteOrder
import PatchReview.Proofs.DirectoryEntries
import PatchReview.Rules.Store
import PatchReview.Text.Character

/-!
# Rule documents of a directory

The rule documents of a directory are those of its rule files, in the order of the bytes of
their names.  What one file holds, and whether it is there, is of no consequence for the
documents of the others.

Main definitions:

- `Document.IsRuleFile`: the files of a directory with the extension of rule documents.
- `Document.loaded?`: the rule document that is read from a file, if it can be read.

Main results:

- Theorem `Document.value_loadDirectory`: the documents of a directory, file by file.
- Theorem `Document.exists_cut`: two lists of names that differ in one name.
- Theorem `Document.loadDirectory_isolates`: a change of one file changes at most its own
  document.
-/

namespace PatchReview.Document

open Files

/-! ## Rule files -/

/-- The extension `md`, in any letter case. -/
def ruleExtensions : List String :=
  ["md", "mD", "Md", "MD"]

/-- The names with the extension of rule documents. -/
def IsRuleName (name : String) : Prop :=
  ∃ front, ∃ extension ∈ ruleExtensions, name = front ++ "." ++ extension ∧ front ≠ ""

/-- A file of a directory with the extension of rule documents; links and further directories
are no files. -/
def IsRuleFile (entries : List (String × Node)) (name : String) : Prop :=
  (∃ bytes, (name, Node.file bytes) ∈ entries) ∧ IsRuleName name

/-- The rule document that is read from a file, if it can be read. -/
def loaded? (root : Node) (path : String) : Option Document :=
  (load? root path).toOption.map (·.value)

/-- A text reads `md` in small letters exactly if it is the extension of rule documents. -/
theorem map_toLower_eq_iff {extension : String} :
    extension.toList.map Char.toLower = ['m', 'd'] ↔ extension ∈ ruleExtensions := by
  have hm : ∀ {c : Char}, c.toLower = 'm' ↔ c = 'm' ∨ c = 'M' :=
    Text.toLower_eq_iff (by decide) (by decide)
  have hd : ∀ {c : Char}, c.toLower = 'd' ↔ c = 'd' ∨ c = 'D' :=
    Text.toLower_eq_iff (by decide) (by decide)
  constructor
  · intro h
    obtain ⟨first, _, hlist, hfirst, hrest⟩ := List.map_eq_cons_iff.1 h
    obtain ⟨second, _, rfl, hsecond, hnil⟩ := List.map_eq_cons_iff.1 hrest
    obtain rfl := List.map_eq_nil_iff.1 hnil
    rw [← String.ofList_toList (s := extension), hlist]
    rcases hm.1 hfirst with rfl | rfl <;> rcases hd.1 hsecond with rfl | rfl <;> decide
  · have hall : ∀ extension ∈ ruleExtensions, extension.toList.map Char.toLower = ['m', 'd'] := by
      decide
    exact hall extension

/-- The extension of rule documents is read off the name of an entry. -/
theorem hasRuleExtension_join_iff (dir : String) {name : String} (hname : IsFileName name) :
    hasRuleExtension (join dir name) = true ↔ IsRuleName name := by
  have hextension : hasRuleExtension (join dir name) = true ↔
      ∃ extension ∈ ruleExtensions, extension? (join dir name) = some extension := by
    cases hcase : extension? (join dir name) with
    | none => simp [hasRuleExtension, hcase]
    | some extension => simp [hasRuleExtension, hcase, map_toLower_eq_iff]
  have hdots : ∀ extension ∈ ruleExtensions, '.' ∉ extension.toList := by decide
  rw [hextension]
  constructor
  · rintro ⟨extension, hmem, hsome⟩
    obtain ⟨front, heq, hfront, -⟩ := (extension?_join_eq_some_iff dir hname).1 hsome
    exact ⟨front, extension, hmem, heq, hfront⟩
  · rintro ⟨front, extension, hmem, heq, hfront⟩
    exact ⟨extension, hmem,
      (extension?_join_eq_some_iff dir hname).2 ⟨front, heq, hfront, hdots extension hmem⟩⟩

/-- The names of the rule files of a directory, in order. -/
def ruleNames (dir : String) (entries : List (String × Node)) : List String :=
  (fileNames entries).filter fun name => hasRuleExtension (join dir name)

/-- The names of files are those of the entries that are files. -/
theorem mem_fileNames_iff {entries : List (String × Node)} {name : String} :
    name ∈ fileNames entries ↔ ∃ bytes, (name, Node.file bytes) ∈ entries := by
  simp only [fileNames, List.mem_mergeSort, List.mem_map, List.mem_filter]
  constructor
  · rintro ⟨⟨n, node⟩, ⟨hmem, hfile⟩, rfl⟩
    cases node with
    | file bytes => exact ⟨bytes, hmem⟩
    | directory entries => cases hfile
    | link target => cases hfile
  · rintro ⟨bytes, hmem⟩
    exact ⟨(name, .file bytes), ⟨hmem, rfl⟩, rfl⟩

/-- The names of the files of a directory increase. -/
theorem pairwise_fileNames {entries : List (String × Node)} (hentries : IsListing entries) :
    (fileNames entries).Pairwise (· < ·) := by
  have hsorted : (fileNames entries).Pairwise (· ≤ ·) := by
    unfold fileNames
    refine (List.pairwise_mergeSort ?_ ?_ _).imp fun hle => of_decide_eq_true hle
    · intro a b c hab hbc
      exact decide_eq_true (String.le_trans (of_decide_eq_true hab) (of_decide_eq_true hbc))
    · intro a b
      rw [Bool.or_eq_true, decide_eq_true_eq, decide_eq_true_eq]
      exact String.le_total a b
  have hnodup : (fileNames entries).Nodup := by
    apply (List.mergeSort_perm _ _).nodup_iff.2
    exact hentries.nodup.sublist (List.filter_sublist.map _)
  exact (hsorted.and hnodup).imp fun hle => Std.lt_iff_le_and_ne.2 hle

theorem mem_ruleNames_iff (dir : String) {entries : List (String × Node)}
    (hentries : IsListing entries) {name : String} :
    name ∈ ruleNames dir entries ↔ IsRuleFile entries name := by
  rw [ruleNames, List.mem_filter, mem_fileNames_iff, IsRuleFile]
  refine and_congr_right fun ⟨bytes, hmem⟩ => ?_
  exact hasRuleExtension_join_iff dir (hentries.isFileName _ hmem)

theorem pairwise_ruleNames (dir : String) {entries : List (String × Node)}
    (hentries : IsListing entries) : (ruleNames dir entries).Pairwise (· < ·) :=
  List.Pairwise.filter _ (pairwise_fileNames hentries)

/-! ## Reading them -/

/-- Files that cannot be read are left out. -/
theorem value_loadEach (root : Node) (paths : List String) :
    (loadEach root paths).value = paths.filterMap (loaded? root) := by
  induction paths with
  | nil => rfl
  | cons path rest ih =>
      rw [loadEach, List.filterMap_cons]
      cases hload : load? root path with
      | error e => simp [loaded?, hload, ih, Except.toOption]
      | ok document => simp [loaded?, hload, ih, Except.toOption]

/-- The documents of a directory are those of its rule files, name by name. -/
theorem value_loadDirectory {root : Node} {dir : String} {entries : List (String × Node)}
    (hdir : root.resolve dir = .ok (.directory entries)) :
    (loadDirectory root dir).value =
      (ruleNames dir entries).filterMap fun name => loaded? root (join dir name) := by
  rw [loadDirectory, hdir]
  dsimp only
  rw [value_loadEach, List.filter_map, List.filterMap_map]
  rfl

/-- What is read from a file depends on its path and its bytes. -/
theorem loaded?_congr {root root' : Node} {path : String}
    (h : root.resolve path = root'.resolve path) : loaded? root path = loaded? root' path := by
  simp only [loaded?, load?, Node.readText, h]

/-! ## A change of one file -/

/-- Directories with the same files beside one name; links and further directories do not
count. -/
def AgreeBeside (name : String) (entries entries' : List (String × Node)) : Prop :=
  ∀ other bytes, other ≠ name →
    ((other, Node.file bytes) ∈ entries ↔ (other, Node.file bytes) ∈ entries')

theorem AgreeBeside.isRuleFile_iff {name other : String} {entries entries' : List (String × Node)}
    (h : AgreeBeside name entries entries') (hother : other ≠ name) :
    IsRuleFile entries other ↔ IsRuleFile entries' other := by
  simp only [IsRuleFile, h other _ hother]

/-- Names that increase are cut by a name into those before it, itself if it is one of them, and
those behind it. -/
theorem eq_append_of_pairwise {names : List String} (h : names.Pairwise (· < ·)) (name : String) :
    names = names.filter (· < name) ++ (if name ∈ names then [name] else []) ++
      names.filter (name < ·) := by
  have hself : ∀ other ∈ (if name ∈ names then [name] else []), other = name := by
    intro other hother
    split at hother
    · exact List.mem_singleton.1 hother
    · cases hother
  -- Both sides increase, so that it is enough to compare what stands in them.
  apply List.Pairwise.eq_of_mem_iff h
  · refine List.pairwise_append.2 ⟨List.pairwise_append.2 ⟨h.filter _, ?_, ?_⟩, h.filter _, ?_⟩
    · split <;> simp
    · intro first hfirst second hsecond
      rw [hself second hsecond]
      exact of_decide_eq_true (List.mem_filter.1 hfirst).2
    · intro first hfirst second hsecond
      have hbehind : name < second := of_decide_eq_true (List.mem_filter.1 hsecond).2
      rcases List.mem_append.1 hfirst with hbefore | hname
      · have hlt : first < name := of_decide_eq_true (List.mem_filter.1 hbefore).2
        exact String.lt_trans hlt hbehind
      · rw [hself first hname]
        exact hbehind
  · intro other
    by_cases heq : other = name
    · simp only [heq, List.mem_append, List.mem_filter, decide_eq_true_eq, String.lt_irrefl,
        and_false, or_false, false_or]
      by_cases hmem : name ∈ names <;> simp [hmem]
    · have hside : other < name ∨ name < other := by
        by_cases hlt : other < name
        · exact .inl hlt
        · exact .inr (Fields.lt_of_not_lt heq hlt)
      simp only [List.mem_append, List.mem_filter, decide_eq_true_eq]
      constructor
      · intro hmem
        rcases hside with hlt | hlt
        · exact .inl (.inl ⟨hmem, hlt⟩)
        · exact .inr ⟨hmem, hlt⟩
      · rintro ((⟨hmem, -⟩ | hname) | ⟨hmem, -⟩)
        · exact hmem
        · exact absurd (hself other hname) heq
        · exact hmem

/-- Names that increase and agree beside one name have the same names before it and behind it. -/
theorem exists_cut {names names' : List String} (h : names.Pairwise (· < ·))
    (h' : names'.Pairwise (· < ·)) {name : String}
    (hother : ∀ other, other ≠ name → (other ∈ names ↔ other ∈ names')) :
    ∃ before after, name ∉ before ++ after ∧
      names = before ++ (if name ∈ names then [name] else []) ++ after ∧
      names' = before ++ (if name ∈ names' then [name] else []) ++ after := by
  have hbefore : names.filter (· < name) = names'.filter (· < name) := by
    apply List.Pairwise.eq_of_mem_iff (h.filter _) (h'.filter _)
    intro other
    simp only [List.mem_filter, decide_eq_true_eq]
    exact and_congr_left fun hlt => hother other (Std.ne_of_lt hlt)
  have hafter : names.filter (name < ·) = names'.filter (name < ·) := by
    apply List.Pairwise.eq_of_mem_iff (h.filter _) (h'.filter _)
    intro other
    simp only [List.mem_filter, decide_eq_true_eq]
    exact and_congr_left fun hlt => hother other (Std.ne_of_lt hlt).symm
  refine ⟨names.filter (· < name), names.filter (name < ·), ?_, eq_append_of_pairwise h name, ?_⟩
  · simp only [List.mem_append, List.mem_filter, decide_eq_true_eq, String.lt_irrefl, and_false,
      or_false, not_false_eq_true]
  · rw [hbefore, hafter]
    exact eq_append_of_pairwise h' name

/-- Files with the same bytes in two directories at the same path give the same document. -/
theorem loaded?_join_congr {root root' : Node} {dir : String}
    {entries entries' : List (String × Node)}
    (hdir : root.resolve dir = .ok (.directory entries))
    (hdir' : root'.resolve dir = .ok (.directory entries')) (hentries : IsListing entries)
    (hentries' : IsListing entries') {name other : String}
    (hagree : AgreeBeside name entries entries') (hother : other ≠ name)
    (hfile : IsRuleFile entries other) :
    loaded? root (join dir other) = loaded? root' (join dir other) := by
  obtain ⟨⟨bytes, hmem⟩, -⟩ := hfile
  have hname : IsFileName other := hentries.isFileName _ hmem
  have hmem' := (hagree other bytes hother).1 hmem
  apply loaded?_congr
  rw [resolve_join hdir hname (Fields.get?_of_mem hentries.nodup hmem),
    resolve_join hdir' hname (Fields.get?_of_mem hentries'.nodup hmem')]

/-- The document of a file that a directory may have or not. -/
theorem exists_own (names : List String) (name : String) (document? : String → Option Document) :
    ∃ own : Option Document,
      (if name ∈ names then [name] else []).filterMap document? = own.toList ∧
      ∀ d, own = some d ↔ name ∈ names ∧ document? name = some d := by
  by_cases h : name ∈ names
  · refine ⟨document? name, ?_, by simp [h]⟩
    cases hdocument : document? name <;> simp [h, hdocument]
  · exact ⟨none, by simp [h], by simp [h]⟩

/-- The documents of a directory are those of its rule files that can be read, in the order of
the bytes of their names; the built-in documents come before them.  If another tree has a
directory at the same path that has the same files beside one name, then the documents before
and behind that of this name are the same, and in the same order. -/
theorem loadDirectory_isolates {root : Node} {dir : String} {entries : List (String × Node)}
    (hdir : root.resolve dir = .ok (.directory entries)) (hentries : IsListing entries) :
    (∃ names : List String, names.Pairwise (fun s t => Text.bytesOf s < Text.bytesOf t) ∧
      (∀ name, name ∈ names ↔ IsRuleFile entries name) ∧
      (loadDirectory root dir).value =
        names.filterMap fun name => loaded? root (join dir name)) ∧
    (∀ root' entries' name, root'.resolve dir = .ok (.directory entries') →
      IsListing entries' → AgreeBeside name entries entries' →
      ∃ before after, ∃ own own' : Option Document,
        (loadDirectory root dir).value = before ++ own.toList ++ after ∧
        (loadDirectory root' dir).value = before ++ own'.toList ++ after ∧
        (∀ d, own = some d ↔ IsRuleFile entries name ∧ loaded? root (join dir name) = some d) ∧
        ∀ d, own' = some d ↔ IsRuleFile entries' name ∧ loaded? root' (join dir name) = some d) ∧
    ∀ other, (Store.loadWithBuiltin root other).value.documents =
      builtin.value ++ (loadDirectory root other).value := by
  refine ⟨⟨ruleNames dir entries, ?_, ?_, value_loadDirectory hdir⟩, ?_, ?_⟩
  · exact (pairwise_ruleNames dir hentries).imp Text.bytesOf_lt_iff.2
  · exact fun name => mem_ruleNames_iff dir hentries
  · intro root' entries' name hdir' hentries' hagree
    have hother : ∀ other, other ≠ name →
        (other ∈ ruleNames dir entries ↔ other ∈ ruleNames dir entries') := by
      intro other hne
      rw [mem_ruleNames_iff dir hentries, mem_ruleNames_iff dir hentries',
        hagree.isRuleFile_iff hne]
    obtain ⟨before, after, hnone, hnames, hnames'⟩ := exists_cut
      (pairwise_ruleNames dir hentries) (pairwise_ruleNames dir hentries') hother
    obtain ⟨own, hown, hownIff⟩ := exists_own (ruleNames dir entries) name
      fun other => loaded? root (join dir other)
    obtain ⟨own', hown', hownIff'⟩ := exists_own (ruleNames dir entries') name
      fun other => loaded? root' (join dir other)
    have hcongr : ∀ other ∈ before ++ after,
        loaded? root' (join dir other) = loaded? root (join dir other) := by
      intro other hmem
      have hne : other ≠ name := fun heq => hnone (heq ▸ hmem)
      have hfile : other ∈ ruleNames dir entries := by
        rw [hnames]
        rcases List.mem_append.1 hmem with hbefore | hafter
        · exact List.mem_append_left _ (List.mem_append_left _ hbefore)
        · exact List.mem_append_right _ hafter
      exact (loaded?_join_congr hdir hdir' hentries hentries' hagree hne
        ((mem_ruleNames_iff dir hentries).1 hfile)).symm
    refine ⟨before.filterMap fun other => loaded? root (join dir other),
      after.filterMap fun other => loaded? root (join dir other), own, own', ?_, ?_, ?_, ?_⟩
    · rw [value_loadDirectory hdir, hnames, List.filterMap_append, List.filterMap_append, hown]
    · rw [value_loadDirectory hdir', hnames', List.filterMap_append, List.filterMap_append, hown',
        List.filterMap_congr fun other hmem => hcongr other (List.mem_append_left _ hmem),
        List.filterMap_congr fun other hmem => hcongr other (List.mem_append_right _ hmem)]
    · simpa only [mem_ruleNames_iff dir hentries] using hownIff
    · simpa only [mem_ruleNames_iff dir hentries'] using hownIff'
  · intro other
    simp [Store.loadWithBuiltin]

/-! ## A file that is mended -/

/-- What stands in a directory of rules beside a file with the given bytes: a rule document,
a link to it, and a further directory. -/
def rulesBeside (bytes : ByteArray) : List (String × Node) :=
  [("b.MD", .file bytes), ("a.md", .file "---\ntitle: A\n---\n".toUTF8), ("c.md", .link "a.md"),
    ("d.md", .directory [])]

/-- A tree with such a directory. -/
def treeBeside (bytes : ByteArray) : Node :=
  .directory [("rules", .directory (rulesBeside bytes))]

theorem isListing_rulesBeside (bytes : ByteArray) : IsListing (rulesBeside bytes) where
  nodup := by simp [rulesBeside]
  isFileName := by
    have hnames : ∀ name ∈ ["b.MD", "a.md", "c.md", "d.md"], IsFileName name := by decide
    intro entry hentry
    apply hnames
    simpa [rulesBeside] using List.mem_map_of_mem (f := Prod.fst) hentry

theorem resolve_treeBeside (bytes : ByteArray) :
    (treeBeside bytes).resolve "rules" = .ok (.directory (rulesBeside bytes)) := by
  have hnames : names "rules" = ["rules"] := by decide
  rw [Node.resolve, hnames]
  simp [treeBeside, Node.walk, Fields.get?]
  decide

/-- A file that is not text gives no document.  When it is mended, the documents of the other
files stay as they are. -/
theorem loadDirectory_isolates_mended :
    ∃ before after, ∃ own : Option Document,
      (loadDirectory (treeBeside ⟨#[0xff]⟩) "rules").value = before ++ after ∧
      (loadDirectory (treeBeside "---\n---\n".toUTF8) "rules").value =
        before ++ own.toList ++ after := by
  obtain ⟨-, hchange, -⟩ := loadDirectory_isolates (resolve_treeBeside ⟨#[0xff]⟩)
    (isListing_rulesBeside ⟨#[0xff]⟩)
  have hagree : AgreeBeside "b.MD" (rulesBeside ⟨#[0xff]⟩) (rulesBeside "---\n---\n".toUTF8) := by
    intro other bytes hother
    simp [rulesBeside, hother]
  obtain ⟨before, after, own, own', hvalue, hvalue', hown, -⟩ := hchange _ _ "b.MD"
    (resolve_treeBeside _) (isListing_rulesBeside _) hagree
  have hname : IsFileName "b.MD" := by decide
  have hresolve := resolve_join (resolve_treeBeside ⟨#[0xff]⟩) hname rfl
  have htext : String.fromUTF8? ⟨#[0xff]⟩ = none := by decide
  have hunread : loaded? (treeBeside ⟨#[0xff]⟩) (join "rules" "b.MD") = none := by
    simp [loaded?, load?, Node.readText, hresolve, htext, Except.toOption]
  have hnone : own = none := by
    rw [Option.eq_none_iff_forall_ne_some]
    intro d hd
    have hread := ((hown d).1 hd).2
    rw [hunread] at hread
    cases hread
  exact ⟨before, after, own', by simpa [hnone] using hvalue, hvalue'⟩

end PatchReview.Document
