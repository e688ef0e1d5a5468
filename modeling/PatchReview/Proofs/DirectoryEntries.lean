import Mathlib.Data.List.TakeWhile
import PatchReview.Files.Tree

/-!
# Entries of a directory

The path of an entry of a directory leads to this entry, however the directory is reached:
through links, with a slash at the end of its path or without one.

Main definitions:

- `Files.IsFileName`: the names that an entry can have.
- `Files.IsListing`: what a directory lists, each name once.

Main results:

- Theorem `Files.Node.walk_append`: a walk that ends in a directory goes on to its files.
- Theorem `Files.resolve_join`: the path of a file in a directory leads to the file.
- Theorem `Files.extension?_join_eq_some_iff`: the extension of an entry is read off its name.
-/

namespace PatchReview.Files

open Text

/-- A name that an entry of a directory can have. -/
structure IsFileName (name : String) : Prop where
  ne_empty : name ≠ ""
  ne_dot : name ≠ "."
  ne_dots : name ≠ ".."
  slash_notMem : '/' ∉ name.toList
  zero_notMem : '\x00' ∉ name.toList
  size_le : name.utf8ByteSize ≤ 255

instance (name : String) : Decidable (IsFileName name) :=
  decidable_of_iff (name ≠ "" ∧ name ≠ "." ∧ name ≠ ".." ∧ '/' ∉ name.toList ∧
      '\x00' ∉ name.toList ∧ name.utf8ByteSize ≤ 255)
    ⟨fun ⟨h, hdot, hdots, hslash, hzero, hsize⟩ => ⟨h, hdot, hdots, hslash, hzero, hsize⟩,
      fun h => ⟨h.ne_empty, h.ne_dot, h.ne_dots, h.slash_notMem, h.zero_notMem, h.size_le⟩⟩

/-- What a directory can list: each name once. -/
structure IsListing (entries : List (String × Node)) : Prop where
  nodup : (entries.map (·.1)).Nodup
  isFileName : ∀ entry ∈ entries, IsFileName entry.1

/-! ## Names on a path -/

/-- The path of an entry has one more name than that of the directory, which may end in
a slash. -/
theorem exists_names_join {dir name : String} (hdir : dir ≠ "") (hname : '/' ∉ name.toList) :
    ∃ path trail, names dir = path ++ trail ∧ (∀ n ∈ trail, n = "") ∧
      names (join dir name) = path ++ [name] := by
  have hfield : fields (· == '/') name.toList = [name.toList] := fields_of_notMem hname
  by_cases hlast : dir.toList.getLast? = some '/'
  · obtain ⟨front, hfront⟩ := List.getLast?_eq_some_iff.1 hlast
    refine ⟨(fields (· == '/') front).map String.ofList, [""], ?_, by simp, ?_⟩
    · rw [names, hfront, fields_append_cons]
      simp [fields]
    · rw [names, join, if_neg hdir, if_pos hlast, String.toList_append, hfront,
        List.append_assoc, List.singleton_append, fields_append_cons, hfield]
      simp
  · refine ⟨names dir, [], by simp, by simp, ?_⟩
    rw [names, join, if_neg hdir, if_neg hlast, String.toList_append, String.toList_append,
      List.append_assoc]
    change (fields (· == '/') (dir.toList ++ '/' :: name.toList)).map String.ofList = _
    rw [fields_append_cons, hfield]
    simp [names]

/-- The last name on the path of an entry is its name. -/
theorem lastName_join (dir : String) {name : String} (hname : '/' ∉ name.toList) :
    lastName (join dir name) = name := by
  by_cases hdir : dir = ""
  · rw [lastName, join, if_pos hdir, names, fields_of_notMem hname]
    simp
  · obtain ⟨path, -, -, -, hnames⟩ := exists_names_join hdir hname
    simp [lastName, hnames]

/-! ## Walks -/

namespace Node

/-- Empty names lead nowhere. -/
theorem eq_of_walk_empty {links : Nat} {root here node : Node} {parents : List Node}
    {path : List String} (hpath : ∀ n ∈ path, n = "")
    (h : walk links root parents here path = .ok node) : here = node := by
  induction path with
  | nil =>
      rw [walk] at h
      exact Except.ok.inj h
  | cons n rest ih =>
      obtain ⟨rfl, hrest⟩ := List.forall_mem_cons.1 hpath
      rw [walk.eq_def] at h
      cases here with
      | directory entries =>
          simp only [true_or, if_true] at h
          exact ih hrest h
      | file bytes => cases h
      | link target => cases h

/-- The name of a file leads from its directory to the file. -/
theorem walk_file (links : Nat) (root : Node) (parents : List Node)
    {entries : List (String × Node)} {name : String} {bytes : ByteArray} (hname : IsFileName name)
    (hfile : Fields.get? entries name = some (.file bytes)) :
    walk links root parents (.directory entries) [name] = .ok (.file bytes) := by
  have hsize : ¬ name.utf8ByteSize > 255 := Nat.not_lt.2 hname.size_le
  rw [walk.eq_def]
  simp only [hname.ne_empty, hname.ne_dot, or_self, if_false, hname.ne_dots, hsize, hfile]
  rw [walk]

/-- The names in front of a path lead nowhere, whatever the rest is, or to a place from which
the rest is walked. -/
theorem walk_append (links : Nat) (root : Node) (parents : List Node) (here : Node)
    (path : List String) :
    (∀ rest node, walk links root parents here (path ++ rest) ≠ .ok node) ∨
      ∃ links' parents' here', ∀ rest,
        walk links root parents here (path ++ rest) = walk links' root parents' here' rest := by
  -- Along the steps of the walk: a step that goes on leaves what follows the path alone.
  fun_induction walk links root parents here path with
  | case1 links parents here => exact .inr ⟨links, parents, here, fun _ => rfl⟩
  | case2 links parents name rest entries hname ih =>
      have hstep : ∀ more, walk links root parents (.directory entries) (name :: rest ++ more) =
          walk links root parents (.directory entries) (rest ++ more) := by
        intro more
        rw [List.cons_append, walk.eq_def]
        simp [hname]
      simpa only [hstep] using ih
  | case3 links rest entries _ ih =>
      have hstep : ∀ more, walk links root [] (.directory entries) (".." :: rest ++ more) =
          walk links root [] (.directory entries) (rest ++ more) := by
        intro more
        rw [List.cons_append, walk.eq_def]
        simp
      simpa only [hstep] using ih
  | case4 links rest entries parent others _ ih =>
      have hstep : ∀ more,
          walk links root (parent :: others) (.directory entries) (".." :: rest ++ more) =
            walk links root others parent (rest ++ more) := by
        intro more
        rw [List.cons_append, walk.eq_def]
        simp
      simpa only [hstep] using ih
  | case9 parents name rest entries _ _ _ target _ links _ _ ih =>
      have hstep : ∀ more, walk (links + 1) root parents (.directory entries) (name :: rest ++ more) =
          walk links root [] root (names target ++ rest ++ more) := by
        intro more
        rw [List.cons_append, walk.eq_def]
        simp [*]
      simpa only [hstep] using ih
  | case10 parents name rest entries _ _ _ target _ links _ _ ih =>
      have hstep : ∀ more, walk (links + 1) root parents (.directory entries) (name :: rest ++ more) =
          walk links root parents (.directory entries) (names target ++ rest ++ more) := by
        intro more
        rw [List.cons_append, walk.eq_def]
        simp [*]
      simpa only [hstep] using ih
  | case11 links parents name rest entries _ _ _ node _ _ ih =>
      have hstep : ∀ more, walk links root parents (.directory entries) (name :: rest ++ more) =
          walk links root (.directory entries :: parents) node (rest ++ more) := by
        intro more
        rw [List.cons_append, walk.eq_def]
        simp [*]
      simpa only [hstep] using ih
  | case5 | case6 | case7 | case8 | case12 =>
      refine .inl fun more node => ?_
      rw [List.cons_append, walk.eq_def]
      simp [*]

/-- A walk that ends in a directory goes on to its files. -/
theorem walk_append_file {links : Nat} {root here : Node} {parents : List Node}
    {path trail : List String} {entries : List (String × Node)} {name : String}
    {bytes : ByteArray} (htrail : ∀ n ∈ trail, n = "")
    (h : walk links root parents here (path ++ trail) = .ok (.directory entries))
    (hname : IsFileName name) (hfile : Fields.get? entries name = some (.file bytes)) :
    walk links root parents here (path ++ [name]) = .ok (.file bytes) := by
  rcases walk_append links root parents here path with hnowhere | ⟨links', parents', there, hthere⟩
  · exact absurd h (hnowhere trail _)
  · rw [hthere] at h ⊢
    rw [eq_of_walk_empty htrail h]
    exact walk_file links' root parents' hname hfile

end Node

/-! ## Paths of entries -/

/-- The characters of the path of an entry. -/
theorem mem_join {dir name : String} {c : Char} (h : c ∈ (join dir name).toList) :
    c ∈ dir.toList ∨ c = '/' ∨ c ∈ name.toList := by
  unfold join at h
  split at h
  · exact .inr (.inr h)
  · split at h <;> simp only [String.toList_append, List.mem_append] at h
    · exact h.imp_right .inr
    · rcases h with (hdir | hslash) | hname
      · exact .inl hdir
      · exact .inr (.inl (List.mem_singleton.1 hslash))
      · exact .inr (.inr hname)

/-- The path of a file in a directory leads to the file. -/
theorem resolve_join {root : Node} {dir : String} {entries : List (String × Node)}
    (hdir : root.resolve dir = .ok (.directory entries)) {name : String} {bytes : ByteArray}
    (hname : IsFileName name) (hfile : Fields.get? entries name = some (.file bytes)) :
    root.resolve (join dir name) = .ok (.file bytes) := by
  unfold Node.resolve at hdir
  split at hdir
  · cases hdir
  · next hne =>
    split at hdir
    · cases hdir
    · next hzero =>
      obtain ⟨path, trail, hnames, htrail, hjoin⟩ := exists_names_join hne hname.slash_notMem
      have hne' : join dir name ≠ "" := by
        intro hempty
        have hlast := lastName_join dir hname.slash_notMem
        rw [hempty] at hlast
        exact hname.ne_empty hlast.symm
      have hzero' : ¬ (join dir name).toList.contains '\x00' = true := by
        simp only [List.contains_iff_mem] at hzero ⊢
        intro hmem
        rcases mem_join hmem with hmem | heq | hmem
        · exact hzero hmem
        · cases heq
        · exact hname.zero_notMem hmem
      rw [Node.resolve, if_neg hne', if_neg hzero', hjoin]
      rw [hnames] at hdir
      exact Node.walk_append_file htrail hdir hname hfile

/-! ## Extensions -/

/-- A name is cut at its last dot, unless nothing stands before it. -/
theorem splitName_eq {name : String} {front extension : List Char}
    (hname : name.toList = front ++ '.' :: extension) (hdots : name ≠ "..")
    (hextension : '.' ∉ extension) :
    splitName name = if front = [] then (name, none)
      else (String.ofList front, some (String.ofList extension)) := by
  have hback : name.toList.reverse = extension.reverse ++ '.' :: front.reverse := by
    simp [hname]
  have htake : (extension.reverse ++ '.' :: front.reverse).takeWhile (· ≠ '.') =
      extension.reverse := by
    rw [List.takeWhile_append_of_pos]
    · simp
    · intro c hc
      have hne : c ≠ '.' := by
        rintro rfl
        exact hextension (List.mem_reverse.1 hc)
      simpa using hne
  rw [splitName, if_neg hdots, hback]
  dsimp only
  rw [htake, List.drop_left]
  cases hfront : front.reverse with
  | nil => simp [List.reverse_eq_nil_iff.1 hfront]
  | cons c stem =>
      have hne : front ≠ [] := by
        rintro rfl
        cases hfront
      simp [hne, ← hfront]

/-- A name without dot is not cut. -/
theorem splitName_of_dot_notMem {name : String} (h : '.' ∉ name.toList) :
    splitName name = (name, none) := by
  have htake : name.toList.reverse.takeWhile (· ≠ '.') = name.toList.reverse := by
    rw [List.takeWhile_eq_self_iff]
    intro c hc
    have hne : c ≠ '.' := by
      rintro rfl
      exact h (List.mem_reverse.1 hc)
    simpa using hne
  rw [splitName]
  dsimp only
  rw [htake, List.drop_length]
  simp

/-- The extension of an entry is what stands behind the last dot of its name, with something in
front of the dot. -/
theorem extension?_join_eq_some_iff (dir : String) {name extension : String}
    (hname : IsFileName name) :
    extension? (join dir name) = some extension ↔
      ∃ front, name = front ++ "." ++ extension ∧ front ≠ "" ∧ '.' ∉ extension.toList := by
  rw [extension?, lastName_join dir hname.slash_notMem]
  constructor
  · intro h
    by_cases hdot : '.' ∈ name.toList
    · obtain ⟨back, rest, hback, hnone⟩ :=
        List.eq_append_cons_of_mem (List.mem_reverse.2 hdot)
      have hsplit : name.toList = rest.reverse ++ '.' :: back.reverse := by
        rw [← List.reverse_reverse name.toList, hback]
        simp
      rw [splitName_eq hsplit hname.ne_dots (by simpa using hnone)] at h
      split at h
      · cases h
      · next hne =>
        obtain rfl := Option.some.inj h
        refine ⟨String.ofList rest.reverse, ?_, ?_, ?_⟩
        · rw [← String.toList_inj, hsplit]
          simp
        · simpa using hne
        · simpa using hnone
    · rw [splitName_of_dot_notMem hdot] at h
      cases h
  · rintro ⟨front, rfl, hfront, hextension⟩
    have hsplit : (front ++ "." ++ extension).toList = front.toList ++ '.' :: extension.toList := by
      simp
    rw [splitName_eq hsplit hname.ne_dots hextension, if_neg (by simpa using hfront)]
    simp

end PatchReview.Files
