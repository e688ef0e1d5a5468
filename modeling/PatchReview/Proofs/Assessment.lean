import Mathlib.Algebra.GroupWithZero.Nat
import PatchReview.Proofs.Anchoring
import PatchReview.Proofs.HunkPositions
import PatchReview.Proofs.PostEffect
import PatchReview.Review.Run

/-!
# What a review finds

A review goes through the files of a pull request, the clauses for each of them and
its added lines.  This module says what comes out without the steps in between:
which lines every clause reports, in the order of the files, the documents, their
clauses and the lines.  A file that the review passes over has nothing to report
anyway, so it does not occur in this description.

Main results:

- Definition `fileFindings`: what a review is to find in a file.
- Theorem `value_assess`: what the rules find in some files.
- Theorem `findings_of_run`: what a review that succeeds reports.
- Theorem `findings_of_writtenPatches`: what it reports of patches that are written line by line.
-/

namespace PatchReview

/-- The added lines of a file: of the lines of its patch below the first hunk header
those with a plus sign, each with its number among them, counted from one. -/
def ChangedFile.addedLines (file : ChangedFile) : List AddedLine :=
  match file.patch with
  | none => []
  | some text =>
    ((Patch.hunkLines (Text.lines text.toList)).zipIdx 1).filterMap fun l =>
      (Patch.addedText? l.1).map fun added => ⟨String.ofList added, l.2⟩

namespace Review

/-- What a review is to find in a file: document by document, for those that apply to the
file, clause by clause and line by line what the clauses report. -/
def fileFindings (store : Store) (file : ChangedFile) : List Finding :=
  (store.documents.filter (·.appliesTo file.filename)).flatMap fun d =>
    d.rules.flatMap fun c =>
      (file.addedLines.filter fun line =>
        c.reports (file.addedLines.map (·.text)) line.text).map (c.findingOf file.filename)

/-- Whether a file has added lines and clauses that apply to it. -/
def isReviewed (store : Store) (file : ChangedFile) : Bool :=
  !file.addedLines.isEmpty && !(store.rulesForFile file.filename).isEmpty

/-- The summary of a file. -/
def summaryOf (store : Store) (file : ChangedFile) : FileSummary where
  path := file.filename
  addedLines := file.addedLines.length
  findings := (fileFindings store file).length

/-! ## One file -/

/-- The lines of a patch that is read are the added lines of the file. -/
theorem lines_ofText {file : ChangedFile} {text : String} (h : file.patch = some text) :
    (Patch.ofText text).lines = file.addedLines := by
  rw [ChangedFile.addedLines, h, Patch.ofText, Patch.addedFrom_eq]

/-- The added lines of a file whose patch is written line by line are its additions: whether a
line is one is the kind that it was written as. -/
theorem addedLines_of_writtenPatch {file : ChangedFile} {p : WrittenPatch}
    (h : file.patch = some p.text) : file.addedLines = p.additions := by
  rw [← lines_ofText h, p.lines_ofText_text]

/-- The findings in a file, by the clauses that apply to it. -/
theorem fileFindings_eq (store : Store) (file : ChangedFile) :
    fileFindings store file = (store.rulesForFile file.filename).flatMap fun c =>
      (file.addedLines.filter fun line =>
        c.reports (file.addedLines.map (·.text)) line.text).map (c.findingOf file.filename) := by
  rw [fileFindings, Store.rulesForFile, List.flatMap_assoc]

/-- A line with a plus sign is found at its diff position, and the line that silences the
clause is in another file. -/
example :
    let todo : Clause := { id := "no-todo", pattern := "TODO", negativePattern := some "later"
                           message := "Avoid TODO.", severity := .warning }
    let store : Store := ⟨[(Document.new "todo" "No TODO" .warning).withClause todo]⟩
    [{ filename := "src/a.ts", status := "modified"
       patch := some "@@ -1 +1,3 @@\n context\n+a() // TODO\n-old\n+b()" },
      { filename := "src/b.ts", status := "modified"
        patch := some "@@ -1 +1,2 @@\n+c() // TODO\n+d() // later" }].flatMap
          (fileFindings store) =
      [⟨"src/a.ts", 2, "Avoid TODO.", some "no-todo", some .warning⟩] := by
  decide

/-- A file that is passed over has no findings. -/
theorem fileFindings_of_not_isReviewed {store : Store} {file : ChangedFile}
    (h : isReviewed store file = false) : fileFindings store file = [] := by
  rw [isReviewed, Bool.and_eq_false_iff, Bool.not_eq_false', Bool.not_eq_false',
    List.isEmpty_iff, List.isEmpty_iff] at h
  rw [fileFindings_eq]
  rcases h with hlines | hclauses
  · rw [List.flatMap_eq_nil_iff]
    intro c _
    rw [hlines]
    rfl
  · rw [hclauses]
    rfl

/-- What the rules find in one file. -/
theorem value_assessFile (store : Store) (file : ChangedFile) :
    (assessFile store file).value =
      if isReviewed store file then some (summaryOf store file, fileFindings store file)
      else none := by
  unfold assessFile
  cases hpatch : file.patch with
  | none =>
      have hskipped : isReviewed store file = false := by
        rw [isReviewed, ChangedFile.addedLines, hpatch]
        rfl
      rw [hskipped]
      rfl
  | some text =>
      have hlines := lines_ofText hpatch
      have hanchored := Patch.value_anchor_evaluateClauses (Patch.ofText text) file.filename
        (store.rulesForFile file.filename)
      have htexts : (Patch.ofText text).addedLines = file.addedLines.map (·.text) := by
        rw [Patch.addedLines, hlines]
      rw [htexts, hlines, ← fileFindings_eq] at hanchored
      have hreviewed : isReviewed store file =
          !(file.addedLines.isEmpty || (store.rulesForFile file.filename).isEmpty) := by
        rw [isReviewed, Bool.not_or]
      simp only [hlines]
      cases hskip : file.addedLines.isEmpty || (store.rulesForFile file.filename).isEmpty with
      | true =>
          rw [hreviewed, hskip]
          rfl
      | false =>
          rw [hreviewed, hskip]
          simp only [Logged.value_bind, Logged.value_pure, htexts, hanchored, Bool.false_eq_true,
            if_false, Bool.not_false, if_true, summaryOf]

/-- No finding in a file is outside of its patch. -/
theorem findingOutsidePatch_not_mem_assessFile (store : Store) (file : ChangedFile) :
    .findingOutsidePatch ∉ (assessFile store file).warnings := by
  unfold assessFile
  cases file.patch with
  | none => exact List.not_mem_nil
  | some text =>
      dsimp only
      split
      · exact List.not_mem_nil
      · intro hmem
        rw [Logged.warnings_bind, Logged.warnings_bind, Logged.warnings_pure, List.append_nil,
          Patch.warnings_anchor_evaluateClauses, List.append_nil] at hmem
        cases eq_invalidPattern_of_mem_warnings_evaluateClauses hmem

/-! ## All files -/

/-- The files that are reviewed have a summary and findings each. -/
theorem filterMap_value_assessFile (store : Store) (files : List ChangedFile) :
    files.filterMap (fun file => (assessFile store file).value) =
      (files.filter (isReviewed store)).map fun file =>
        (summaryOf store file, fileFindings store file) := by
  induction files with
  | nil => rfl
  | cons file files ih =>
      rw [List.filterMap_cons, value_assessFile, ih]
      by_cases hfile : isReviewed store file = true
      · rw [if_pos hfile, List.filter_cons_of_pos hfile, List.map_cons]
      · rw [if_neg hfile, List.filter_cons_of_neg hfile]

/-- The files that are passed over add no findings. -/
theorem flatMap_fileFindings_filter (store : Store) (files : List ChangedFile) :
    (files.filter (isReviewed store)).flatMap (fileFindings store) =
      files.flatMap (fileFindings store) := by
  induction files with
  | nil => rfl
  | cons file files ih =>
      rw [List.flatMap_cons, ← ih]
      by_cases hfile : isReviewed store file = true
      · rw [List.filter_cons_of_pos hfile, List.flatMap_cons]
      · rw [List.filter_cons_of_neg hfile,
          fileFindings_of_not_isReviewed (Bool.not_eq_true _ ▸ hfile), List.nil_append]

/-- What the rules find in some files. -/
theorem value_assess (store : Store) (files : List ChangedFile) :
    (assess store files).value =
      ⟨(files.filter (isReviewed store)).map (summaryOf store),
        files.flatMap (fileFindings store)⟩ := by
  have hparts : ((Logged.forAll (assessFile store) files).value).filterMap id =
      (files.filter (isReviewed store)).map fun file =>
        (summaryOf store file, fileFindings store file) := by
    rw [Logged.value_forAll, List.filterMap_map, ← filterMap_value_assessFile]
    rfl
  rw [assess, Logged.value_bind, Logged.value_pure, hparts, List.map_map, List.flatMap_map]
  exact congrArg (Assessment.mk _) (flatMap_fileFindings_filter store files)

/-- No finding in some files is outside of its patch. -/
theorem findingOutsidePatch_not_mem_assess (store : Store) (files : List ChangedFile) :
    .findingOutsidePatch ∉ (assess store files).warnings := by
  rw [assess, Logged.warnings_bind, Logged.warnings_pure, List.append_nil, Logged.warnings_forAll]
  intro hmem
  obtain ⟨file, -, hmem⟩ := List.mem_flatMap.1 hmem
  exact findingOutsidePatch_not_mem_assessFile store file hmem

/-- The findings counted in the summaries are all findings. -/
theorem sum_findings_summaries (store : Store) (files : List ChangedFile) :
    (((files.filter (isReviewed store)).map (summaryOf store)).map (·.findings)).sum =
      (files.flatMap (fileFindings store)).length := by
  rw [← flatMap_fileFindings_filter, List.length_flatMap, List.map_map]
  rfl

/-! ## The review -/

variable {σ : Type} {host : Host σ} {pr : PullRequestRef} {thread : σ → List (Option String)}
  {o : PostingOptions} {store : Store} {dryRun : Bool} {s s' s₁ : σ} {pull : PullRequest}
  {report : Report}

/-- Without credentials a live review asks nothing of the host. -/
theorem run_of_not_isAuthenticated (hauth : host.isAuthenticated s = false) :
    run host o store pr false s = pure (.error (.missingCredentials pr), s) := by
  rw [run, hauth]
  rfl

/-- A review that cannot fetch the pull request ends with that. -/
theorem run_of_fetch_error {e : HostError}
    (hauth : dryRun = true ∨ host.isAuthenticated s = true)
    (hfetch : host.fetch pr s = (.error e, s₁)) :
    run host o store pr dryRun s = pure (.error (.fetch pr e), s₁) := by
  simp only [run, Posting.isMissing_eq_false hauth, hfetch]
  rfl

/-- A review that fetches the pull request posts what the rules find in it. -/
theorem value_run_of_fetch_ok (hauth : dryRun = true ∨ host.isAuthenticated s = true)
    (hfetch : host.fetch pr s = (.ok pull, s₁)) :
    (run host o store pr dryRun s).value =
      match Posting.post host o pr (assess store pull.files).value.findings dryRun s₁ with
      | (.error e, s₂) => (.error e, s₂)
      | (.ok outcome, s₂) =>
        (.ok (reportOn store pr pull (assess store pull.files).value outcome), s₂) := by
  simp only [run, Posting.isMissing_eq_false hauth, hfetch, Bool.false_eq_true, if_false,
    Logged.value_bind]
  cases Posting.post host o pr (assess store pull.files).value.findings dryRun s₁ with
  | mk answer s₂ =>
      cases answer with
      | error e => rfl
      | ok outcome => rfl

/-- A review that fetches the pull request warns of what is wrong with the rules. -/
theorem warnings_run_of_fetch_ok (hauth : dryRun = true ∨ host.isAuthenticated s = true)
    (hfetch : host.fetch pr s = (.ok pull, s₁)) :
    (run host o store pr dryRun s).warnings = (assess store pull.files).warnings := by
  simp only [run, Posting.isMissing_eq_false hauth, hfetch, Bool.false_eq_true, if_false,
    Logged.warnings_bind]
  cases Posting.post host o pr (assess store pull.files).value.findings dryRun s₁ with
  | mk answer s₂ =>
      cases answer with
      | error e => exact List.append_nil _
      | ok outcome => exact List.append_nil _

/-- A review that succeeds has fetched the pull request, posted what the rules find in it
and reports on that. -/
theorem run_eq_ok (h : (run host o store pr dryRun s).value = (.ok report, s')) :
    ∃ pull s₁ outcome, host.fetch pr s = (.ok pull, s₁) ∧
      Posting.post host o pr (assess store pull.files).value.findings dryRun s₁ =
        (.ok outcome, s') ∧
      report = reportOn store pr pull (assess store pull.files).value outcome ∧
      (run host o store pr dryRun s).warnings = (assess store pull.files).warnings := by
  by_cases hauth : dryRun = true ∨ host.isAuthenticated s = true
  · cases hfetch : host.fetch pr s with
    | mk answer s₁ =>
        cases answer with
        | error e =>
            rw [run_of_fetch_error hauth hfetch] at h
            cases h
        | ok pull =>
            have hwarnings : (run host o store pr dryRun s).warnings =
                (assess store pull.files).warnings := warnings_run_of_fetch_ok hauth hfetch
            rw [value_run_of_fetch_ok hauth hfetch] at h
            cases hpost :
                Posting.post host o pr (assess store pull.files).value.findings dryRun s₁ with
            | mk answer s₂ =>
                rw [hpost] at h
                cases answer with
                | error e => cases h
                | ok outcome =>
                    cases h
                    exact ⟨pull, s₁, outcome, rfl, hpost, rfl, hwarnings⟩
  · rw [not_or, Bool.not_eq_true, Bool.not_eq_true] at hauth
    obtain ⟨rfl, hauth⟩ := hauth
    rw [run_of_not_isAuthenticated hauth] at h
    cases h

/-- A review with credentials on a host that does not fail succeeds once the pull request
is fetched. -/
theorem exists_run_eq_ok (hk : host.KeepsThread pr thread)
    (hauth : dryRun = true ∨ host.isAuthenticated s = true)
    (hfetch : host.fetch pr s = (.ok pull, s₁)) (hsteady : host.FailsAtMost pr 0 s₁) :
    ∃ report s', (run host o store pr dryRun s).value = (.ok report, s') := by
  have hkept := hk.isAuthenticated_fetch s
  rw [hfetch] at hkept
  rw [← hkept] at hauth
  obtain ⟨outcome, s', hpost⟩ : ∃ outcome s', Posting.post host o pr
      (assess store pull.files).value.findings dryRun s₁ = (.ok outcome, s') :=
    Posting.exists_post_eq_ok hauth hsteady
  rw [hkept] at hauth
  rw [value_run_of_fetch_ok hauth hfetch, hpost]
  exact ⟨_, _, rfl⟩

/-- A review that succeeds reports what the clauses report in the added lines of the
files, in order, with a summary for every file that has added lines and clauses; nothing
that the rules find is left out. -/
theorem findings_of_run (h : (run host o store pr dryRun s).value = (.ok report, s')) :
    ∃ pull s₁, host.fetch pr s = (.ok pull, s₁) ∧
      report.findings = pull.files.flatMap (fileFindings store) ∧
      .findingOutsidePatch ∉ (run host o store pr dryRun s).warnings ∧
      report.files = (pull.files.filter (isReviewed store)).map (summaryOf store) ∧
      (report.files.map (·.findings)).sum = report.findings.length := by
  obtain ⟨pull, s₁, outcome, hfetch, -, rfl, hwarnings⟩ := run_eq_ok h
  have hfindings : (assess store pull.files).value.findings =
      pull.files.flatMap (fileFindings store) := by
    rw [value_assess]
  have hfiles : (assess store pull.files).value.files =
      (pull.files.filter (isReviewed store)).map (summaryOf store) := by
    rw [value_assess]
  refine ⟨pull, s₁, hfetch, hfindings, ?_, hfiles, ?_⟩
  · rw [hwarnings]
    exact findingOutsidePatch_not_mem_assess store pull.files
  · rw [reportOn, hfiles, hfindings]
    exact sum_findings_summaries store pull.files

/-- If the patches are written line by line, a review that succeeds reports of their additions
those that the clauses report, at their numbers below the first hunk headers. -/
theorem findings_of_writtenPatches (hfetch : host.fetch pr s = (.ok pull, s₁))
    (h : (run host o store pr dryRun s).value = (.ok report, s'))
    {written : ChangedFile → Option WrittenPatch}
    (hwritten : ∀ file ∈ pull.files, file.patch = (written file).map WrittenPatch.text) :
    report.findings = pull.files.flatMap fun file =>
      let additions := (written file).elim [] WrittenPatch.additions
      (store.rulesForFile file.filename).flatMap fun c =>
        (additions.filter fun line => c.reports (additions.map (·.text)) line.text).map
          (c.findingOf file.filename) := by
  obtain ⟨_, _, outcome, hfetched, -, rfl, -⟩ := run_eq_ok h
  rw [hfetch] at hfetched
  cases hfetched
  have hadditions : ∀ file ∈ pull.files,
      file.addedLines = (written file).elim [] WrittenPatch.additions := by
    intro file hfile
    have hpatch := hwritten file hfile
    cases hp : written file with
    | none =>
        rw [hp, Option.map_none] at hpatch
        rw [ChangedFile.addedLines, hpatch]
        rfl
    | some p =>
        rw [hp, Option.map_some] at hpatch
        exact addedLines_of_writtenPatch hpatch
  rw [reportOn, value_assess]
  apply List.flatMap_congr
  intro file hfile
  rw [fileFindings_eq, hadditions file hfile]

/-- Two files, with a clause that is silenced in the second one. -/
theorem findings_of_run_two_files :
    let todo : Clause := { id := "no-todo", pattern := "TODO", negativePattern := some "later"
                           message := "Avoid TODO.", severity := .warning }
    let store : Store := ⟨[(Document.new "todo" "No TODO" .warning).withClause todo]⟩
    let pr : PullRequestRef := ⟨"acme", "widgets", 1⟩
    let pull : PullRequest :=
      { number := 1, title := "Parser", body := "", state := "open"
        files := [
          { filename := "src/a.ts", status := "modified"
            patch := some "@@ -1 +1,3 @@\n context\n+a() // TODO\n-old\n+b()" },
          { filename := "src/b.ts", status := "modified"
            patch := some "@@ -1 +1,2 @@\n+c() // TODO\n+d() // later" }] }
    let s : Thread := { authenticated := true, pull := .ok pull }
    ∃ report s', (run Thread.host {} store pr false s).value = (.ok report, s') ∧
      ∃ pull s₁, Thread.host.fetch pr s = (.ok pull, s₁) ∧
        report.findings = pull.files.flatMap (fileFindings store) ∧
        .findingOutsidePatch ∉ (run Thread.host {} store pr false s).warnings ∧
        report.files = (pull.files.filter (isReviewed store)).map (summaryOf store) ∧
        (report.files.map (·.findings)).sum = report.findings.length := by
  intro todo store pr pull s
  have hsteady : Thread.host.FailsAtMost pr 0 (s.record (.fetch pr)) :=
    Thread.failsAtMost_zero rfl rfl
  have hok : ∃ report s', (run Thread.host {} store pr false s).value = (.ok report, s') :=
    exists_run_eq_ok (Thread.keepsThread pr) (Or.inr rfl) rfl hsteady
  obtain ⟨report, s', h⟩ := hok
  exact ⟨report, s', h, findings_of_run h⟩

end Review

end PatchReview
