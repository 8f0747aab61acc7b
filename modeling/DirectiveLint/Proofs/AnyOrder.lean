import DirectiveLint.Proofs.Collected
import DirectiveLint.Proofs.Paths
import DirectiveLint.Proofs.Reporting

/-!
# Paths in any order

A lint run sorts what it prints, and the sort keeps the issues of a line in the order in which they
were found.  So the order of the paths could still be seen in two places: among the issues of one
line, and in which of several faults comes first.

* `AgreeByLine.eq_of_ordered` — issues in order are known by the issues of each line, hence reports
  that agree line by line are printed alike (`Report.text_eq_of_agreeByLine`).
* `FileSystem.agreeByLine_of_perm` — the issues of a line all come from one file, however often
  and by whichever argument it was collected.  Its occurrences are the same, so no order is among
  them.  This is where names matter: two files of one name would be told apart by their order.
* `FileSystem.lint_perm` — the faults of a run are the same kind of fault in every order.
* `paths_in_any_order` — **the order of the paths does not matter** to what a run prints and how it
  ends.  The log, which tells things as they happen, does follow it (`log_follows_paths`).
-/

namespace DirectiveLint

/-! ## Reports that agree line by line -/

/-- **The same issues of each line**, in the same order. -/
def AgreeByLine (xs ys : List Issue) : Prop :=
  ∀ filename line, xs.filter (Issue.isAt filename line) = ys.filter (Issue.isAt filename line)

lemma Issue.isAt_self (issue : Issue) :
    issue.isAt issue.position.filename issue.position.line = true := by
  simp [isAt]

/-- Issues that may stand in either order are issues of one line. -/
lemma Report.isAt_of_entryLe {a b : Issue} (hab : entryLe a b = true) (hba : entryLe b a = true) :
    a.isAt b.position.filename b.position.line = true := by
  rw [entryLe_iff] at hab hba
  rcases hab with hab | ⟨hname, hab⟩
  · rcases hba with hba | ⟨hname, -⟩
    · exact absurd hab (String.lt_asymm hba)
    · exact absurd (hname ▸ hab) (String.lt_irrefl _)
  · rcases hba with hba | ⟨-, hba⟩
    · exact absurd (hname ▸ hba) (String.lt_irrefl _)
    · simp [Issue.isAt, hname, Int.le_antisymm hab hba]

namespace AgreeByLine

variable {xs ys : List Issue}

lemma symm (h : AgreeByLine xs ys) : AgreeByLine ys xs :=
  fun filename line => (h filename line).symm

lemma mem (h : AgreeByLine xs ys) {issue : Issue} (hmem : issue ∈ xs) : issue ∈ ys := by
  have hkept : issue ∈ xs.filter (Issue.isAt issue.position.filename issue.position.line) :=
    List.mem_filter.mpr ⟨hmem, issue.isAt_self⟩
  rw [h] at hkept
  exact (List.mem_filter.mp hkept).1

/-- The first issues stand in front of each other, so they are of one line, and each is its first. -/
lemma head_eq {a b : Issue} (ha : (a :: xs).Pairwise fun x y => Report.entryLe x y = true)
    (hb : (b :: ys).Pairwise fun x y => Report.entryLe x y = true)
    (h : AgreeByLine (a :: xs) (b :: ys)) : a = b := by
  rcases List.mem_cons.mp (h.mem List.mem_cons_self) with hab | hays
  · exact hab
  rcases List.mem_cons.mp (h.symm.mem List.mem_cons_self) with hba | hbxs
  · exact hba.symm
  have hline := Report.isAt_of_entryLe ((List.pairwise_cons.mp ha).1 b hbxs)
    ((List.pairwise_cons.mp hb).1 a hays)
  have hfirst := h b.position.filename b.position.line
  rw [List.filter_cons_of_pos hline, List.filter_cons_of_pos b.isAt_self] at hfirst
  exact (List.cons.inj hfirst).1

lemma tail {a : Issue} (h : AgreeByLine (a :: xs) (a :: ys)) : AgreeByLine xs ys := by
  intro filename line
  have hfilter := h filename line
  rw [List.filter_cons, List.filter_cons] at hfilter
  split at hfilter
  · exact (List.cons.inj hfilter).2
  · exact hfilter

/-- **Issues in order are known by the issues of each line.** -/
lemma eq_of_ordered (hxs : xs.Pairwise fun x y => Report.entryLe x y = true)
    (hys : ys.Pairwise fun x y => Report.entryLe x y = true) (h : AgreeByLine xs ys) : xs = ys := by
  induction xs generalizing ys with
  | nil =>
    rw [eq_comm, List.eq_nil_iff_forall_not_mem]
    exact fun issue hissue => List.not_mem_nil (h.symm.mem hissue)
  | cons a xs ih =>
    cases ys with
    | nil => exact absurd (h.mem List.mem_cons_self) List.not_mem_nil
    | cons b ys =>
      obtain rfl := head_eq hxs hys h
      rw [ih (List.pairwise_cons.mp hxs).2 (List.pairwise_cons.mp hys).2 h.tail]

end AgreeByLine

namespace Report

/-- **Reports that agree line by line are printed alike.** -/
lemma text_eq_of_agreeByLine {report report' : Report}
    (hissues : report.issues.Perm report'.issues)
    (hthreshold : report.threshold = report'.threshold)
    (h : AgreeByLine report.issues report'.issues) :
    report.text = report'.text ∧ report.exitCode = report'.exitCode := by
  have hentries : report.entries = report'.entries := by
    refine AgreeByLine.eq_of_ordered (report.entries_pairwise.imp entryLe_iff.mpr)
      (report'.entries_pairwise.imp entryLe_iff.mpr) fun filename line => ?_
    rw [filter_isAt_entries, filter_isAt_entries, shown, shown, List.filter_comm, h, hthreshold,
      List.filter_comm]
  have hshown : report.shown.length = report'.shown.length := by
    rw [← report.entries_perm_shown.length_eq, hentries, report'.entries_perm_shown.length_eq]
  have htotals : report.totals = report'.totals := by
    unfold totals
    rw [hshown, hissues.length_eq]
  constructor
  · rw [text, text, lines, lines, hentries, htotals]
  · rw [exitCode_eq, exitCode_eq, hentries]

end Report

/-! ## Files in any order -/

namespace FileSystem

variable {fs : FileSystem} {paths paths' : List FilePath}

lemma sources_perm (h : paths.Perm paths') : (fs.sources paths).Perm (fs.sources paths') :=
  h.flatMap_right fs.expand

/-- An argument that is refused makes the whole fail, wherever it stands. -/
lemma collect_cases (fs : FileSystem) (paths : List FilePath) :
    (∃ path ∈ paths, ∃ failure, fs.refusal? path = some failure) ∧
        (∃ failure, fs.collect paths = .error failure) ∨
      (∀ path ∈ paths, fs.refusal? path = none) ∧ fs.collect paths = .ok (fs.sources paths) := by
  by_cases h : ∀ path ∈ paths, fs.refusal? path = none
  · exact Or.inr ⟨h, collect_eq_ok h⟩
  · push Not at h
    obtain ⟨path, hpath, hrefusal⟩ := h
    refine Or.inl ⟨⟨path, hpath, Option.ne_none_iff_exists'.mp hrefusal⟩, ?_⟩
    cases hcollect : fs.collect paths with
    | error failure => exact ⟨failure, rfl⟩
    | ok files => exact absurd ((collect_eq_ok_iff.mp hcollect).1 path hpath) hrefusal

/-- Files of one name are one file, so their order is no order at all. -/
lemma filter_render_eq_of_perm (h : paths.Perm paths') (hpaths : ∀ path ∈ paths, path.WellFormed)
    (filename : String) :
    paths.filter (·.render == filename) = paths'.filter (·.render == filename) := by
  refine (h.filter _).eq_of_pairwise ?_ (List.pairwise_of_forall fun _ _ => trivial)
    (List.pairwise_of_forall fun _ _ => trivial)
  intro path path' hmem hmem' _ _
  obtain ⟨hpath, hname⟩ := List.mem_filter.mp hmem
  obtain ⟨hpath', hname'⟩ := List.mem_filter.mp hmem'
  exact FilePath.render_inj (hpaths path hpath) (hpaths path' (h.mem_iff.mpr hpath'))
    ((beq_iff_eq.mp hname).trans (beq_iff_eq.mp hname').symm)

variable [Grammars]

lemma loads_perm (h : paths.Perm paths') (hloads : fs.Loads paths) : fs.Loads paths' :=
  fun path hpath => hloads path (h.mem_iff.mpr hpath)

lemma comments_perm (h : paths.Perm paths') : (fs.comments paths).Perm (fs.comments paths') :=
  h.flatMap_right fs.commentsOf

/-- The issues of a line come from the files of one name. -/
lemma filter_isAt_issues (fs : FileSystem) (config : RuleConfig) (paths : List FilePath)
    (filename : String) (line : Int) :
    ((fs.comments paths).flatMap (review config)).filter (Issue.isAt filename line) =
      ((fs.comments (paths.filter (·.render == filename))).flatMap (review config)).filter
        (Issue.isAt filename line) := by
  induction paths with
  | nil => rfl
  | cons path paths ih =>
    rw [comments_cons, List.flatMap_append, List.filter_append, ih, List.filter_cons]
    split
    · rw [comments_cons, List.flatMap_append, List.filter_append]
    · next hname =>
      have hnone : ((fs.commentsOf path).flatMap (review config)).filter
          (Issue.isAt filename line) = [] := by
        rw [List.filter_eq_nil_iff]
        intro issue hissue hat
        obtain ⟨comment, hcomment, hreview⟩ := List.mem_flatMap.mp hissue
        simp only [Issue.isAt, Bool.and_eq_true, beq_iff_eq] at hat
        rw [filename_of_mem_review hcomment hreview] at hat
        exact hname (beq_iff_eq.mpr hat.1)
      rw [hnone, List.nil_append]

/-- **The issues of a line do not depend on the order of the files.** -/
lemma agreeByLine_of_perm (h : paths.Perm paths') (hpaths : ∀ path ∈ paths, path.WellFormed)
    (config : RuleConfig) :
    AgreeByLine ((fs.comments paths).flatMap (review config))
      ((fs.comments paths').flatMap (review config)) := by
  intro filename line
  rw [filter_isAt_issues, filter_isAt_issues fs config paths', filter_render_eq_of_perm h hpaths]

/-- The report on the comments of these files. -/
def report (fs : FileSystem) (config : RuleConfig) (threshold : Nat) (paths : List FilePath) :
    Report where
  issues := (fs.comments paths).flatMap (review config)
  threshold := threshold

lemma report_perm (h : paths.Perm paths') (hpaths : ∀ path ∈ paths, path.WellFormed)
    (config : RuleConfig) (threshold : Nat) :
    (fs.report config threshold paths).text = (fs.report config threshold paths').text ∧
      (fs.report config threshold paths).exitCode = (fs.report config threshold paths').exitCode :=
  Report.text_eq_of_agreeByLine ((comments_perm h).flatMap_right (review config)) rfl
    (agreeByLine_of_perm h hpaths config)

end FileSystem

/-! ## Runs over paths in any order -/

/-- The exit code of a run that fails. -/
def FileSystem.LintFailure.exitCode : LintFailure → Nat
  | .configuration fault => if fault.isReported then 2 else 1
  | .refusal _ => 1
  | .noFiles => 2
  | .load _ => 2

/-- A lint run with other paths. -/
def Command.lintOver [Grammars] [Configuration.Wording] (fs : FileSystem) (verbose : Bool)
    (options : LintOptions) (paths : List FilePath) : Outcome :=
  run fs ⟨verbose, .lint { options with paths := paths }⟩

section

variable [Grammars] [Configuration.Wording] {fs : FileSystem} {options : LintOptions}
  {paths paths' : List FilePath}

/-- **A run that fails prints nothing**, and its exit code tells what kind of failure it is. -/
lemma Command.lintOver_of_error {failure : FileSystem.LintFailure}
    (h : fs.lint { options with paths := paths } = .error failure) (verbose : Bool) :
    (lintOver fs verbose options paths).exitCode = failure.exitCode ∧
      (lintOver fs verbose options paths).stdout = "" := by
  rw [lintOver, run]
  dsimp only
  rw [lintOutcome, h]
  cases failure with
  | configuration fault =>
    dsimp only [FileSystem.LintFailure.exitCode]
    split <;> exact ⟨rfl, rfl⟩
  | refusal failure => exact ⟨rfl, rfl⟩
  | noFiles => exact ⟨rfl, rfl⟩
  | load failure => exact ⟨rfl, rfl⟩

lemma Command.lintOver_of_loads {config : RuleConfig} {files : List FilePath}
    (hconfig : fs.lintConfig options = .ok config) (hfiles : fs.collect paths = .ok files)
    (hne : files ≠ []) (h : fs.Loads files) (verbose : Bool) :
    lintOver fs verbose options paths =
      { stdout := (fs.report config (Severity.threshold options.severity) files).text
        stderr := Outcome.logged (if verbose then files.flatMap (Log.linting config fs) else [])
        ending := .exited
          (fs.report config (Severity.threshold options.severity) files).exitCode } := by
  have hconfig' : fs.lintConfig { options with paths := paths } = .ok config := hconfig
  rw [lintOver, run_lint_of_ok (FileSystem.lint_of_loads hconfig' hfiles hne h),
    FileSystem.lintLog_of_loads hconfig' hfiles h]
  rfl

/-- **What two runs come to whose paths are in another order**: both fail, in the same way, or both
get to all of their files. -/
lemma FileSystem.lint_perm (fs : FileSystem) (options : LintOptions) (h : paths.Perm paths') :
    (∃ failure failure', fs.lint { options with paths := paths } = .error failure ∧
        fs.lint { options with paths := paths' } = .error failure' ∧
        failure.exitCode = failure'.exitCode) ∨
      ∃ config, fs.lintConfig options = .ok config ∧ fs.sources paths ≠ [] ∧
        fs.Loads (fs.sources paths) ∧ fs.collect paths = .ok (fs.sources paths) ∧
        fs.collect paths' = .ok (fs.sources paths') := by
  have hsame : ∀ ps : List FilePath,
      fs.lintConfig { options with paths := ps } = fs.lintConfig options := fun _ => rfl
  cases hconfig : fs.lintConfig options with
  | error fault =>
    exact Or.inl ⟨_, _, lint_of_config_error ((hsame paths).trans hconfig),
      lint_of_config_error ((hsame paths').trans hconfig), rfl⟩
  | ok config =>
    have hconfig' := fun ps => (hsame ps).trans hconfig
    rcases collect_cases fs paths with
      ⟨⟨path, hpath, failure, hrefusal⟩, failure, hcollect⟩ | ⟨hnone, hcollect⟩
    · rcases collect_cases fs paths' with ⟨-, failure', hcollect'⟩ | ⟨hnone', -⟩
      · exact Or.inl ⟨_, _, lint_of_collect_error (hconfig' paths) hcollect,
          lint_of_collect_error (hconfig' paths') hcollect', rfl⟩
      · rw [hnone' path (h.mem_iff.mp hpath)] at hrefusal
        cases hrefusal
    · have hcollect' : fs.collect paths' = .ok (fs.sources paths') :=
        collect_eq_ok fun path hpath => hnone path (h.mem_iff.mpr hpath)
      have hfiles : (fs.sources paths).Perm (fs.sources paths') := sources_perm h
      by_cases hne : fs.sources paths = []
      · have hne' : fs.sources paths' = [] := (hne ▸ hfiles).nil_eq.symm
        rw [hne] at hcollect
        rw [hne'] at hcollect'
        exact Or.inl ⟨_, _, lint_of_no_files (hconfig' paths) hcollect,
          lint_of_no_files (hconfig' paths') hcollect', rfl⟩
      · have hne' : fs.sources paths' ≠ [] := fun hnil => hne (hnil ▸ hfiles).eq_nil
        by_cases hloads : fs.Loads (fs.sources paths)
        · exact Or.inr ⟨config, rfl, hne, hloads, hcollect, hcollect'⟩
        · obtain ⟨failure, hlint⟩ := lint_of_not_loads (hconfig' paths) hcollect hne hloads
          obtain ⟨failure', hlint'⟩ := lint_of_not_loads (hconfig' paths') hcollect' hne'
            fun hloads' => hloads (loads_perm hfiles.symm hloads')
          exact Or.inl ⟨_, _, hlint, hlint', rfl⟩

end

/-- **The order of the paths does not matter.**  In a file system whose names are parts of a path,
two runs over the same paths in another order print the same and end with the same exit code.  Runs
that come to a report have nothing but the log on their error output: under the configuration of the
run it has the same lines about a file in both, and it takes the files as they were collected. -/
theorem paths_in_any_order [Grammars] [Configuration.Wording] {fs : FileSystem}
    (hfs : fs.WellNamed) (verbose : Bool) (options : LintOptions) {texts texts' : List String}
    (h : texts.Perm texts') :
    let paths := texts.map FilePath.ofString
    let paths' := texts'.map FilePath.ofString
    let outcome := Command.lintOver fs verbose options paths
    let outcome' := Command.lintOver fs verbose options paths'
    outcome.exitCode = outcome'.exitCode ∧ outcome.stdout = outcome'.stdout ∧
      ∀ report, fs.lint { options with paths := paths } = .ok report →
        ∃ config files files' report', fs.lintConfig options = .ok config ∧
          fs.collect paths = .ok files ∧ fs.collect paths' = .ok files' ∧ files.Perm files' ∧
          fs.lint { options with paths := paths' } = .ok report' ∧
          outcome.stderr = Outcome.logged
            (if verbose then files.flatMap (Log.linting config fs) else []) ∧
          outcome'.stderr = Outcome.logged
            (if verbose then files'.flatMap (Log.linting config fs) else []) := by
  dsimp only
  have hpaths : (texts.map FilePath.ofString).Perm (texts'.map FilePath.ofString) := h.map _
  have hread : ∀ path ∈ texts.map FilePath.ofString, path.WellFormed := by
    intro path hpath
    obtain ⟨text, -, rfl⟩ := List.mem_map.mp hpath
    exact FilePath.wellFormed_ofString text
  generalize texts.map FilePath.ofString = paths at hpaths hread ⊢
  generalize texts'.map FilePath.ofString = paths' at hpaths ⊢
  rcases FileSystem.lint_perm fs options hpaths with
    ⟨failure, failure', hlint, hlint', hcode⟩ | ⟨config, hconfig, hne, hloads, hcollect, hcollect'⟩
  · have hend := Command.lintOver_of_error hlint verbose
    have hend' := Command.lintOver_of_error hlint' verbose
    refine ⟨?_, ?_, ?_⟩
    · rw [hend.1, hcode, hend'.1]
    · rw [hend.2, hend'.2]
    · intro report hreport
      rw [hlint] at hreport
      cases hreport
  · have hfiles : (fs.sources paths).Perm (fs.sources paths') := FileSystem.sources_perm hpaths
    have hne' : fs.sources paths' ≠ [] := fun hnil => hne (hnil ▸ hfiles).eq_nil
    have hloads' : fs.Loads (fs.sources paths') := FileSystem.loads_perm hfiles hloads
    have hlint' : fs.lint { options with paths := paths' } = .ok _ :=
      FileSystem.lint_of_loads hconfig hcollect' hne' hloads'
    obtain ⟨htext, hcode⟩ := FileSystem.report_perm hfiles
      (FileSystem.wellFormed_of_mem_sources hfs hread) config (Severity.threshold options.severity)
    rw [Command.lintOver_of_loads hconfig hcollect hne hloads,
      Command.lintOver_of_loads hconfig hcollect' hne' hloads']
    exact ⟨hcode, htext, fun _ _ =>
      ⟨config, _, _, _, hconfig, hcollect, hcollect', hfiles, hlint', rfl, rfl⟩⟩

/-- Two Go files with a directive each, one of them in a directory. -/
def scattered : FileSystem :=
  (FileSystem.writeFile {} (.ofString "d/a.go") ("//nolint\n".toList.map Char.toUInt8)).writeFile
    (.ofString "b.go") ("//nolint:errcheck\n// nolint\n".toList.map Char.toUInt8)

lemma scattered_wellNamed : scattered.WellNamed :=
  (FileSystem.wellNamed_empty.writeFile (FilePath.wellFormed_ofString _) _).writeFile
    (FilePath.wellFormed_ofString _) _

lemma scattered_loads :
    scattered.Loads (["d/a.go", "b.go", "d/a.go"].map FilePath.ofString) := by
  intro path hpath
  simp only [List.map_cons, List.map_nil, List.mem_cons, List.not_mem_nil, or_false] at hpath
  rcases hpath with rfl | rfl | rfl <;> exact FileSystem.exists_load_eq_ok ⟨.go, rfl⟩ ⟨_, rfl⟩

/-- A file that is given twice, once through its directory, is reported on twice in either order,
and logged where it was collected. -/
theorem scattered_in_any_order :
    let paths := ["d", "b.go", "./d/a.go"].map FilePath.ofString
    let paths' := ["b.go", "./d/a.go", "d"].map FilePath.ofString
    let outcome := Command.lintOver scattered true { paths := [] } paths
    let outcome' := Command.lintOver scattered true { paths := [] } paths'
    scattered.WellNamed ∧ ["d", "b.go", "./d/a.go"].Perm ["b.go", "./d/a.go", "d"] ∧
      outcome.exitCode = 1 ∧ outcome.exitCode = outcome'.exitCode ∧
      outcome.stdout = outcome'.stdout ∧
      ∃ report files files', scattered.lint { paths := paths } = .ok report ∧
        files = ["d/a.go", "b.go", "d/a.go"].map FilePath.ofString ∧
        files' = ["b.go", "d/a.go", "d/a.go"].map FilePath.ofString ∧
        outcome.stderr = Outcome.logged (files.flatMap (Log.linting {} scattered)) ∧
        outcome'.stderr = Outcome.logged (files'.flatMap (Log.linting {} scattered)) := by
  have hperm : ["d", "b.go", "./d/a.go"].Perm ["b.go", "./d/a.go", "d"] := by decide
  have hconfig : scattered.lintConfig { paths := [] } = .ok {} := rfl
  have hcollect : scattered.collect (["d", "b.go", "./d/a.go"].map FilePath.ofString) =
      .ok (["d/a.go", "b.go", "d/a.go"].map FilePath.ofString) := by decide +kernel
  have hcollect' : scattered.collect (["b.go", "./d/a.go", "d"].map FilePath.ofString) =
      .ok (["b.go", "d/a.go", "d/a.go"].map FilePath.ofString) := by decide +kernel
  have hlint : scattered.lint { paths := ["d", "b.go", "./d/a.go"].map FilePath.ofString } = _ :=
    FileSystem.lint_of_loads hconfig hcollect (by decide) scattered_loads
  obtain ⟨hcode, hstdout, hlog⟩ :=
    paths_in_any_order scattered_wellNamed true { paths := [] } hperm
  obtain ⟨config, files, files', -, hconfig', hfiles, hfiles', -, -, hstderr, hstderr'⟩ :=
    hlog _ hlint
  obtain rfl := Except.ok.inj (hconfig.symm.trans hconfig')
  refine ⟨scattered_wellNamed, hperm, by decide +kernel, hcode, hstdout, _, files, files',
    hlint, ?_, ?_, hstderr, hstderr'⟩
  · exact Except.ok.inj (hfiles.symm.trans hcollect)
  · exact Except.ok.inj (hfiles'.symm.trans hcollect')

/-- **The log follows the paths**, also in a run that finds nothing wrong. -/
theorem log_follows_paths :
    let outcome := Command.lintOver scattered true { paths := [], severity := "ERROR" }
      (["d", "b.go"].map FilePath.ofString)
    let outcome' := Command.lintOver scattered true { paths := [], severity := "ERROR" }
      (["b.go", "d"].map FilePath.ofString)
    scattered.WellNamed ∧ ["d", "b.go"].Perm ["b.go", "d"] ∧
      outcome.ending = .exited 0 ∧ outcome'.ending = .exited 0 ∧
      outcome.stderr ≠ outcome'.stderr :=
  ⟨scattered_wellNamed, by decide, by decide +kernel, by decide +kernel, by decide +kernel⟩

end DirectiveLint
