import DirectiveLint.Proofs.AnyOrder

/-!
# Thresholds

A threshold decides which issues are printed.  It decides nothing else: a run looks at it once
everything has been found, so two runs that differ in their thresholds fail alike or find the same.

* `FileSystem.lint_withThreshold` — a run under another threshold has the same report but for it.
* `Report.entries_withThreshold` — a higher threshold deletes entries and moves none.  Deleting
  comes before the sort, so this is where the sort has to commute with it.
* `Report.exitCode_withThreshold_le`, `Report.exitCode_withThreshold_eq` — what is left of the exit
  code.  Warnings decide it, so it stays as long as no warning is deleted.
* `higher_threshold_filters_entries` — **the statement for two runs.**
-/

namespace DirectiveLint

namespace Report

/-- The report on the same issues under another threshold. -/
def withThreshold (report : Report) (threshold : Nat) : Report :=
  { report with threshold := threshold }

variable {report : Report} {threshold : Nat}

lemma shown_withThreshold (h : report.threshold ≤ threshold) :
    (report.withThreshold threshold).shown =
      report.shown.filter fun issue => threshold ≤ issue.severity.rank := by
  rw [shown, shown, List.filter_filter]
  refine List.filter_congr fun issue _ => ?_
  have hrank : threshold ≤ issue.severity.rank ↔
      threshold ≤ issue.severity.rank ∧ report.threshold ≤ issue.severity.rank :=
    (and_iff_left_of_imp h.trans).symm
  rw [← Bool.decide_and]
  exact decide_eq_decide.mpr hrank

/-- **A higher threshold deletes entries and moves none.**  Both lists are in order, so it is enough
to compare them line by line, and within a line the sort has moved nothing. -/
lemma entries_withThreshold (h : report.threshold ≤ threshold) :
    (report.withThreshold threshold).entries =
      report.entries.filter fun issue => threshold ≤ issue.severity.rank := by
  have hordered := fun report : Report => report.entries_pairwise.imp entryLe_iff.mpr
  refine AgreeByLine.eq_of_ordered (hordered _) ((hordered report).filter _) ?_
  intro filename line
  rw [filter_isAt_entries, shown_withThreshold h, List.filter_comm, ← filter_isAt_entries,
    List.filter_comm]

/-! ## The exit code -/

/-- What calls for action under the higher threshold is shown under the lower one as well. -/
lemma callsForAction_of_withThreshold (h : report.threshold ≤ threshold)
    (hcalls : (report.withThreshold threshold).callsForAction = true) :
    report.callsForAction = true := by
  rw [callsForAction, shown_withThreshold h, List.any_eq_true] at hcalls
  obtain ⟨issue, hissue, hrank⟩ := hcalls
  rw [callsForAction, List.any_eq_true]
  exact ⟨issue, (List.mem_filter.mp hissue).1, hrank⟩

/-- A threshold up to that of warnings deletes nothing that calls for action. -/
lemma callsForAction_withThreshold (h : report.threshold ≤ threshold)
    (hwarning : threshold ≤ Severity.warning.rank) :
    (report.withThreshold threshold).callsForAction = report.callsForAction := by
  rw [callsForAction, shown_withThreshold h, List.any_filter, callsForAction]
  refine congrArg report.shown.any (funext fun issue => ?_)
  rw [← Bool.decide_and]
  exact decide_eq_decide.mpr (and_iff_right_of_imp hwarning.trans)

lemma exitCode_withThreshold_le (h : report.threshold ≤ threshold) :
    (report.withThreshold threshold).exitCode ≤ report.exitCode := by
  rw [exitCode, exitCode]
  split
  · next hcalls => rw [if_pos (callsForAction_of_withThreshold h hcalls)]
  · exact Nat.zero_le _

lemma exitCode_withThreshold_eq (h : report.threshold ≤ threshold)
    (hwarning : threshold ≤ Severity.warning.rank) :
    (report.withThreshold threshold).exitCode = report.exitCode := by
  rw [exitCode, callsForAction_withThreshold h hwarning, exitCode]

end Report

/-! ## Two runs -/

section TwoRuns

variable [Grammars] [Configuration.Wording]

/-- **The threshold is looked at last.**  Under another one a run fails in the same way, or it has
the same report but for the threshold. -/
lemma FileSystem.lint_withThreshold (fs : FileSystem) (options : LintOptions) (severity : String) :
    fs.lint { options with severity := severity } =
      (fs.lint options).map fun report => report.withThreshold (Severity.threshold severity) := by
  have hsame : fs.lintConfig { options with severity := severity } = fs.lintConfig options := rfl
  cases hconfig : fs.lintConfig options with
  | error fault =>
    rw [lint_of_config_error hconfig, lint_of_config_error (hsame.trans hconfig)]
    rfl
  | ok config =>
    cases hfiles : fs.collect options.paths with
    | error failure =>
      rw [lint_of_collect_error hconfig hfiles, lint_of_collect_error (hsame.trans hconfig) hfiles]
      rfl
    | ok files =>
      by_cases hne : files = []
      · subst hne
        rw [lint_of_no_files hconfig hfiles, lint_of_no_files (hsame.trans hconfig) hfiles]
        rfl
      · rw [lint_of_collect hconfig hfiles hne, lint_of_collect (hsame.trans hconfig) hfiles hne]
        cases (Linter.ofConfig config).analyzeFiles fs files <;> rfl

lemma FileSystem.threshold_of_lint {fs : FileSystem} {options : LintOptions} {report : Report}
    (h : fs.lint options = .ok report) :
    report.threshold = Severity.threshold options.severity := by
  have hsame : fs.lint options = _ := fs.lint_withThreshold options options.severity
  rw [h] at hsame
  exact congrArg Report.threshold (Except.ok.inj hsame)

/-- **A higher threshold only filters what is printed.**  A run that fails fails in the same way
under another threshold.  If it does not, the run under the higher threshold has found the same
issues, and of the entries under the lower one it prints those that rank high enough, in the same
order.  Its exit code is not greater, and it is the same one up to the threshold of warnings. -/
theorem higher_threshold_filters_entries (fs : FileSystem) (verbose : Bool) {options : LintOptions}
    {severity : String} (h : Severity.threshold options.severity ≤ Severity.threshold severity) :
    let lower := Command.run fs ⟨verbose, .lint options⟩
    let higher := Command.run fs ⟨verbose, .lint { options with severity := severity }⟩
    (∀ failure, fs.lint options = .error failure → higher = lower) ∧
      ∀ report, fs.lint options = .ok report → ∃ printed printed',
        Prints report.issues (Severity.threshold options.severity) printed lower ∧
          Prints report.issues (Severity.threshold severity) printed' higher ∧
          printed' = printed.filter
            (fun issue => Severity.threshold severity ≤ issue.severity.rank) ∧
          higher.exitCode ≤ lower.exitCode ∧
          (Severity.threshold severity ≤ Severity.warning.rank →
            higher.exitCode = lower.exitCode) := by
  dsimp only
  have hlint := fs.lint_withThreshold options severity
  refine ⟨?failing, ?reporting⟩
  case failing =>
    intro failure hfailure
    rw [hfailure] at hlint
    show Command.lintOutcome fs _ _ = Command.lintOutcome fs options _
    rw [Command.lintOutcome, hlint, Command.lintOutcome, hfailure]
    rfl
  case reporting =>
    intro report hreport
    rw [hreport] at hlint
    rw [Command.run_lint_of_ok hreport, Command.run_lint_of_ok hlint]
    rw [← FileSystem.threshold_of_lint hreport] at h ⊢
    exact ⟨_, _, report.prints _, (report.withThreshold (Severity.threshold severity)).prints _,
      Report.entries_withThreshold h, Report.exitCode_withThreshold_le h,
      Report.exitCode_withThreshold_eq h⟩

end TwoRuns

/-- Of the five entries about two files, the one about a style is below the threshold of
warnings. -/
theorem twoFiles_above_warning :
    let higher := { twoPaths with severity := "warning" }
    Severity.threshold twoPaths.severity ≤ Severity.threshold "warning" ∧
      ∃ report printed printed', twoFiles.lint twoPaths = .ok report ∧
        Prints report.issues 2 printed (Command.run twoFiles ⟨false, .lint twoPaths⟩) ∧
        Prints report.issues 3 printed' (Command.run twoFiles ⟨false, .lint higher⟩) ∧
        printed.length = 5 ∧ printed'.length = 4 ∧
        (Command.run twoFiles ⟨false, .lint higher⟩).exitCode =
          (Command.run twoFiles ⟨false, .lint twoPaths⟩).exitCode := by
  have hconfig : twoFiles.lintConfig twoPaths = .ok {} := rfl
  have hfiles : twoFiles.collect twoPaths.paths = .ok twoPaths.paths := rfl
  have hloads : twoFiles.Loads twoPaths.paths := fun path hpath =>
    FileSystem.exists_load_eq_ok (twoFiles_legible hpath).1 (twoFiles_legible hpath).2
  have hlint := FileSystem.lint_of_loads hconfig hfiles (by decide) hloads
  have h : Severity.threshold twoPaths.severity ≤ Severity.threshold "warning" := by decide
  obtain ⟨printed, printed', hlower, hhigher, -, -, hcode⟩ :=
    (higher_threshold_filters_entries twoFiles false h).2 _ hlint
  refine ⟨h, _, printed, printed', hlint, hlower, hhigher, ?_, ?_, hcode (by decide)⟩
  · rw [hlower.shown.length_eq]
    decide +kernel
  · rw [hhigher.shown.length_eq]
    decide +kernel

end DirectiveLint
