import DirectiveLint.Proofs.Agreement
import DirectiveLint.Proofs.AnyOrder
import Mathlib.Algebra.GroupWithZero.Nat

/-!
# Reporting unused directives

A run can be asked to report every directive as one that may be unused, whatever its settings say.
The candidates rank lowest of all issues, so as long as the threshold is above them they can be seen
in the total alone.

**What is found.**  Looking for unused directives adds candidates to a review and nothing else
(`filter_review_reportingUnused`), and it is known how many: one for each linter of a directive, and
one for a directive that names none (`length_findings_reportingUnused`).

**What is printed.**  Reports that have the same issues but for the candidates are printed alike
(`Report.prints_of_shown_eq`), whichever candidates stand between the others.

**How a run fails** is no matter of the configuration, once there is one
(`Linter.analyzeFiles_error_congr`).

`reporting_unused_adds_candidates` puts the three together.
-/

namespace DirectiveLint

open Directive

/-! ## What is found -/

/-- The configuration with the check for unused directives switched on. -/
def RuleConfig.reportingUnused (config : RuleConfig) : RuleConfig :=
  { config with checks := { config.checks with unused := true } }

/-- The linters that a comment leaves for a later pass to confirm: one at least if the comment
follows the grammar, and none if it names the rule. -/
def Comment.unconfirmed (ruleName : String) (comment : Comment) : Nat :=
  match read comment with
  | .ok d => if ruleName ∈ d.linters then 0 else max 1 d.linters.length
  | .error _ => 0

/-- Candidates are what ranks lowest. -/
lemma Finding.severity_eq_info_iff {finding : Finding} :
    finding.severity = .info ↔ finding.check? = some .unused := by
  cases finding <;> simp [severity, check?]

section

variable {config : RuleConfig} {comment : Comment}

/-- **Looking for unused directives changes nothing but the candidates.** -/
lemma filter_review_reportingUnused (config : RuleConfig) (comment : Comment) :
    (review config.reportingUnused comment).filter (fun issue => issue.severity ≠ .info) =
      (review config comment).filter fun issue => issue.severity ≠ .info := by
  obtain ⟨checks, exempt, ruleName⟩ := config
  have hchecks : ∀ other, other ≠ Check.unused →
      ({ checks with unused := true } : Checks).has other = checks.has other := by
    intro other hother
    cases other with
    | unused => exact absurd rfl hother
    | _ => rfl
  rw [RuleConfig.reportingUnused, review_eq_filter, review_eq_filter checks, List.filter_filter,
    List.filter_filter]
  refine List.filter_congr fun issue _ => ?_
  by_cases hinfo : issue.severity = .info
  · simp [hinfo]
  · rw [Checks.keeps_congr hchecks fun hcheck => hinfo (Finding.severity_eq_info_iff.mpr hcheck)]

lemma Directive.length_candidates (d : Directive) :
    d.candidates.length = max 1 d.linters.length := by
  rw [candidates]
  cases d.linters <;> simp

lemma Directive.length_findings_reportingUnused (hunused : config.checks.unused = false)
    (d : Directive) :
    (d.findings config.reportingUnused).length =
      (d.findings config).length + max 1 d.linters.length := by
  have hspecific : config.reportingUnused.checks.specific = config.checks.specific := rfl
  have hreporting : config.reportingUnused.checks.unused = true := rfl
  have hexplanation : config.reportingUnused.checks.explanation = config.checks.explanation := rfl
  have hneeds : d.needsExplanation config.reportingUnused = d.needsExplanation config := rfl
  rw [findings, findings, hspecific, hreporting, hexplanation, hneeds, hunused, if_pos rfl,
    if_neg Bool.false_ne_true]
  simp only [List.length_append, List.length_map, length_candidates, List.length_nil]
  omega

/-- **How much looking for unused directives adds** to what is found about a comment. -/
lemma length_findings_reportingUnused (hunused : config.checks.unused = false)
    (comment : Comment) :
    (findings config.reportingUnused comment).length =
      (findings config comment).length + comment.unconfirmed config.ruleName := by
  have hexempt : isSelfExempt config.reportingUnused comment = isSelfExempt config comment := rfl
  have hspacing : spacing config.reportingUnused comment.text.toList =
    spacing config comment.text.toList := rfl
  rw [findings, findings, hexempt, hspacing, Comment.unconfirmed]
  cases hread : read comment with
  | error fault => split <;> rfl
  | ok d =>
    dsimp only
    have hiff := targets_iff_mem_linters hread config.ruleName
    rw [resembles_of_read hread, isSelfExempt]
    by_cases hname : config.ruleName ∈ d.linters
    · rw [hiff.mpr hname, if_pos hname]
      rfl
    · rw [Bool.eq_false_iff.mpr (mt hiff.mp hname), if_neg hname]
      simp [d.length_findings_reportingUnused hunused, Nat.add_assoc]

lemma length_flatMap_review_reportingUnused (hunused : config.checks.unused = false)
    (comments : List Comment) :
    (comments.flatMap (review config.reportingUnused)).length =
      (comments.flatMap (review config)).length +
        (comments.map (Comment.unconfirmed config.ruleName)).sum := by
  induction comments with
  | nil => rfl
  | cons comment comments ih =>
    rw [List.flatMap_cons, List.length_append, ih, List.flatMap_cons, List.length_append,
      List.map_cons, List.sum_cons, review, List.length_map,
      length_findings_reportingUnused hunused, review, List.length_map]
    omega

lemma filter_flatMap_review_reportingUnused (config : RuleConfig) (comments : List Comment) :
    (comments.flatMap (review config.reportingUnused)).filter
        (fun issue => issue.severity ≠ .info) =
      (comments.flatMap (review config)).filter fun issue => issue.severity ≠ .info := by
  rw [List.filter_flatMap, List.filter_flatMap]
  exact List.flatMap_congr fun comment _ => filter_review_reportingUnused config comment

end

namespace Settings

lemma toRuleConfig_reportingUnused (settings : Settings) :
    settings.reportingUnused.toRuleConfig = settings.toRuleConfig.reportingUnused := rfl

/-- Settings that do not allow unused directives have them reported anyway. -/
lemma reportingUnused_of_not_allowUnused {settings : Settings} (h : settings.allowUnused = false) :
    settings.reportingUnused = settings := by
  rw [reportingUnused, ← h]

lemma length_flatMap_review (settings : Settings) (comments : List Comment) :
    (comments.flatMap (review settings.reportingUnused.toRuleConfig)).length =
      (comments.flatMap (review settings.toRuleConfig)).length +
        if settings.allowUnused then
          (comments.map (Comment.unconfirmed settings.ruleName)).sum
        else 0 := by
  cases h : settings.allowUnused with
  | true =>
    have hunused : settings.toRuleConfig.checks.unused = false := congrArg not h
    rw [toRuleConfig_reportingUnused, length_flatMap_review_reportingUnused hunused]
    rfl
  | false =>
    rw [reportingUnused_of_not_allowUnused h]
    rfl

end Settings

/-! ## What is printed -/

namespace Report

variable {report report' : Report}

/-- **The candidates are not seen from above their rank.** -/
lemma shown_congr (h : Severity.info.rank < report.threshold)
    (hthreshold : report'.threshold = report.threshold)
    (hissues : report'.issues.filter (fun issue => issue.severity ≠ .info) =
      report.issues.filter fun issue => issue.severity ≠ .info) :
    report'.shown = report.shown := by
  -- what is shown is not a candidate, so leaving the candidates out first changes nothing
  have hshown : ∀ issues : List Issue,
      issues.filter (fun issue => report.threshold ≤ issue.severity.rank) =
        (issues.filter fun issue => issue.severity ≠ .info).filter
          fun issue => report.threshold ≤ issue.severity.rank := by
    intro issues
    rw [List.filter_filter]
    refine List.filter_congr fun issue _ => ?_
    by_cases hinfo : issue.severity = .info
    · simp [hinfo, h]
    · simp [hinfo]
  rw [shown, shown, hthreshold, hshown, hissues, ← hshown]

/-- **Reports that show the same are printed alike**, and the totals alone tell them apart. -/
lemma prints_of_shown_eq (h : report'.shown = report.shown)
    (hthreshold : report'.threshold = report.threshold) (log : String) :
    Prints report'.issues report.threshold report.entries
      { stdout := report'.text, stderr := log, ending := .exited report'.exitCode } := by
  have hentries : report'.entries = report.entries := by rw [entries, h, entries]
  rw [← hthreshold, ← hentries]
  exact report'.prints log

end Report

/-! ## How a run fails -/

section Runs

variable [Grammars]

/-- Files fail to be analysed whatever the rules are, and over the same file. -/
lemma Linter.analyzeFiles_error_congr {linter : Linter} {fs : FileSystem} {files : List FilePath}
    {failure : LoadFailure} (h : linter.analyzeFiles fs files = .error failure)
    (linter' : Linter) : linter'.analyzeFiles fs files = .error failure := by
  rw [analyzeFiles_eq] at h ⊢
  cases hfiles : files.mapM fs.load with
  | error first =>
    rw [hfiles] at h
    obtain rfl := Except.error.inj h
    rfl
  | ok loaded =>
    rw [hfiles] at h
    cases h

variable [Configuration.Wording]

lemma FileSystem.lint_reportUnused_of_loads {fs : FileSystem} {options : LintOptions}
    {settings : Settings} {files : List FilePath}
    (hsettings : Configuration.load fs options.config = .ok settings)
    (hfiles : fs.collect options.paths = .ok files) (hne : files ≠ []) (hloads : fs.Loads files)
    (reportUnused : Bool) :
    fs.lint { options with reportUnused := reportUnused } = .ok (fs.report
      (if reportUnused then settings.reportingUnused else settings).toRuleConfig
      (Severity.threshold options.severity) files) := by
  refine lint_of_loads ?_ hfiles hne hloads
  rw [lintConfig, hsettings]
  rfl

/-- A run fails alike whether or not it reports unused directives, or it gets to all of its
files. -/
lemma FileSystem.lint_reportUnused_cases (fs : FileSystem) (options : LintOptions) :
    (∃ failure, fs.lint { options with reportUnused := false } = .error failure ∧
        fs.lint { options with reportUnused := true } = .error failure) ∨
      ∃ settings files, Configuration.load fs options.config = .ok settings ∧
        fs.collect options.paths = .ok files ∧ files ≠ [] ∧ fs.Loads files := by
  have hload : ∀ reportUnused, fs.lintConfig { options with reportUnused := reportUnused } =
      (Configuration.load fs options.config).map fun settings =>
        (if reportUnused then settings.reportingUnused else settings).toRuleConfig :=
    fun _ => rfl
  cases hsettings : Configuration.load fs options.config with
  | error fault =>
    rw [hsettings] at hload
    exact Or.inl ⟨_, lint_of_config_error (hload false), lint_of_config_error (hload true)⟩
  | ok settings =>
    rw [hsettings] at hload
    cases hfiles : fs.collect options.paths with
    | error failure =>
      exact Or.inl ⟨_, lint_of_collect_error (hload false) hfiles,
        lint_of_collect_error (hload true) hfiles⟩
    | ok files =>
      by_cases hne : files = []
      · subst hne
        exact Or.inl ⟨_, lint_of_no_files (hload false) hfiles,
          lint_of_no_files (hload true) hfiles⟩
      · by_cases hloads : fs.Loads files
        · exact Or.inr ⟨settings, files, rfl, rfl, hne, hloads⟩
        · left
          cases hissues : (Linter.ofConfig settings.toRuleConfig).analyzeFiles fs files with
          | ok issues => exact absurd (Linter.analyzeFiles_eq_ok_iff.mp hissues).1 hloads
          | error failure =>
            have hfails := Linter.analyzeFiles_error_congr hissues
            refine ⟨.load failure, ?_, ?_⟩
            · rw [lint_of_collect (hload false) hfiles hne, hfails]
              rfl
            · rw [lint_of_collect (hload true) hfiles hne, hfails]
              rfl

/-- **A run that fails prints nothing, and ends with a message behind the log** that its failure
and its configuration file alone decide. -/
lemma Command.lintOutcome_of_error (config : FilePath) (failure : FileSystem.LintFailure) :
    ∃ message ending, ∀ fs options log, options.config = config →
      fs.lint options = .error failure →
      lintOutcome fs options log =
        { stderr := Outcome.logged log ++ message, ending := ending } := by
  have hbroken : ∀ log abortion, Outcome.brokenOff log abortion =
      { stderr := Outcome.logged log ++ "", ending := .aborted abortion } := by
    intro log abortion
    rw [String.append_empty]
    rfl
  cases failure with
  | configuration fault =>
    cases hreported : fault.isReported with
    | true =>
      refine ⟨Text.printed ["Error: " ++ fault.message config], .exited 2, ?_⟩
      rintro fs options log rfl h
      rw [lintOutcome, h]
      exact if_pos hreported
    | false =>
      refine ⟨"", .aborted (.configuration fault), ?_⟩
      rintro fs options log - h
      rw [lintOutcome, h, ← hbroken]
      exact if_neg (by simp [hreported])
  | refusal failure =>
    refine ⟨"", .aborted (.refusal failure), ?_⟩
    rintro fs options log - h
    rw [lintOutcome, h, ← hbroken]
  | noFiles =>
    refine ⟨Text.printed ["Error: No source files found"], .exited 2, ?_⟩
    rintro fs options log - h
    rw [lintOutcome, h]
    rfl
  | load failure =>
    refine ⟨Text.printed ["Error: " ++ failure.message], .exited 2, ?_⟩
    rintro fs options log - h
    rw [lintOutcome, h]
    rfl

/-! ## Two runs -/

/-- **Reporting unused directives only adds candidates.**  Under a threshold above them, a run that
fails fails alike with and without, the log apart.  A run that does not prints the same entries, in
the same order, and ends alike; its issues are the same but for the candidates.  If the settings
allow unused directives, the total grows by what the directives leave to confirm; if they do not,
it stays. -/
theorem reporting_unused_adds_candidates (fs : FileSystem) (verbose : Bool)
    {options : LintOptions} (h : Severity.info.rank < Severity.threshold options.severity) :
    let plain := { options with reportUnused := false }
    let reporting := { options with reportUnused := true }
    (∀ failure, fs.lint plain = .error failure → fs.lint reporting = .error failure ∧
      ∃ message ending,
        Command.run fs ⟨verbose, .lint plain⟩ =
            { stderr := Outcome.logged (if verbose then fs.lintLog plain else []) ++ message
              ending := ending } ∧
          Command.run fs ⟨verbose, .lint reporting⟩ =
            { stderr := Outcome.logged (if verbose then fs.lintLog reporting else []) ++ message
              ending := ending }) ∧
    ∀ report, fs.lint plain = .ok report → ∃ settings files report' printed,
      Configuration.load fs options.config = .ok settings ∧
        fs.collect options.paths = .ok files ∧ fs.lint reporting = .ok report' ∧
        Prints report.issues (Severity.threshold options.severity) printed
          (Command.run fs ⟨verbose, .lint plain⟩) ∧
        Prints report'.issues (Severity.threshold options.severity) printed
          (Command.run fs ⟨verbose, .lint reporting⟩) ∧
        report'.issues.filter (fun issue => issue.severity ≠ .info) =
          report.issues.filter (fun issue => issue.severity ≠ .info) ∧
        report'.issues.length = report.issues.length +
          if settings.allowUnused then
            ((fs.directives files).map (Comment.unconfirmed settings.ruleName)).sum
          else 0 := by
  dsimp only
  refine ⟨?failing, ?reporting⟩
  case failing =>
    intro failure hfailure
    have hreporting : fs.lint { options with reportUnused := true } = .error failure := by
      rcases fs.lint_reportUnused_cases options with ⟨first, hplain, hreporting⟩ |
        ⟨settings, files, hsettings, hfiles, hne, hloads⟩
      · rw [hreporting, ← hplain, hfailure]
      · rw [FileSystem.lint_reportUnused_of_loads hsettings hfiles hne hloads] at hfailure
        cases hfailure
    obtain ⟨message, ending, houtcome⟩ := Command.lintOutcome_of_error options.config failure
    exact ⟨hreporting, message, ending, houtcome fs _ _ rfl hfailure,
      houtcome fs _ _ rfl hreporting⟩
  case reporting =>
    intro report hreport
    rcases fs.lint_reportUnused_cases options with ⟨first, hplain, -⟩ |
      ⟨settings, files, hsettings, hfiles, hne, hloads⟩
    · rw [hplain] at hreport
      cases hreport
    have hplain := FileSystem.lint_reportUnused_of_loads hsettings hfiles hne hloads false
    have hreporting := FileSystem.lint_reportUnused_of_loads hsettings hfiles hne hloads true
    obtain rfl := Except.ok.inj (hplain.symm.trans hreport)
    have hissues := filter_flatMap_review_reportingUnused settings.toRuleConfig (fs.comments files)
    refine ⟨settings, files, _,
      (fs.report settings.toRuleConfig (Severity.threshold options.severity) files).entries,
      hsettings, hfiles, hreporting, ?plain, ?reporting, hissues, ?total⟩
    case plain =>
      rw [Command.run_lint_of_ok hplain]
      exact Report.prints _ _
    case reporting =>
      have hshown : (fs.report settings.reportingUnused.toRuleConfig
          (Severity.threshold options.severity) files).shown =
          (fs.report settings.toRuleConfig (Severity.threshold options.severity) files).shown :=
        Report.shown_congr h rfl hissues
      rw [Command.run_lint_of_ok hreporting]
      exact Report.prints_of_shown_eq hshown rfl _
    case total =>
      have htotal := settings.length_flatMap_review (fs.directives files)
      rw [FileSystem.directives, flatMap_review_filter_resembles, flatMap_review_filter_resembles]
        at htotal
      exact htotal

end Runs

/-- A Go file with a directive for three linters, one for the rule, a malformed one, and one that
covers every linter. -/
def fourComments : FileSystem where
  files :=
    [(["a.go"],
      "//nolint:a,b,a // why\n//nolint:nolintlint,c\n// nolint:,\n// nolint\n".toList.map
        Char.toUInt8)]

def fourCommentsPath : LintOptions where
  paths := [⟨"", ["a.go"]⟩]

/-- Five issues of the last two comments are printed in either run, and the first and the last
comment leave four linters to confirm. -/
theorem fourComments_reporting_unused :
    let plain := { fourCommentsPath with reportUnused := false }
    let reporting := { fourCommentsPath with reportUnused := true }
    Severity.info.rank < Severity.threshold fourCommentsPath.severity ∧
      ∃ report report' printed, fourComments.lint plain = .ok report ∧
        fourComments.lint reporting = .ok report' ∧
        Prints report.issues 2 printed (Command.run fourComments ⟨false, .lint plain⟩) ∧
        Prints report'.issues 2 printed (Command.run fourComments ⟨false, .lint reporting⟩) ∧
        printed.length = 5 ∧ report.issues.length = 5 ∧ report'.issues.length = 9 := by
  have hsettings : Configuration.load fourComments fourCommentsPath.config = .ok {} := rfl
  have hfiles : fourComments.collect fourCommentsPath.paths = .ok fourCommentsPath.paths := rfl
  have hloads : fourComments.Loads fourCommentsPath.paths :=
    List.forall_mem_singleton.mpr (FileSystem.exists_load_eq_ok ⟨.go, rfl⟩ ⟨_, rfl⟩)
  have hlint := FileSystem.lint_reportUnused_of_loads hsettings hfiles (by decide) hloads false
  have h : Severity.info.rank < Severity.threshold fourCommentsPath.severity := by decide
  obtain ⟨settings, files, report', printed, hsettings', hfiles', hreporting, hprints, hprints', -,
    htotal⟩ := (reporting_unused_adds_candidates fourComments false h).2 _ hlint
  obtain rfl := Except.ok.inj (hsettings.symm.trans hsettings')
  obtain rfl := Except.ok.inj (hfiles.symm.trans hfiles')
  refine ⟨h, _, report', printed, hlint, hreporting, hprints, hprints', ?_, by decide +kernel, ?_⟩
  · rw [hprints.shown.length_eq]
    decide +kernel
  · rw [htotal]
    decide +kernel

end DirectiveLint
