import DirectiveLint.Configuration.Words
import DirectiveLint.Language.Scanners
import DirectiveLint.Proofs.Collected
import Mathlib.Logic.Basic
import Mathlib.Tactic.Lemma

/-!
# What a lint run prints

A lint run prints an entry for each issue that ranks high enough, and a line with the totals.  This
module ties what is printed to what the linter finds.

* `Report.entryLe_iff` — the order of entries: by file, then by line.  The sort keeps issues of one
  line in the order in which they were found (`Report.filter_isAt_entries`).
* `Report.exitCode_eq` — the exit code looks at nothing but the entries.
* `Prints` — all that is said of what is printed, and of how the run ends.
* `lint_prints_issues` — **a run prints the issues of the files it collects**, unless something
  keeps it from reading one of them.

Nothing is asked of the files but that they can be loaded.  That the linter then comes to an end is
part of the statement (`Linter.exists_analyzeFiles_eq_ok`).
-/

namespace DirectiveLint

/-! ## The order of entries -/

namespace Report

lemma entryLe_iff {a b : Issue} :
    entryLe a b = true ↔ a.position.filename < b.position.filename ∨
      a.position.filename = b.position.filename ∧ a.position.line ≤ b.position.line := by
  rw [entryLe]
  split
  · next h =>
    rw [beq_iff_eq] at h
    rw [decide_eq_true_eq, h, eq_self_iff_true, true_and,
      or_iff_right (String.lt_irrefl b.position.filename)]
  · next h =>
    rw [beq_iff_eq] at h
    simp [h]

lemma entryLe_trans (a b c : Issue) (hab : entryLe a b = true) (hbc : entryLe b c = true) :
    entryLe a c = true := by
  rw [entryLe_iff] at hab hbc ⊢
  rcases hab with hab | ⟨hab, hab'⟩
  · rcases hbc with hbc | ⟨hbc, -⟩
    · exact Or.inl (String.lt_trans hab hbc)
    · exact Or.inl (hbc ▸ hab)
  · rcases hbc with hbc | ⟨hbc, hbc'⟩
    · exact Or.inl (hab ▸ hbc)
    · exact Or.inr ⟨hab.trans hbc, Int.le_trans hab' hbc'⟩

lemma entryLe_total (a b : Issue) : (entryLe a b || entryLe b a) = true := by
  rw [Bool.or_eq_true, entryLe_iff, entryLe_iff]
  rcases Std.lt_trichotomy a.position.filename b.position.filename with h | h | h
  · exact Or.inl (Or.inl h)
  · exact (Int.le_total a.position.line b.position.line).imp (fun hl => Or.inr ⟨h, hl⟩)
      (fun hl => Or.inr ⟨h.symm, hl⟩)
  · exact Or.inr (Or.inl h)

/-- The entries are ordered by file, then by line. -/
lemma entries_pairwise (report : Report) :
    report.entries.Pairwise fun a b => a.position.filename < b.position.filename ∨
      a.position.filename = b.position.filename ∧ a.position.line ≤ b.position.line :=
  (List.pairwise_mergeSort entryLe_trans entryLe_total report.shown).imp entryLe_iff.mp

end Report

/-- The issue is about this line of this file. -/
def Issue.isAt (filename : String) (line : Int) (issue : Issue) : Bool :=
  issue.position.filename == filename && issue.position.line == line

namespace Report

/-- Issues of one line are in order, whichever comes first. -/
lemma entryLe_of_isAt {filename : String} {line : Int} {a b : Issue}
    (ha : a.isAt filename line = true) (hb : b.isAt filename line = true) : entryLe a b = true := by
  simp only [Issue.isAt, Bool.and_eq_true, beq_iff_eq] at ha hb
  rw [entryLe_iff]
  exact Or.inr ⟨ha.1.trans hb.1.symm, Int.le_of_eq (ha.2.trans hb.2.symm)⟩

/-- **Entries of one line keep the order in which their issues were found.** -/
lemma filter_isAt_entries (report : Report) (filename : String) (line : Int) :
    report.entries.filter (Issue.isAt filename line) =
      report.shown.filter (Issue.isAt filename line) := by
  have hle : (report.shown.filter (Issue.isAt filename line)).Pairwise
      fun a b => entryLe a b = true :=
    List.pairwise_of_forall_mem_list fun a ha b hb =>
      entryLe_of_isAt (List.mem_filter.mp ha).2 (List.mem_filter.mp hb).2
  -- what is in order already goes through the sort as it is, and no other issue joins it
  have hsub := (List.sublist_mergeSort entryLe_trans entryLe_total hle
    List.filter_sublist).filter (Issue.isAt filename line)
  simp only [List.filter_filter, Bool.and_self] at hsub
  exact (hsub.eq_of_length (report.entries_perm_shown.filter _).length_eq.symm).symm

/-! ## How a run ends -/

lemma callsForAction_iff (report : Report) : report.callsForAction = true ↔
    ∃ issue ∈ report.entries, issue.severity = .error ∨ issue.severity = .warning := by
  have hrank : ∀ s : Severity, Severity.warning.rank ≤ s.rank ↔ s = .error ∨ s = .warning := by
    intro s
    cases s <;> decide
  simp only [callsForAction, List.any_eq_true, decide_eq_true_eq, hrank,
    report.entries_perm_shown.mem_iff]

lemma exitCode_eq (report : Report) : report.exitCode =
    if ∃ issue ∈ report.entries, issue.severity = .error ∨ issue.severity = .warning
      then 1 else 0 := by
  rw [exitCode]
  exact if_congr report.callsForAction_iff rfl rfl

end Report

/-- **What a run prints about issues, and how it ends.**  Of the issues those are printed whose rank
reaches the threshold, each as often as it was found, by file and line; those of one line keep their
order. -/
structure Prints (issues : List Issue) (threshold : Nat) (printed : List Issue)
    (outcome : Outcome) : Prop where
  shown : printed.Perm (issues.filter fun issue => threshold ≤ issue.severity.rank)
  ordered : printed.Pairwise fun a b => a.position.filename < b.position.filename ∨
    a.position.filename = b.position.filename ∧ a.position.line ≤ b.position.line
  stable : ∀ filename line, printed.filter (Issue.isAt filename line) =
    (issues.filter fun issue => threshold ≤ issue.severity.rank).filter (Issue.isAt filename line)
  stdout : outcome.stdout = Text.printed (printed.map Issue.entry ++
    ["", "Total issues found: " ++ toString issues.length ++ " (" ++
      toString printed.length ++ " reported)"])
  ending : outcome.ending = .exited
    (if ∃ issue ∈ printed, issue.severity = .error ∨ issue.severity = .warning then 1 else 0)

/-- A report is printed by its entries. -/
lemma Report.prints (report : Report) (log : String) :
    Prints report.issues report.threshold report.entries
      { stdout := report.text, stderr := log, ending := .exited report.exitCode } where
  shown := report.entries_perm_shown
  ordered := report.entries_pairwise
  stable := report.filter_isAt_entries
  stdout := by
    have hlength : report.entries.length = report.shown.length :=
      report.entries_perm_shown.length_eq
    rw [hlength]
    rfl
  ending := congrArg Ending.exited report.exitCode_eq

/-! ## Where the report comes from -/

section Runs

variable [Grammars]

lemma FileSystem.exists_load_eq_ok {fs : FileSystem} {path : FilePath}
    (hlanguage : ∃ language, Language.ofPath path = .ok language)
    (hread : ∃ bytes, fs.read path = .ok bytes) : ∃ file, fs.load path = .ok file := by
  obtain ⟨language, hlanguage⟩ := hlanguage
  obtain ⟨bytes, hread⟩ := hread
  exact ⟨SourceFile.ofSource language path.render bytes, by rw [load, hlanguage, hread]⟩

/-- If every file can be loaded, all of them are analysed. -/
lemma Linter.exists_analyzeFiles_eq_ok (linter : Linter) {fs : FileSystem} {paths : List FilePath}
    (h : ∀ path ∈ paths, ∃ file, fs.load path = .ok file) :
    ∃ issues, linter.analyzeFiles fs paths = .ok issues := by
  have hparts : ∃ parts, paths.mapM (linter.analyzePath fs) = .ok parts := by
    induction paths with
    | nil => exact ⟨[], rfl⟩
    | cons path paths ih =>
      obtain ⟨file, hfile⟩ := h path List.mem_cons_self
      obtain ⟨parts, hparts⟩ := ih fun p hp => h p (List.mem_cons_of_mem _ hp)
      refine ⟨linter.analyze file :: parts, ?_⟩
      rw [List.mapM_cons, analyzePath, hfile, hparts]
      rfl
  obtain ⟨parts, hparts⟩ := hparts
  exact ⟨parts.flatten, by rw [analyzeFiles, hparts]; rfl⟩

variable [Configuration.Wording]

lemma FileSystem.lint_eq_ok {fs : FileSystem} {options : LintOptions} {config : RuleConfig}
    {files : List FilePath} {issues : List Issue} (hconfig : fs.lintConfig options = .ok config)
    (hfiles : fs.collect options.paths = .ok files) (hne : files ≠ [])
    (hissues : (Linter.ofConfig config).analyzeFiles fs files = .ok issues) :
    fs.lint options = .ok ⟨issues, Severity.threshold options.severity⟩ := by
  rw [lint_of_collect hconfig hfiles hne, hissues]
  rfl

lemma Command.run_lint_of_ok {fs : FileSystem} {options : LintOptions} {report : Report}
    (h : fs.lint options = .ok report) (verbose : Bool) :
    run fs ⟨verbose, .lint options⟩ =
      { stdout := report.text
        stderr := Outcome.logged (if verbose then fs.lintLog options else [])
        ending := .exited report.exitCode } := by
  show lintOutcome fs options _ = _
  rw [lintOutcome, h]

/-- A run with a report prints it. -/
lemma Command.prints_of_lint {fs : FileSystem} {options : LintOptions} {report : Report}
    (h : fs.lint options = .ok report) (verbose : Bool) :
    Prints report.issues report.threshold report.entries (run fs ⟨verbose, .lint options⟩) := by
  rw [run_lint_of_ok h verbose]
  exact report.prints _

/-- **What a lint run prints.**  If the configuration can be used, at least one file is collected,
and every file that is collected is of a known kind and can be read, then the linter finds its
issues in them, and the run prints these. -/
theorem lint_prints_issues {fs : FileSystem} {options : LintOptions} {config : RuleConfig}
    {files : List FilePath} (verbose : Bool) (hconfig : fs.lintConfig options = .ok config)
    (hfiles : fs.collect options.paths = .ok files) (hne : files ≠ [])
    (hload : ∀ path ∈ files, (∃ language, Language.ofPath path = .ok language) ∧
      ∃ bytes, fs.read path = .ok bytes) :
    ∃ issues printed, (Linter.ofConfig config).analyzeFiles fs files = .ok issues ∧
      Prints issues (Severity.threshold options.severity) printed
        (Command.run fs ⟨verbose, .lint options⟩) := by
  obtain ⟨issues, hissues⟩ := (Linter.ofConfig config).exists_analyzeFiles_eq_ok
    fun path hpath => FileSystem.exists_load_eq_ok (hload path hpath).1 (hload path hpath).2
  have hlint := FileSystem.lint_eq_ok hconfig hfiles hne hissues
  exact ⟨issues, _, hissues, Command.prints_of_lint hlint verbose⟩

end Runs

/-- Two Go files, the first one named last in the order of the alphabet. -/
def twoFiles : FileSystem where
  files :=
    [(["b.go"], "//nolint:errcheck\n".toList.map Char.toUInt8),
      (["a.go"], "//nolint:errcheck\n// nolint\n".toList.map Char.toUInt8)]

def twoPaths : LintOptions where
  paths := [⟨"", ["b.go"]⟩, ⟨"", ["a.go"]⟩]

lemma twoFiles_legible {path : FilePath} (h : path ∈ twoPaths.paths) :
    (∃ language, Language.ofPath path = .ok language) ∧
      ∃ bytes, twoFiles.read path = .ok bytes := by
  simp only [twoPaths, List.mem_cons, List.not_mem_nil, or_false] at h
  rcases h with rfl | rfl
  · exact ⟨⟨.go, rfl⟩, _, rfl⟩
  · exact ⟨⟨.go, rfl⟩, _, rfl⟩

/-- Both files are linted, and what is found in them is printed. -/
theorem twoFiles_printed :
    twoFiles.lintConfig twoPaths = .ok {} ∧ twoFiles.collect twoPaths.paths = .ok twoPaths.paths ∧
      ∃ issues printed, (Linter.ofConfig {}).analyzeFiles twoFiles twoPaths.paths = .ok issues ∧
        Prints issues (Severity.threshold "STYLE") printed
          (Command.run twoFiles ⟨true, .lint twoPaths⟩) := by
  have hconfig : twoFiles.lintConfig twoPaths = .ok {} := by rfl
  have hfiles : twoFiles.collect twoPaths.paths = .ok twoPaths.paths := by rfl
  exact ⟨hconfig, hfiles, lint_prints_issues true hconfig hfiles (by decide)
    fun _ hpath => twoFiles_legible hpath⟩

end DirectiveLint
