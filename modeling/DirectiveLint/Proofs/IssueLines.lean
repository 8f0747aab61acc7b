import DirectiveLint.Proofs.BlankTail
import DirectiveLint.Proofs.Classification
import DirectiveLint.Proofs.ContinuedLines
import DirectiveLint.Proofs.Lines
import DirectiveLint.Proofs.Reporting
import Mathlib.Algebra.GroupWithZero.Nat

/-!
# The lines of a report

A report gives each issue a line of its own, as far as the issue is about one line.  Its entry shows
the directive, the normal form of it and a suggestion, and none of them is quoted: what is in the
directive goes into the line.

* `lineFeed_mem_details_iff` — **a message takes its line feeds from the comment.**  Everything that
  it shows besides is made of characters of the comment, or is a name.
* `Issue.heading_prefix_line` and `Issue.lineFeed_mem_line_iff` — the entry as it is printed begins
  with the severity and the place, and line feeds stay in it.
* `OneLineEach` — one line for each issue, an empty line, the totals, and nothing else.
* `lint_prints_lines` — **a run prints one line for each issue it reports**, exactly if none of the
  directives goes on in the next line.  With grammars that take nothing else for a comment this
  happens in C files only, where each line feed in a directive stands behind a backslash
  (`continuedDirective_takes_two_lines`).
-/

namespace DirectiveLint

open Text

/-! ## What a message is made of -/

namespace Directive

lemma suffix_of_cutAtMarker {s rest : List Char} (h : (cutAtMarker s).2 = some rest) :
    rest <:+ s := by
  have hspec := cutAtMarker_spec s
  rw [h] at hspec
  exact ⟨(cutAtMarker s).1 ++ marker, by rw [List.append_assoc]; exact hspec.symm⟩

/-- The head is a part of the comment. -/
lemma head_sublist (s : List Char) : (head s).Sublist s := by
  have hbody : (body s).Sublist s := by
    unfold body
    split
    · exact List.nil_sublist s
    · next rest hrest =>
      exact (prefix_of_cutAtMarker rest).sublist.trans (suffix_of_cutAtMarker hrest).sublist
  exact (List.takeWhile_sublist _).trans hbody

lemma lineFeed_mem_of_mem_normalForm {s : List Char} (h : '\n' ∈ normalForm s) : '\n' ∈ s := by
  rw [normalForm, List.mem_append, List.mem_append] at h
  rcases h with (h | h) | h
  · exact absurd h (by decide)
  · split at h
    · exact absurd h List.not_mem_nil
    · exact absurd h (by decide)
  · exact (head_sublist s).subset ((trim_sublist isBlank _).subset h)

/-- A linter that may be unused has a name of name characters, or none. -/
lemma lineFeed_not_mem_candidate {config : RuleConfig} {comment : Comment} {d : Directive}
    {linter : String} (hread : read comment = .ok d)
    (h : .unusedCandidate linter ∈ d.findings config) : '\n' ∉ linter.toList := by
  have hmem : linter ∈ d.candidates := by
    simp only [findings, List.mem_append, List.mem_ite_nil_right, List.mem_singleton, List.mem_map,
      Finding.unusedCandidate.injEq, exists_eq_right, reduceCtorEq, and_false, or_false,
      false_or] at h
    exact h.2
  rw [candidates] at hmem
  split at hmem
  · obtain rfl := List.mem_singleton.mp hmem
    exact List.not_mem_nil
  · exact not_mem_of_all (all_isNameChar_of_mem_linters hread hmem) (by decide)

/-- Taking an explanation away brings no line feed. -/
lemma lineFeed_not_mem_bare {config : RuleConfig} {comment : Comment} {d : Directive}
    {bare : String} (hread : read comment = .ok d) (h : .noExplanation bare ∈ d.findings config)
    (htext : '\n' ∉ comment.text.toList) : '\n' ∉ bare.toList := by
  have hbare : bare = d.unexplained := by
    rcases d.mem_findings_cases h with ⟨h, -⟩ | ⟨_, h⟩ | ⟨h, -⟩ <;> cases h
    rfl
  rw [hbare, unexplained, (text_of_read hread).1, String.toList_ofList]
  exact fun hmem => htext ((prefix_of_withoutBlankTail _).subset hmem)

end Directive

lemma Issue.closeUp_sublist (full : String) : (closeUp full).toList.Sublist full.toList := by
  rw [closeUp, String.toList_ofList]
  have hrest : (trimStart isBlank (full.toList.drop 2)).Sublist (full.toList.drop 2) :=
    List.dropWhile_sublist _
  simpa using hrest.append_left (full.toList.take 2)

/-- **A message takes its line feeds from the comment.** -/
lemma lineFeed_mem_details_iff {config : RuleConfig} {comment : Comment} {finding : Finding}
    (h : finding ∈ findings config comment) :
    '\n' ∈ (Issue.about comment finding).details.toList ↔ '\n' ∈ comment.text.toList := by
  constructor
  · contrapose
    intro htext
    have hnormal : '\n' ∉ Directive.normalForm comment.text.toList :=
      fun hmem => htext (Directive.lineFeed_mem_of_mem_normalForm hmem)
    cases finding with
    | extraSpace => simp [Issue.details, Issue.about, Issue.code, htext]
    | notMachineReadable =>
      have hclosed : '\n' ∉ (Issue.closeUp comment.text).toList :=
        fun hmem => htext ((Issue.closeUp_sublist _).subset hmem)
      simp [Issue.details, Issue.about, Issue.code, htext, hclosed]
    | notSpecific => simp [Issue.details, Issue.about, Issue.code, htext, hnormal]
    | malformed => simp [Issue.details, Issue.about, Issue.code, htext, hnormal]
    | unusedCandidate linter =>
      obtain ⟨d, hread, -, hd⟩ := exists_read_of_mem_findings h (by simp) (by simp)
      have hlinter := Directive.lineFeed_not_mem_candidate hread hd
      simp only [Issue.details, Issue.about, Issue.code, String.toList_append, List.mem_append]
      split <;> simp [htext, hlinter]
    | noExplanation bare =>
      obtain ⟨d, hread, -, hd⟩ := exists_read_of_mem_findings h (by simp) (by simp)
      have hbare := Directive.lineFeed_not_mem_bare hread hd htext
      simp [Issue.details, Issue.about, Issue.code, htext, hbare]
  · intro htext
    rw [Issue.details]
    simp [Issue.about, Issue.code, htext]

/-! ## The line of an issue -/

namespace Issue

/-- What the entry of an issue begins with, as it is printed: the severity and the place. -/
def heading (issue : Issue) : String :=
  issue.severity.label ++ ": " ++ String.ofList (plain issue.position.filename.toList) ++ ":" ++
    toString issue.position.line ++ ":" ++ toString issue.position.column

/-- The entry of an issue, as it is printed. -/
def line (issue : Issue) : String :=
  String.ofList (plain issue.entry.toList)

lemma visible_label (severity : Severity) : Visible (severity.label ++ ": ").toList := by
  cases severity <;> exact visible_of_ascii (by decide)

/-- **An entry begins with its heading**, whatever the name of the file takes away. -/
lemma heading_prefix_line (issue : Issue) : issue.heading.toList <+: issue.line.toList := by
  have hplace : Visible (toString issue.position.line ++ ":" ++
      toString issue.position.column).toList := by
    simp only [String.toList_append, visible_append]
    exact ⟨⟨visible_intToString _, visible_of_ascii (by decide)⟩, visible_intToString _⟩
  have hentry : issue.entry.toList =
      ((issue.severity.label ++ ": ").toList ++ issue.position.filename.toList) ++
        ':' :: ((toString issue.position.line ++ ":" ++ toString issue.position.column).toList ++
          (" [" ++ issue.ruleId ++ "] - " ++ issue.details).toList) := by
    simp [entry]
  have hheading : issue.heading.toList =
      (issue.severity.label ++ ": ").toList ++ plain issue.position.filename.toList ++
        ':' :: (toString issue.position.line ++ ":" ++ toString issue.position.column).toList := by
    simp [heading]
  rw [line, String.toList_ofList, hentry, plain_append_cons ControlSequence.apart_colon,
    (visible_label issue.severity).plain_append, hplace.plain_append, hheading]
  exact ⟨plain (" [" ++ issue.ruleId ++ "] - " ++ issue.details).toList, by simp⟩

/-- **The line feeds of an entry are those of the comment.** -/
lemma lineFeed_mem_line_iff {config : RuleConfig} {comment : Comment} {issue : Issue}
    (h : issue ∈ review config comment) (hname : '\n' ∉ issue.position.filename.toList) :
    '\n' ∈ issue.line.toList ↔ '\n' ∈ issue.full.toList := by
  obtain ⟨finding, hfinding, rfl⟩ := List.mem_map.mp h
  have hlabel := (visible_label finding.severity).lineFeed_not_mem
  have hline := (visible_intToString comment.position.line).lineFeed_not_mem
  have hcolumn := (visible_intToString comment.position.column).lineFeed_not_mem
  have hrule : '\n' ∉ finding.ruleId.toList := by cases finding <;> simp [Finding.ruleId]
  have hfront : '\n' ∉ (finding.severity.label ++ ": " ++ comment.position.filename ++ ":" ++
      toString comment.position.line ++ ":" ++ toString comment.position.column ++ " [" ++
      finding.ruleId ++ "] - ").toList := by
    simp only [String.toList_append, List.mem_append, not_or] at hlabel ⊢
    exact ⟨⟨⟨⟨⟨⟨⟨⟨hlabel, hname⟩, by decide⟩, hline⟩, by decide⟩, hcolumn⟩, by decide⟩, hrule⟩,
      by decide⟩
  rw [line, String.toList_ofList, mem_plain_iff ControlSequence.apart_lineFeed, entry,
    String.toList_append, List.mem_append, lineFeed_mem_details_iff hfinding]
  exact or_iff_right hfront

end Issue

/-! ## The lines of a text -/

/-- **The text consists of these lines**, each of them ended by a line feed. -/
def ConsistsOf (text : String) (lines : List String) : Prop :=
  text = String.join (lines.map (· ++ "\n")) ∧ ∀ line ∈ lines, '\n' ∉ line.toList

/-- There are as many line feeds as lines, and those in the lines. -/
lemma count_lineFeed_join (lines : List String) :
    (String.join (lines.map (· ++ "\n"))).toList.count '\n' =
      (lines.map fun line => line.toList.count '\n').sum + lines.length := by
  induction lines with
  | nil => rfl
  | cons line lines ih =>
    rw [String.toList_join] at ih ⊢
    simp only [List.map_cons, List.flatMap_cons, List.count_append, ih, String.toList_append,
      List.sum_cons, List.length_cons]
    have hfeed : "\n".toList.count '\n' = 1 := by decide
    omega

lemma ConsistsOf.count_lineFeed {text : String} {lines : List String} (h : ConsistsOf text lines) :
    text.toList.count '\n' = lines.length := by
  obtain ⟨rfl, hlines⟩ := h
  have hzero : (lines.map fun line => line.toList.count '\n').sum = 0 := by
    rw [List.sum_eq_zero_iff_forall_eq_nat]
    intro n hn
    obtain ⟨line, hline, rfl⟩ := List.mem_map.mp hn
    exact List.count_eq_zero.mpr (hlines line hline)
  rw [count_lineFeed_join, hzero, Nat.zero_add]

/-- Pieces that are put together to as many lines are these lines. -/
lemma lineFeed_not_mem_of_count {pieces : List String}
    (h : (String.join (pieces.map (· ++ "\n"))).toList.count '\n' = pieces.length) :
    ∀ piece ∈ pieces, '\n' ∉ piece.toList := by
  rw [count_lineFeed_join] at h
  have hpieces : (pieces.map fun piece => piece.toList.count '\n').sum = 0 := by omega
  rw [List.sum_eq_zero_iff_forall_eq_nat] at hpieces
  intro piece hpiece
  exact List.count_eq_zero.mp (hpieces _ (List.mem_map_of_mem hpiece))

/-- **One line for each issue**: a line that begins with the severity and the place of each issue,
an empty line, the totals, and nothing else. -/
def OneLineEach (issues : List Issue) (totals text : String) : Prop :=
  ∃ lines : List String,
    List.Forall₂ (fun issue line => issue.heading.toList <+: line.toList) issues lines ∧
      ConsistsOf text (lines ++ ["", totals])

lemma OneLineEach.count_lineFeed {issues : List Issue} {totals text : String}
    (h : OneLineEach issues totals text) : text.toList.count '\n' = issues.length + 2 := by
  obtain ⟨lines, hheadings, hlines⟩ := h
  rw [hlines.count_lineFeed, List.length_append, hheadings.length_eq]
  rfl

/-- A report has one line for each issue exactly if no entry has a line feed. -/
lemma oneLineEach_iff {issues : List Issue} {totals : String} (htotals : Visible totals.toList) :
    OneLineEach issues totals (Text.printed (issues.map Issue.entry ++ ["", totals])) ↔
      ∀ issue ∈ issues, '\n' ∉ issue.line.toList := by
  have hprinted : Text.printed (issues.map Issue.entry ++ ["", totals]) =
      String.join ((issues.map Issue.line ++ ["", totals]).map (· ++ "\n")) := by
    have hplain : String.ofList (plain totals.toList) = totals := by
      rw [htotals.plain, String.ofList_toList]
    simp [Text.printed, Issue.line, Function.comp_def, hplain]
  rw [hprinted]
  constructor
  · intro hlines issue hissue
    have hcount := hlines.count_lineFeed
    refine lineFeed_not_mem_of_count (hcount.trans ?_) issue.line ?_
    · simp
    · exact List.mem_append_left _ (List.mem_map_of_mem hissue)
  · intro hlines
    refine ⟨issues.map Issue.line, ?_, rfl, ?_⟩
    · rw [List.forall₂_map_right_iff, List.forall₂_same]
      exact fun issue _ => issue.heading_prefix_line
    · intro line hline
      rcases List.mem_append.mp hline with hline | hline
      · obtain ⟨issue, hissue, rfl⟩ := List.mem_map.mp hline
        exact hlines issue hissue
      · simp only [List.mem_cons, List.not_mem_nil, or_false] at hline
        rcases hline with rfl | rfl
        · exact List.not_mem_nil
        · exact htotals.lineFeed_not_mem

/-! ## The lines of a run -/

/-- The last line of a report. -/
def totalsLine (found reported : Nat) : String :=
  "Total issues found: " ++ toString found ++ " (" ++ toString reported ++ " reported)"

lemma visible_totalsLine (found reported : Nat) : Visible (totalsLine found reported).toList := by
  show Visible ("Total issues found: " ++ toString found ++ " (" ++ toString reported ++
    " reported)").toList
  simp only [String.toList_append, visible_append]
  exact ⟨⟨⟨⟨visible_of_ascii (by decide), visible_natToString _⟩, visible_of_ascii (by decide)⟩,
    visible_natToString _⟩, visible_of_ascii (by decide)⟩

/-- **A lint run prints one line for each issue** that it reports, unless the directive of one of
them goes on in the next line.  No other thing brings a line feed into an entry.  If the grammars
take nothing else for a comment, such directives are in C files only, and each line feed in them
stands behind a backslash. -/
theorem lint_prints_lines [Grammars] [Configuration.Wording] {fs : FileSystem}
    {options : LintOptions} {config : RuleConfig} {files : List FilePath} (verbose : Bool)
    (hconfig : fs.lintConfig options = .ok config)
    (hfiles : fs.collect options.paths = .ok files) (hne : files ≠ [])
    (hload : ∀ path ∈ files, (∃ language, Language.ofPath path = .ok language) ∧
      ∃ bytes, fs.read path = .ok bytes)
    (hnames : ∀ path ∈ files, '\n' ∉ path.render.toList) :
    let outcome := Command.run fs ⟨verbose, .lint options⟩
    ∃ issues printed, (Linter.ofConfig config).analyzeFiles fs files = .ok issues ∧
      Prints issues (Severity.threshold options.severity) printed outcome ∧
      (OneLineEach printed (totalsLine issues.length printed.length) outcome.stdout ↔
        ∀ issue ∈ printed, '\n' ∉ issue.full.toList) ∧
      (Grammars.CommentsFit → ∀ issue ∈ printed, '\n' ∈ issue.full.toList →
        Text.Spliced issue.full.toList ∧
          ∃ path ∈ files, issue.position.filename = path.render ∧
            Language.ofPath path = .ok .c) := by
  intro outcome
  obtain ⟨issues, printed, hissues, hprints⟩ := lint_prints_issues verbose hconfig hfiles hne hload
  have hfrom : ∀ issue ∈ printed, ∃ path ∈ files, ∃ comment ∈ fs.commentsOf path,
      issue ∈ review config comment := by
    intro issue hissue
    exact Linter.exists_comment_of_mem_issues hissues
      (List.mem_filter.mp (hprints.shown.mem_iff.mp hissue)).1
  refine ⟨issues, printed, hissues, hprints, ?lines, ?spliced⟩
  case lines =>
    rw [hprints.stdout]
    refine (oneLineEach_iff (visible_totalsLine _ _)).trans (forall₂_congr fun issue hissue => ?_)
    obtain ⟨path, hpath, comment, hcomment, hreview⟩ := hfrom issue hissue
    have hname : '\n' ∉ issue.position.filename.toList := by
      rw [FileSystem.filename_of_mem_review hcomment hreview]
      exact hnames path hpath
    exact not_congr (Issue.lineFeed_mem_line_iff hreview hname)
  case spliced =>
    intro hfit issue hissue hmem
    obtain ⟨path, hpath, comment, hcomment, hreview⟩ := hfrom issue hissue
    have hfilename := FileSystem.filename_of_mem_review hcomment hreview
    obtain ⟨finding, hfinding, rfl⟩ := List.mem_map.mp hreview
    obtain ⟨hc, hspliced⟩ :=
      FileSystem.spliced_of_lineFeed_mem hfit hcomment (mem_findings_cases hfinding).1 hmem
    exact ⟨hspliced, path, hpath, hfilename, hc⟩

/-- A Go file and a C file with comments over several lines.  None of them resembles a directive. -/
def twoLanguages : FileSystem where
  files :=
    [(["a.go"], "// nolint\n/* //nolint\n*/ x\n".toList.map Char.toUInt8),
      (["b.c"], "// so \\\n//nolint\n/* a */ //nolint:b\n".toList.map Char.toUInt8)]

def twoLanguagesPaths : LintOptions where
  paths := [⟨"", ["a.go"]⟩, ⟨"", ["b.c"]⟩]

/-- The scanners take nothing else for a comment, and every issue has a line of its own. -/
theorem twoLanguages_one_line_each :
    Grammars.CommentsFit ∧ twoLanguages.lintConfig twoLanguagesPaths = .ok {} ∧
      twoLanguages.collect twoLanguagesPaths.paths = .ok twoLanguagesPaths.paths ∧
      ∃ issues printed,
        (Linter.ofConfig {}).analyzeFiles twoLanguages twoLanguagesPaths.paths = .ok issues ∧
        issues.length = 4 ∧ OneLineEach printed (totalsLine issues.length printed.length)
          (Command.run twoLanguages ⟨true, .lint twoLanguagesPaths⟩).stdout := by
  have hconfig : twoLanguages.lintConfig twoLanguagesPaths = .ok {} := by rfl
  have hfiles : twoLanguages.collect twoLanguagesPaths.paths = .ok twoLanguagesPaths.paths := by rfl
  have hload : ∀ path ∈ twoLanguagesPaths.paths,
      (∃ language, Language.ofPath path = .ok language) ∧
        ∃ bytes, twoLanguages.read path = .ok bytes := by
    simp only [twoLanguagesPaths, List.mem_cons, List.not_mem_nil, or_false, forall_eq_or_imp,
      forall_eq]
    exact ⟨⟨⟨.go, rfl⟩, _, rfl⟩, ⟨.c, rfl⟩, _, rfl⟩
  obtain ⟨issues, printed, hissues, hprints, hlines, -⟩ :=
    lint_prints_lines true hconfig hfiles (by decide) hload (by decide)
  have hall : ∀ issue ∈ issues, '\n' ∉ issue.full.toList := by
    rw [(Linter.analyzeFiles_eq_ok_iff.mp hissues).2]
    decide +kernel
  have hlength : issues.length = 4 := by
    rw [(Linter.analyzeFiles_eq_ok_iff.mp hissues).2]
    decide +kernel
  refine ⟨commentsFit_scanners, hconfig, hfiles, issues, printed, hissues, hlength,
    hlines.mpr fun issue hissue => ?_⟩
  exact hall issue (List.mem_filter.mp (hprints.shown.mem_iff.mp hissue)).1

/-- A C file with a directive that goes on in the next line. -/
def continuedDirective : FileSystem where
  files := [(["a.c"], "//nolint \\\n// why\nint x;\n".toList.map Char.toUInt8)]

def continuedDirectivePaths : LintOptions where
  paths := [⟨"", ["a.c"]⟩]

/-- What is found about it. -/
def continuedDirectiveIssue : Issue where
  finding := .malformed
  full := "//nolint \\\n// why"
  canonical := "//nolint \\"
  position := ⟨"a.c", 0, 1, 1⟩

/-- **A directive that goes on in the next line takes its entry there, too.** -/
theorem continuedDirective_takes_two_lines :
    let outcome := Command.run continuedDirective ⟨false, .lint continuedDirectivePaths⟩
    Prints [continuedDirectiveIssue] (Severity.threshold continuedDirectivePaths.severity)
        [continuedDirectiveIssue] outcome ∧
      continuedDirectiveIssue.entry =
        "ERROR: a.c:1:1 [parse-error] - directive `//nolint \\\n// why` should match `//nolint \\" ++
          "[:<comma-separated-linters>] [// <explanation>]`" ∧
      ¬ OneLineEach [continuedDirectiveIssue] (totalsLine 1 1) outcome.stdout := by
  intro outcome
  have hlint : continuedDirective.lint continuedDirectivePaths =
      .ok ⟨[continuedDirectiveIssue], Severity.threshold continuedDirectivePaths.severity⟩ := by
    decide +kernel
  have hentries : Report.entries ⟨[continuedDirectiveIssue],
      Severity.threshold continuedDirectivePaths.severity⟩ = [continuedDirectiveIssue] := by
    decide +kernel
  have hprints := Command.prints_of_lint hlint false
  rw [hentries] at hprints
  refine ⟨hprints, by decide +kernel, ?_⟩
  rw [hprints.stdout]
  intro hlines
  refine (oneLineEach_iff (visible_totalsLine 1 1)).mp hlines _ (List.mem_singleton_self _) ?_
  rw [Issue.line, String.toList_ofList, mem_plain_iff ControlSequence.apart_lineFeed]
  simp [Issue.entry, Issue.details, Issue.code, continuedDirectiveIssue]

end DirectiveLint
