import DirectiveLint.Proofs.Classification
import DirectiveLint.Proofs.Collected
import DirectiveLint.Proofs.Independence
import DirectiveLint.Proofs.Lines
import DirectiveLint.Proofs.Reporting

/-!
# The two commands tell the same story

One command lists the directives of some files, the other reviews them.  The listing knows no
configuration and exempts no directive, so it takes a statement to say that what it lists is what
gets reviewed.

**Issues of one comment.**  An issue shows the text and the position of its comment
(`Issue.isAbout`).  Among the issues of many comments those about one of them are its own review, as
often as the comment is there (`filter_isAbout_flatMap_review`).

**What the review of a listed comment says** is read off its line: whether it is malformed
(`malformed_mem_findings_iff`), how many blanks it begins with (`extraSpace_mem_findings_iff`) and
which linters it names (`filterMap_candidate_findings`).

`Tells` puts the two sides next to each other, and `listing_and_linting_agree` holds the commands
against it.
-/

namespace DirectiveLint

open Text Directive

/-! ## Issues of one comment -/

/-- The issue shows this comment. -/
def Issue.isAbout (comment : Comment) (issue : Issue) : Bool :=
  issue.full == comment.text && issue.position == comment.position

lemma isAbout_of_mem_review {config : RuleConfig} {comment : Comment} {issue : Issue}
    (h : issue ∈ review config comment) : issue.isAbout comment = true := by
  obtain ⟨hfull, hposition⟩ := full_of_mem_review h
  rw [Issue.isAbout, Bool.and_eq_true, beq_iff_eq, beq_iff_eq]
  exact ⟨hfull, hposition⟩

/-- An issue shows one comment only. -/
lemma eq_of_isAbout {config : RuleConfig} {comment other : Comment} {issue : Issue}
    (h : issue ∈ review config comment) (hother : issue.isAbout other = true) :
    other = comment := by
  obtain ⟨hfull, hposition⟩ := full_of_mem_review h
  rw [Issue.isAbout, Bool.and_eq_true, beq_iff_eq, beq_iff_eq, hfull, hposition] at hother
  obtain ⟨text, position⟩ := other
  obtain ⟨rfl, rfl⟩ := hother
  rfl

/-- **The issues about a comment are its review**, as often as the comment is there. -/
lemma filter_isAbout_flatMap_review (config : RuleConfig) (comment : Comment)
    (comments : List Comment) :
    (comments.flatMap (review config)).filter (Issue.isAbout comment) =
      (List.replicate (comments.count comment) (review config comment)).flatten := by
  induction comments with
  | nil => rfl
  | cons other comments ih =>
    rw [List.flatMap_cons, List.filter_append, ih]
    by_cases hother : other = comment
    · subst hother
      rw [List.count_cons_self, List.replicate_succ, List.flatten_cons,
        List.filter_eq_self.mpr fun _ => isAbout_of_mem_review]
    · rw [List.count_cons_of_ne hother, List.filter_eq_nil_iff.mpr, List.nil_append]
      intro issue hissue habout
      exact hother (eq_of_isAbout hissue habout).symm

lemma exists_issue_isAbout_iff {config : RuleConfig} {comment : Comment} {comments : List Comment}
    (h : comment ∈ comments) (finding : Finding) :
    (∃ issue ∈ comments.flatMap (review config),
        issue.isAbout comment = true ∧ issue.finding = finding) ↔
      finding ∈ findings config comment := by
  constructor
  · rintro ⟨issue, hissue, habout, rfl⟩
    obtain ⟨other, -, hother⟩ := List.mem_flatMap.mp hissue
    obtain rfl := eq_of_isAbout hother habout
    obtain ⟨found, hfound, rfl⟩ := List.mem_map.mp hother
    exact hfound
  · intro hfinding
    have hissue : Issue.about comment finding ∈ review config comment :=
      List.mem_map_of_mem hfinding
    exact ⟨Issue.about comment finding, List.mem_flatMap.mpr ⟨comment, h, hissue⟩,
      isAbout_of_mem_review hissue, rfl⟩

/-- What does not resemble a directive adds nothing. -/
lemma flatMap_review_filter_resembles (config : RuleConfig) (comments : List Comment) :
    (comments.filter fun comment => resembles comment.text.toList).flatMap (review config) =
      comments.flatMap (review config) := by
  induction comments with
  | nil => rfl
  | cons comment comments ih =>
    rw [List.filter_cons, List.flatMap_cons]
    cases hresembles : resembles comment.text.toList with
    | true => rw [if_pos rfl, List.flatMap_cons, ih]
    | false =>
      rw [if_neg Bool.false_ne_true, ih, review_of_not_resembles hresembles, List.nil_append]

/-! ## What is found -/

lemma malformed_mem_findings_iff {config : RuleConfig} {comment : Comment}
    (hresembles : resembles comment.text.toList = true) :
    .malformed ∈ findings config comment ↔
      isSelfExempt config comment = false ∧ ∃ fault, read comment = .error fault := by
  constructor
  · intro h
    cases hexempt : isSelfExempt config comment with
    | true => simp [findings, hexempt] at h
    | false => exact ⟨rfl, exists_error_of_malformed h⟩
  · rintro ⟨hexempt, fault, hread⟩
    rw [findings_of_candidate hresembles hexempt, hread]
    exact List.mem_append_right _ (List.mem_singleton_self _)

lemma extraSpace_mem_spacing_iff {config : RuleConfig} {s : List Char} :
    .extraSpace ∈ spacing config s ↔ 1 < (leadingBlanks s).length := by
  rw [spacing, List.mem_append, List.mem_ite_nil_right, List.mem_ite_nil_right]
  simp

section Reviewed

variable {config : RuleConfig} {comment : Comment} {d : Directive}

lemma extraSpace_mem_findings_iff (hread : read comment = .ok d)
    (hname : config.ruleName ∉ d.linters) :
    .extraSpace ∈ findings config comment ↔ 2 ≤ d.leadingWidth := by
  have hpolicy : Finding.extraSpace ∉ d.findings config := by
    intro h
    rcases d.mem_findings_cases h with ⟨h, -⟩ | ⟨_, h⟩ | ⟨h, -⟩ <;> cases h
  rw [findings_of_read hread hname, List.mem_append, or_iff_left hpolicy,
    extraSpace_mem_spacing_iff, ← leading_of_read hread, String.length_toList, leadingWidth,
    Nat.lt_iff_add_one_le]

/-- The linter that a later pass has to confirm. -/
def Finding.candidate? : Finding → Option String
  | .unusedCandidate linter => some linter
  | _ => none

lemma Directive.filterMap_candidate_findings (hunused : config.checks.unused = true) :
    (d.findings config).filterMap Finding.candidate? = d.candidates := by
  have hspecific : (if config.checks.specific && d.linters.isEmpty then [Finding.notSpecific]
      else []).filterMap Finding.candidate? = [] := by
    split <;> rfl
  have hexplanation : (if config.checks.explanation && !d.isExplained && d.needsExplanation config
      then [Finding.noExplanation d.unexplained] else []).filterMap Finding.candidate? = [] := by
    split <;> rfl
  have hcandidates : Finding.candidate? ∘ Finding.unusedCandidate = some := rfl
  rw [Directive.findings, List.filterMap_append, List.filterMap_append, hspecific, hexplanation,
    if_pos hunused, List.filterMap_map, hcandidates, List.filterMap_some, List.append_nil,
    List.nil_append]

lemma filterMap_candidate_findings (hread : read comment = .ok d)
    (hname : config.ruleName ∉ d.linters) (hunused : config.checks.unused = true) :
    (findings config comment).filterMap Finding.candidate? =
      if d.linters = [] then [""] else d.linters := by
  have hspacing : (spacing config comment.text.toList).filterMap Finding.candidate? = [] := by
    rw [List.filterMap_eq_nil_iff]
    intro finding hfinding
    rcases (leadingBlanks_of_mem_spacing hfinding).1 with rfl | rfl <;> rfl
  rw [findings_of_read hread hname, List.filterMap_append, hspacing, List.nil_append,
    Directive.filterMap_candidate_findings hunused, Directive.candidates]
  simp only [List.isEmpty_iff]

end Reviewed

/-! ## One story -/

/-- **The listing and the issues tell the same** about the comments that are listed. -/
structure Tells (config : RuleConfig) (listed : List Comment) (issues : List Issue) : Prop where
  listed_of_issue : ∀ issue ∈ issues, ∃ comment ∈ listed, issue.isAbout comment = true
  malformed_iff : ∀ comment ∈ listed, comment.line = comment.malformedLine ↔
    (∃ issue ∈ issues, issue.isAbout comment = true ∧ issue.finding = .malformed) ∨
      (∃ fault, read comment = .error fault) ∧
        targets comment.text.toList config.ruleName.toList = true
  line_of_read : ∀ comment ∈ listed, ∀ d, read comment = .ok d →
    comment.line = comment.place ++ ": space=" ++ toString d.leadingWidth ++ " linters=" ++
      d.linterText ++ " explanation=" ++ String.ofList (plain d.explanationText.toList)
  candidates_eq : ∀ comment ∈ listed, ∀ d, read comment = .ok d → config.ruleName ∉ d.linters →
    (issues.filter (Issue.isAbout comment)).filterMap (fun issue => issue.finding.candidate?) =
      (List.replicate (listed.count comment) (if d.linters = [] then [""] else d.linters)).flatten
  extraSpace_iff : ∀ comment ∈ listed, ∀ d, read comment = .ok d → config.ruleName ∉ d.linters →
    ((∃ issue ∈ issues, issue.isAbout comment = true ∧ issue.finding = .extraSpace) ↔
      2 ≤ d.leadingWidth)

lemma tells_flatMap_review {config : RuleConfig} {listed : List Comment}
    (hunused : config.checks.unused = true)
    (hlisted : ∀ comment ∈ listed, resembles comment.text.toList = true) :
    Tells config listed (listed.flatMap (review config)) where
  listed_of_issue := by
    intro issue hissue
    obtain ⟨comment, hcomment, hissue⟩ := List.mem_flatMap.mp hissue
    exact ⟨comment, hcomment, isAbout_of_mem_review hissue⟩
  malformed_iff := by
    intro comment hcomment
    rw [exists_issue_isAbout_iff hcomment, malformed_mem_findings_iff (hlisted comment hcomment),
      comment.line_eq_malformedLine_iff, and_comm, ← and_or_left, isSelfExempt]
    exact (and_iff_left (Bool.eq_false_or_eq_true _).symm).symm
  line_of_read := fun _ _ _ hread => Comment.line_of_read hread
  candidates_eq := by
    intro comment _ d hread hname
    rw [filter_isAbout_flatMap_review, List.filterMap_flatten, List.map_replicate, review,
      List.filterMap_map, ← filterMap_candidate_findings hread hname hunused]
    rfl
  extraSpace_iff := by
    intro comment hcomment d hread hname
    rw [exists_issue_isAbout_iff hcomment, extraSpace_mem_findings_iff hread hname]

/-- **The two commands tell the same story.**  If every file that is collected is of a known kind
and can be read, and no file has a line feed in its name, then the listing prints one line for each of
their comments that resembles a directive, in order; and the issues that are found under a
configuration that looks for unused directives tell what the listing tells. -/
theorem listing_and_linting_agree [Grammars] [Configuration.Wording] {fs : FileSystem}
    {paths files : List FilePath} {config : RuleConfig} (verbose : Bool)
    (hunused : config.checks.unused = true) (hfiles : fs.collect paths = .ok files)
    (hload : ∀ path ∈ files, (∃ language, Language.ofPath path = .ok language) ∧
      ∃ bytes, fs.read path = .ok bytes)
    (hnames : ∀ path ∈ files, '\n' ∉ path.render.toList) :
    ∃ issues, (Linter.ofConfig config).analyzeFiles fs files = .ok issues ∧
      (∀ options : LintOptions, options.paths = paths → fs.lintConfig options = .ok config →
        files ≠ [] → fs.lint options = .ok ⟨issues, Severity.threshold options.severity⟩) ∧
      (Command.run fs ⟨verbose, .directives paths⟩).ending = .exited 0 ∧
      (Command.run fs ⟨verbose, .directives paths⟩).stdout =
        String.join ((fs.directives files).map fun comment => comment.line ++ "\n") ∧
      (∀ comment ∈ fs.directives files, '\n' ∉ comment.line.toList) ∧
      Tells config (fs.directives files) issues := by
  have hloads : fs.Loads files := fun path hpath =>
    FileSystem.exists_load_eq_ok (hload path hpath).1 (hload path hpath).2
  have hissues : (Linter.ofConfig config).analyzeFiles fs files =
      .ok ((fs.comments files).flatMap (review config)) :=
    Linter.analyzeFiles_eq_ok_iff.mpr ⟨hloads, rfl⟩
  have hrun := Command.directives_of_loads verbose hfiles hloads
  refine ⟨_, hissues, ?lint, ?ending, ?stdout, ?lines, ?tells⟩
  case lint =>
    rintro options rfl hconfig hne
    exact FileSystem.lint_eq_ok hconfig hfiles hne hissues
  case ending => rw [hrun]
  case stdout =>
    rw [hrun]
    show String.join _ = _
    rw [List.map_map]
    rfl
  case lines =>
    intro comment hcomment
    obtain ⟨path, hpath, hmem⟩ := FileSystem.mem_comments_iff.mp (List.mem_filter.mp hcomment).1
    refine Comment.lineFeed_not_mem_line ?_
    rw [(FileSystem.position_of_mem_commentsOf hmem).1]
    exact hnames path hpath
  case tells =>
    rw [← flatMap_review_filter_resembles]
    exact tells_flatMap_review hunused fun comment hcomment => (List.mem_filter.mp hcomment).2

/-- A Go file with a directive, a malformed one, and one behind another comment. -/
def mixed : FileSystem where
  files :=
    [(["mixed.go"],
      "//  nolint:a,b // why\n// nolint:,\n/* x */ //nolint\n".toList.map Char.toUInt8)]

/-- The file is named twice. -/
def mixedPaths : List FilePath :=
  [⟨"", ["mixed.go"]⟩, ⟨"", ["mixed.go"]⟩]

/-- Everything about the file is listed twice and found twice. -/
theorem mixed_twice_agree :
    mixed.collect mixedPaths = .ok mixedPaths ∧ (mixed.directives mixedPaths).length = 6 ∧
      ∃ issues, (Linter.ofConfig ⟨.every, [], "nolintlint"⟩).analyzeFiles mixed mixedPaths =
          .ok issues ∧
        Tells ⟨.every, [], "nolintlint"⟩ (mixed.directives mixedPaths) issues := by
  have hfiles : mixed.collect mixedPaths = .ok mixedPaths := rfl
  have hunused : (⟨.every, [], "nolintlint"⟩ : RuleConfig).checks.unused = true := rfl
  have hload : ∀ path ∈ mixedPaths, (∃ language, Language.ofPath path = .ok language) ∧
      ∃ bytes, mixed.read path = .ok bytes := by
    simp only [mixedPaths, List.mem_cons, List.not_mem_nil, or_false, or_self, forall_eq]
    exact ⟨⟨.go, rfl⟩, _, rfl⟩
  obtain ⟨issues, hissues, -, -, -, -, htells⟩ :=
    listing_and_linting_agree false hunused hfiles hload (by decide)
  exact ⟨hfiles, by decide +kernel, issues, hissues, htells⟩

end DirectiveLint
