import DirectiveLint.Proofs.Recognition
import DirectiveLint.Review

/-!
# What a review reports

A review is decided by the text of the comment and the configuration alone, and this module says
how, without reference to the reader.

**Self-exemption.**  The scan that lets a directive exempt itself from the rule looks at the raw
  text, and the reader looks at a layout.  They agree about every name (`targets_iff_mem_linters`),
  so an explanation that mentions the rule exempts nothing.

**Where a finding comes from.**  The blanks are found in front of the grammar
  (`mem_spacing_of_mem_findings`), a malformed comment is one that cannot be read
  (`exists_error_of_malformed`), and all else is found about a directive
  (`exists_read_of_mem_findings`).

**The findings.**  `spacingDue` and `policyDue` list what is due for a comment, from the number of
  its leading blanks, the names in its list and what stands behind its second marker.  A review
  reports what is due and nothing else (`review_reports_what_is_due`).
-/

namespace DirectiveLint

open Text Directive

/-! ## Self-exemption -/

lemma Directive.mem_names_iff {l : Layout} {name : String} :
    name ∈ l.names ↔ name.toList ∈ l.targets.map Target.name := by
  rw [Layout.names, List.mem_map, List.mem_map]
  constructor
  · rintro ⟨t, ht, rfl⟩
    exact ⟨t, ht, (String.toList_ofList).symm⟩
  · rintro ⟨t, ht, hname⟩
    exact ⟨t, ht, by rw [hname, String.ofList_toList]⟩

lemma Directive.targets_chars_iff {l : Layout} (h : l.WellFormed) (name : String) :
    targets l.chars name.toList = true ↔ name ∈ l.names := by
  rw [targets, h.listed_chars, List.contains_iff_mem, mem_names_iff]

/-- **The scan and the reader agree** about every name. -/
lemma Directive.targets_iff_mem_linters {comment : Comment} {d : Directive}
    (h : read comment = .ok d) (name : String) :
    targets comment.text.toList name.toList = true ↔ name ∈ d.linters := by
  obtain ⟨l, hwf, hchars, -, rfl⟩ := exists_layout_of_read h
  rw [← hchars, targets_chars_iff hwf]
  rfl

lemma isSelfExempt_eq_false_of_read {config : RuleConfig} {comment : Comment} {d : Directive}
    (h : read comment = .ok d) (hname : config.ruleName ∉ d.linters) :
    isSelfExempt config comment = false := by
  rw [isSelfExempt, Bool.eq_false_iff]
  exact fun htargets => hname ((targets_iff_mem_linters h _).mp htargets)

lemma resembles_of_read {comment : Comment} {d : Directive} (h : read comment = .ok d) :
    resembles comment.text.toList = true := by
  obtain ⟨l, hwf, hchars, -, -⟩ := exists_layout_of_read h
  rw [← hchars]
  exact hwf.resembles_chars

/-- What is found about a comment that is neither ordinary nor exempt. -/
lemma findings_of_candidate {config : RuleConfig} {comment : Comment}
    (hresembles : resembles comment.text.toList = true)
    (hexempt : isSelfExempt config comment = false) :
    findings config comment = spacing config comment.text.toList ++
      match read comment with
      | .error _ => [.malformed]
      | .ok d => d.findings config := by
  have hcandidate : ¬ (!resembles comment.text.toList || isSelfExempt config comment) = true := by
    rw [hresembles, hexempt]
    decide
  exact if_neg hcandidate

/-- A directive that does not name the rule is reviewed. -/
lemma findings_of_read {config : RuleConfig} {comment : Comment} {d : Directive}
    (hread : read comment = .ok d) (hname : config.ruleName ∉ d.linters) :
    findings config comment = spacing config comment.text.toList ++ d.findings config := by
  rw [findings_of_candidate (resembles_of_read hread) (isSelfExempt_eq_false_of_read hread hname),
    hread]

lemma map_finding_review (config : RuleConfig) (comment : Comment) :
    (review config comment).map (·.finding) = findings config comment := by
  rw [review, List.map_map]
  exact List.map_id _

lemma review_of_candidate {config : RuleConfig} {comment : Comment}
    (hresembles : resembles comment.text.toList = true)
    (hexempt : isSelfExempt config comment = false) :
    review config comment = (spacing config comment.text.toList ++
      match read comment with
      | .error _ => [.malformed]
      | .ok d => d.findings config).map (Issue.about comment) := by
  rw [review, findings_of_candidate hresembles hexempt]

/-- **A directive exempts itself by its linters alone.**  The scan finds exactly the names that are
read; so a directive is left alone if it names the rule, and reviewed in full if it does not,
whatever its explanation says. -/
theorem exempt_iff_names_rule {comment : Comment} {d : Directive} (h : read comment = .ok d) :
    (∀ name : String, targets comment.text.toList name.toList = true ↔ name ∈ d.linters) ∧
    ∀ config : RuleConfig,
      (config.ruleName ∈ d.linters → review config comment = []) ∧
      (config.ruleName ∉ d.linters →
        isSelfExempt config comment = false ∧
        review config comment =
          (spacing config comment.text.toList ++ d.findings config).map (Issue.about comment)) := by
  refine ⟨targets_iff_mem_linters h, fun config => ⟨fun hname => ?_, fun hname => ?_⟩⟩
  · exact review_of_isSelfExempt ((targets_iff_mem_linters h config.ruleName).mpr hname)
  · have hexempt := isSelfExempt_eq_false_of_read h hname
    refine ⟨hexempt, ?_⟩
    rw [review_of_candidate (resembles_of_read h) hexempt, h]

/-- A directive on two lines whose explanation mentions the rule is reviewed. -/
theorem mention_in_explanation_exempts_nothing :
    read ⟨"//nolint: errcheck\n// not nolintlint", {}⟩ =
      .ok ⟨"//nolint: errcheck\n// not nolintlint", {}, "", ["errcheck"], "// not nolintlint"⟩ ∧
    isSelfExempt {} ⟨"//nolint: errcheck\n// not nolintlint", {}⟩ = false := by
  have h : read ⟨"//nolint: errcheck\n// not nolintlint", {}⟩ =
      .ok ⟨"//nolint: errcheck\n// not nolintlint", {}, "", ["errcheck"], "// not nolintlint"⟩ := by
    decide
  exact ⟨h, (((exempt_iff_names_rule h).2 {}).2 (by decide)).1⟩

/-! ## Where a finding comes from -/

lemma leadingBlanks_of_mem_spacing {config : RuleConfig} {s : List Char} {finding : Finding}
    (h : finding ∈ spacing config s) :
    (finding = .extraSpace ∨ finding = .notMachineReadable) ∧ leadingBlanks s ≠ [] := by
  rw [spacing, List.mem_append] at h
  refine ⟨?_, ?_⟩
  · refine h.imp (fun h => ?_) (fun h => ?_)
    · exact List.mem_singleton.mp (List.mem_ite_nil_right.mp h).2
    · exact List.mem_singleton.mp (List.mem_ite_nil_right.mp h).2
  · rintro hnil
    simp [hnil] at h

lemma Directive.mem_findings_cases {config : RuleConfig} {d : Directive} {finding : Finding}
    (h : finding ∈ d.findings config) :
    (finding = .notSpecific ∧ d.linters = []) ∨
      (∃ linter, finding = .unusedCandidate linter) ∨
      (finding = .noExplanation d.unexplained ∧ d.isExplained = false) := by
  rw [Directive.findings, List.mem_append, List.mem_append] at h
  rcases h with (h | h) | h
  · left
    obtain ⟨hdue, h⟩ := List.mem_ite_nil_right.mp h
    rw [Bool.and_eq_true, List.isEmpty_iff] at hdue
    exact ⟨List.mem_singleton.mp h, hdue.2⟩
  · right; left
    obtain ⟨-, h⟩ := List.mem_ite_nil_right.mp h
    obtain ⟨linter, -, hlinter⟩ := List.mem_map.mp h
    exact ⟨linter, hlinter.symm⟩
  · right; right
    obtain ⟨hdue, h⟩ := List.mem_ite_nil_right.mp h
    rw [Bool.and_eq_true, Bool.and_eq_true, Bool.not_eq_true'] at hdue
    exact ⟨List.mem_singleton.mp h, hdue.1.2⟩

lemma mem_findings_cases {config : RuleConfig} {comment : Comment} {finding : Finding}
    (h : finding ∈ findings config comment) :
    resembles comment.text.toList = true ∧
      (finding ∈ spacing config comment.text.toList ∨
        (∃ e, read comment = .error e ∧ finding = .malformed) ∨
        ∃ d, read comment = .ok d ∧ finding ∈ d.findings config) := by
  rw [findings] at h
  split at h
  · exact absurd h List.not_mem_nil
  · next hcandidate =>
    simp only [Bool.or_eq_true, Bool.not_eq_true', not_or, Bool.not_eq_false] at hcandidate
    refine ⟨hcandidate.1, ?_⟩
    rcases List.mem_append.mp h with h | h
    · exact Or.inl h
    · right
      cases hread : read comment with
      | error e =>
          rw [hread] at h
          exact Or.inl ⟨e, rfl, List.mem_singleton.mp h⟩
      | ok d =>
          rw [hread] at h
          exact Or.inr ⟨d, rfl, h⟩

/-- The blanks are found in front of the grammar, and only there. -/
lemma mem_spacing_of_mem_findings {config : RuleConfig} {comment : Comment} {finding : Finding}
    (h : finding ∈ findings config comment)
    (hfinding : finding = .extraSpace ∨ finding = .notMachineReadable) :
    resembles comment.text.toList = true ∧ finding ∈ spacing config comment.text.toList := by
  obtain ⟨hresembles, hspacing | ⟨_, -, rfl⟩ | ⟨d, -, hd⟩⟩ := mem_findings_cases h
  · exact ⟨hresembles, hspacing⟩
  · rcases hfinding with h | h <;> cases h
  · rcases d.mem_findings_cases hd with ⟨rfl, -⟩ | ⟨_, rfl⟩ | ⟨rfl, -⟩ <;>
      rcases hfinding with h | h <;> cases h

lemma exists_error_of_malformed {config : RuleConfig} {comment : Comment}
    (h : .malformed ∈ findings config comment) : ∃ e, read comment = .error e := by
  obtain ⟨-, hspacing | ⟨e, hread, -⟩ | ⟨d, -, hd⟩⟩ := mem_findings_cases h
  · rcases (leadingBlanks_of_mem_spacing hspacing).1 with h | h <;> cases h
  · exact ⟨e, hread⟩
  · rcases d.mem_findings_cases hd with ⟨h, -⟩ | ⟨_, h⟩ | ⟨h, -⟩ <;> cases h

/-- Everything else is found about a directive that is read and does not name the rule. -/
lemma exists_read_of_mem_findings {config : RuleConfig} {comment : Comment} {finding : Finding}
    (h : finding ∈ findings config comment)
    (hspacing : ¬ (finding = .extraSpace ∨ finding = .notMachineReadable))
    (hmalformed : finding ≠ .malformed) :
    ∃ d, read comment = .ok d ∧ config.ruleName ∉ d.linters ∧ finding ∈ d.findings config := by
  obtain ⟨-, hmem | ⟨_, -, hmem⟩ | ⟨d, hread, hd⟩⟩ := mem_findings_cases h
  · exact absurd (leadingBlanks_of_mem_spacing hmem).1 hspacing
  · exact absurd hmem hmalformed
  · refine ⟨d, hread, fun hname => ?_, hd⟩
    have hexempt : isSelfExempt config comment = true :=
      (targets_iff_mem_linters hread config.ruleName).mpr hname
    simp [findings, hexempt] at h

/-! ## The findings -/

/-- What is due for a number of leading blanks. -/
def spacingDue (config : RuleConfig) (width : Nat) : List Finding :=
  (if 2 ≤ width then [.extraSpace] else []) ++
    (if config.checks.machineReadable = true ∧ 1 ≤ width then [.notMachineReadable] else [])

/-- What is due for a comment that follows the grammar and names these linters. -/
def policyDue (config : RuleConfig) (text : List Char) (names : List String) : List Finding :=
  (if config.checks.specific = true ∧ names = [] then [.notSpecific] else []) ++
    (if config.checks.unused = true then
      if names = [] then [.unusedCandidate ""] else names.map .unusedCandidate
    else []) ++
    (if config.checks.explanation = true ∧ Unexplained text ∧
        (names = [] ∨ ∃ name ∈ names, name ∉ config.exempt) then
      [.noExplanation (String.ofList (withoutBlankTail text))]
    else [])

lemma spacing_eq_due {config : RuleConfig} {s : List Char} (h : resembles s = true) :
    spacing config s = spacingDue config ((s.drop 2).takeWhile isAsciiBlank).length := by
  obtain ⟨lead, rest, hlead, rfl, -⟩ := resembles_iff.mp h
  have hwidth : ((marker ++ (lead ++ (keyword ++ rest))).drop 2).takeWhile isAsciiBlank = lead :=
    takeWhile_run hlead (head?_keyword_append (by decide) rest)
  rw [hwidth, spacing, leadingBlanks_of_keyword hlead, spacingDue]
  simp only [Bool.and_eq_true, decide_eq_true_eq, Nat.lt_iff_add_one_le, Nat.zero_add]

lemma Directive.needsExplanation_iff {config : RuleConfig} {d : Directive} :
    d.needsExplanation config = true ↔
      d.linters = [] ∨ ∃ name ∈ d.linters, name ∉ config.exempt := by
  simp only [needsExplanation, Bool.or_eq_true, List.isEmpty_iff, List.any_eq_true,
    Bool.not_eq_true', Bool.eq_false_iff, ne_eq, List.contains_iff_mem]

lemma findings_eq_due {config : RuleConfig} {comment : Comment} {d : Directive}
    (h : read comment = .ok d) :
    d.findings config = policyDue config comment.text.toList d.linters := by
  have hexplanation : (config.checks.explanation && !d.isExplained && d.needsExplanation config)
      = true ↔ config.checks.explanation = true ∧ Unexplained comment.text.toList ∧
        (d.linters = [] ∨ ∃ name ∈ d.linters, name ∉ config.exempt) := by
    rw [Bool.and_eq_true, Bool.and_eq_true, Bool.not_eq_true', isExplained_eq_false_iff h,
      needsExplanation_iff, and_assoc]
  have hbare : d.unexplained = String.ofList (withoutBlankTail comment.text.toList) := by
    rw [unexplained, (text_of_read h).1]
  rw [Directive.findings, policyDue, if_congr hexplanation rfl rfl, hbare, candidates]
  simp only [Bool.and_eq_true, List.isEmpty_iff, apply_ite (List.map Finding.unusedCandidate),
    List.map_cons, List.map_nil]

/-- **A review reports what is due**, in order, and nothing else.  Nothing is due for a comment that
does not resemble a directive or lists the rule.  For any other comment the findings about its
leading blanks come first; then a comment that does not follow the grammar is malformed, and one
that does gets the findings of the policies, whichever of its layouts is taken. -/
theorem review_reports_what_is_due (config : RuleConfig) (comment : Comment) :
    let text := comment.text.toList
    let width := ((text.drop 2).takeWhile isAsciiBlank).length
    (¬ (resembles text = true ∧ targets text config.ruleName.toList = false) →
      review config comment = []) ∧
    (resembles text = true → targets text config.ruleName.toList = false →
      ((¬ ∃ l : Layout, l.WellFormed ∧ l.chars = text) →
        review config comment =
          (spacingDue config width ++ [Finding.malformed]).map (Issue.about comment)) ∧
      (∀ l : Layout, l.WellFormed → l.chars = text →
        review config comment =
          (spacingDue config width ++ policyDue config text l.names).map
            (Issue.about comment))) := by
  intro text width
  refine ⟨?_, fun hresembles hexempt => ⟨fun hmalformed => ?_, fun l hwf hchars => ?_⟩⟩
  · intro h
    rw [not_and, Bool.not_eq_false] at h
    cases hresembles : resembles text with
    | false => exact review_of_not_resembles hresembles
    | true => exact review_of_isSelfExempt (h hresembles)
  · rw [review_of_candidate hresembles hexempt, read_of_no_layout hmalformed,
      spacing_eq_due hresembles]
  · have hread := read_of_layout hwf hchars
    have hnames : (ofLayout comment l.settled).linters = l.names := l.names_settled
    rw [review_of_candidate hresembles hexempt, hread, spacing_eq_due hresembles]
    dsimp only
    rw [findings_eq_due hread, hnames]

/-- With every check on, a directive that names nothing and explains nothing gets all there is. -/
example :
    findings { checks := ⟨true, true, true, true⟩ } ⟨"//  nolint // ", {}⟩ =
      [.extraSpace, .notMachineReadable, .notSpecific, .unusedCandidate "",
        .noExplanation "//  nolint"] := by
  decide

end DirectiveLint
