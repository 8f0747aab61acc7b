import DirectiveLint.Proofs.Repair

/-!
# What an explanation repairs

A directive that does not say why it is there comes with the suggestion to say so.  Following it
settles this one issue and leaves the directive as it was.

* `Directive.noExplanation_mem_findings_iff` — when an explanation is missing.
* `Directive.findings_eq_append_of_isExplained` — a directive that differs in being explained has
  the findings in front of it, and no other.
* `findings_explained` — hence what is found about the comment that follows the suggestion.  The
  blanks in front of the keyword and the linters are those of the comment (`read_explained`), so it
  is neither exempt now nor was it before.
* `explanation_repairs_one_issue` — **the suggestion repairs this issue and changes nothing else.**
-/

namespace DirectiveLint

open Directive

/-! ## A missing explanation -/

lemma Directive.noExplanation_mem_findings_iff {config : RuleConfig} {d : Directive}
    {bare : String} : .noExplanation bare ∈ d.findings config ↔
      (config.checks.explanation && !d.isExplained && d.needsExplanation config) = true ∧
        bare = d.unexplained := by
  rw [findings, List.mem_append, List.mem_append, List.mem_ite_nil_right, List.mem_ite_nil_right,
    List.mem_ite_nil_right]
  simp

/-- **The finding about the explanation is the last one**, and the others do not look at the
explanation. -/
lemma Directive.findings_eq_append_of_isExplained {config : RuleConfig} {d d' : Directive}
    {bare : String} (h : .noExplanation bare ∈ d.findings config)
    (hlinters : d'.linters = d.linters) (hexplained : d'.isExplained = true) :
    d.findings config = d'.findings config ++ [.noExplanation bare] := by
  obtain ⟨hdue, rfl⟩ := noExplanation_mem_findings_iff.mp h
  have hcandidates : d'.candidates = d.candidates := by rw [candidates, hlinters, candidates]
  rw [findings, if_pos hdue, findings, hlinters, hcandidates, hexplained, Bool.not_true,
    Bool.and_false, Bool.false_and, if_neg Bool.false_ne_true, List.append_nil]

lemma noExplanation_mem_findings {config : RuleConfig} {comment : Comment} {bare : String}
    (h : .noExplanation bare ∈ findings config comment) :
    ∃ d, read comment = .ok d ∧ config.ruleName ∉ d.linters ∧
      .noExplanation bare ∈ d.findings config :=
  exists_read_of_mem_findings h (by simp) (by simp)

/-! ## The comment with an explanation -/

lemma spacing_congr {config : RuleConfig} {s t : List Char}
    (h : leadingBlanks s = leadingBlanks t) : spacing config s = spacing config t := by
  rw [spacing, spacing, h]

/-- **What is found about the explained comment** is what was found without the missing
explanation. -/
lemma findings_explained {config : RuleConfig} {comment : Comment} {d : Directive} {bare : String}
    (hread : read comment = .ok d) (hname : config.ruleName ∉ d.linters)
    (h : .noExplanation bare ∈ d.findings config) :
    ∃ d', read (explained comment) = .ok d' ∧ d'.leading = d.leading ∧ d'.linters = d.linters ∧
      d'.isExplained = true ∧
      findings config comment = findings config (explained comment) ++ [.noExplanation bare] := by
  have hdue := (noExplanation_mem_findings_iff.mp h).1
  rw [Bool.and_eq_true, Bool.and_eq_true, Bool.not_eq_true'] at hdue
  obtain ⟨d', hread', hleading, hlinters, hexplained⟩ := read_explained hread hdue.1.2
  refine ⟨d', hread', hleading, hlinters, hexplained, ?_⟩
  have hblanks : leadingBlanks comment.text.toList =
      leadingBlanks (explained comment).text.toList := by
    rw [← leading_of_read hread, ← leading_of_read hread', hleading]
  rw [findings_of_read hread hname, findings_of_read hread' (hlinters ▸ hname),
    spacing_congr hblanks, findings_eq_append_of_isExplained h hlinters hexplained,
    List.append_assoc]

/-- **The suggested explanation repairs this issue and changes nothing else.**  If a review of a
comment misses the explanation, what it suggests follows the grammar, with the same blanks in front
of the keyword and the same linters, and is explained.  A review of it finds what it has found
before, in the same order, but for the missing explanation, which was found last. -/
theorem explanation_repairs_one_issue {config : RuleConfig} {comment : Comment} {issue : Issue}
    {bare : String} (hissue : issue ∈ review config comment)
    (hfinding : issue.finding = .noExplanation bare) :
    ∃ d d' text, read comment = .ok d ∧ issue.suggestion = some text ∧
      read { comment with text := text } = .ok d' ∧ d'.leading = d.leading ∧
      d'.linters = d.linters ∧ d'.isExplained = true ∧
      (review config comment).map (·.finding) =
        (review config { comment with text := text }).map (·.finding) ++ [.noExplanation bare] ∧
      ∀ left ∈ review config { comment with text := text },
        ∀ bare', left.finding ≠ .noExplanation bare' := by
  obtain ⟨finding, hmem, rfl⟩ := List.mem_map.mp hissue
  obtain rfl : finding = .noExplanation bare := hfinding
  obtain ⟨d, hread, hname, hd⟩ := noExplanation_mem_findings hmem
  obtain ⟨d', hread', hleading, hlinters, hexplained, hfindings⟩ :=
    findings_explained hread hname hd
  have hsuggestion : (Issue.about comment (.noExplanation bare)).suggestion =
      some (explained comment).text := by
    rw [(noExplanation_mem_findings_iff.mp hd).2, unexplained, (text_of_read hread).1]
    rfl
  refine ⟨d, d', _, hread, hsuggestion, hread', hleading, hlinters, hexplained, ?findings, ?left⟩
  case findings =>
    rw [map_finding_review, hfindings, map_finding_review]
    rfl
  case left =>
    intro left hleft bare' hleft'
    have hmem' : .noExplanation bare' ∈ findings config (explained comment) := by
      rw [← map_finding_review, ← hleft']
      exact List.mem_map_of_mem hleft
    obtain ⟨again, hagain, -, hd'⟩ := noExplanation_mem_findings hmem'
    obtain rfl := Except.ok.inj (hread'.symm.trans hagain)
    have hdue := (noExplanation_mem_findings_iff.mp hd').1
    simp [hexplained] at hdue

/-- A second marker with a no-break space behind it stays, since the grammar does not skip it; what
is suggested explains the directive in one line with it. -/
theorem blank_marker_is_explained :
    let comment : Comment := { text := "// nolint:a\n// \u00a0 " }
    let after : Comment := { text := "// nolint:a\n// \u00a0 // this is why" }
    Issue.about comment (.noExplanation "// nolint:a\n// \u00a0") ∈ review {} comment ∧
      (review {} comment).map (·.finding) =
        [.notMachineReadable, .noExplanation "// nolint:a\n// \u00a0"] ∧
      (review {} after).map (·.finding) = [.notMachineReadable] ∧
      ∃ d', read after = .ok d' ∧ d'.linters = ["a"] ∧ d'.isExplained = true := by
  have hissue : Issue.about { text := "// nolint:a\n// \u00a0 " }
      (.noExplanation "// nolint:a\n// \u00a0") ∈
      review {} { text := "// nolint:a\n// \u00a0 " } := by decide
  have hread : read { text := "// nolint:a\n// \u00a0 " } =
      .ok ⟨"// nolint:a\n// \u00a0 ", {}, " ", ["a"], "// \u00a0 "⟩ := by decide
  obtain ⟨d, d', text, hd, hsuggestion, hread', -, hlinters, hexplained, hfindings, -⟩ :=
    explanation_repairs_one_issue hissue rfl
  obtain rfl := Except.ok.inj (hread.symm.trans hd)
  obtain rfl := Option.some.inj hsuggestion
  exact ⟨hissue, by decide, by decide, d', hread', hlinters, hexplained⟩

end DirectiveLint
