import DirectiveLint.Proofs.Repair

/-!
# What the suggestions repair

Three issues suggest another comment.  This module follows two of the suggestions, to close the
comment up and to name a linter; what an explanation repairs has a module of its own.

**Closing up.**  Everything behind the leading blanks is blind to them: the permissive tier
(`resembles_closedUp`, `targets_closedUp`), the reader (`read_closeUp`, `read_closeUp_error`) and
the policies (`Directive.findings_closedUp`).  Hence a closed-up comment has the findings it had,
those about its spacing apart (`findings_closedUp`), and `closing_up_repairs_spacing`: **the
suggestion repairs the leading blanks and nothing else.**

**Naming a linter.**  The suggestion is made from the normal form of a comment that follows the
grammar, so it is the keyword with one linter and no explanation.  `findings_specified` is all that
is left to find about it, and `named_linter_is_specific` what is not.
-/

namespace DirectiveLint

open Text Directive

/-! ## Closing up -/

/-- The finding about the closed-up comment: only the missing explanation shows a text. -/
def Finding.closedUp : Finding → Finding
  | .noExplanation bare => .noExplanation (Issue.closeUp bare)
  | finding => finding

lemma Directive.resembles_closedUp {comment : Comment}
    (h : resembles comment.text.toList = true) :
    resembles (closedUp comment).text.toList = true := by
  obtain ⟨lead, rest, hlead, hs, hrest⟩ := resembles_iff.mp h
  rw [closedUp, toList_closeUp hlead hs]
  exact resembles_iff.mpr ⟨[], rest, rfl, rfl, hrest⟩

/-- **The scan for a linter finds what it found.** -/
lemma Directive.targets_closedUp {comment : Comment} (h : resembles comment.text.toList = true)
    (name : List Char) :
    targets (closedUp comment).text.toList name = targets comment.text.toList name := by
  obtain ⟨lead, rest, hlead, hs, -⟩ := resembles_iff.mp h
  rw [targets, targets, closedUp, toList_closeUp hlead hs, hs, listed_of_keyword hlead]

/-- A directive without its empty explanation is closed up as it is. -/
lemma Directive.unexplained_closedUp {comment : Comment} {d : Directive}
    (h : read comment = .ok d) :
    ({ d with text := (closedUp comment).text, leading := "" } : Directive).unexplained
      = Issue.closeUp d.unexplained := by
  obtain ⟨lead, rest, hlead, hs, -⟩ := resembles_iff.mp (resembles_of_read h)
  have hbare : d.unexplained.toList
      = marker ++ (lead ++ (keyword ++ withoutBlankTail rest)) := by
    rw [unexplained, String.toList_ofList, (text_of_read h).1, hs, withoutBlankTail_of_keyword]
  have hclosed : withoutBlankTail (marker ++ (keyword ++ rest))
      = marker ++ (keyword ++ withoutBlankTail rest) := withoutBlankTail_of_keyword [] rest
  rw [← String.toList_inj, toList_closeUp hlead hbare, unexplained, String.toList_ofList, closedUp,
    toList_closeUp hlead hs, hclosed]

/-- **The policies do not see the leading blanks.** -/
lemma Directive.findings_closedUp {config : RuleConfig} {comment : Comment} {d : Directive}
    (h : read comment = .ok d) :
    ({ d with text := (closedUp comment).text, leading := "" } : Directive).findings config
      = (d.findings config).map Finding.closedUp := by
  have hcandidates : d.candidates.map (Finding.closedUp ∘ Finding.unusedCandidate)
      = d.candidates.map .unusedCandidate := rfl
  rw [findings, findings, unexplained_closedUp h, List.map_append, List.map_append,
    apply_ite (List.map Finding.closedUp), apply_ite (List.map Finding.closedUp),
    apply_ite (List.map Finding.closedUp), List.map_map, hcandidates]
  rfl

/-- The finding is not about the leading blanks. -/
def Finding.outlastsClosing (finding : Finding) : Bool :=
  finding ≠ .extraSpace ∧ finding ≠ .notMachineReadable

lemma filter_spacing (config : RuleConfig) (s : List Char) :
    (spacing config s).filter Finding.outlastsClosing = [] := by
  rw [List.filter_eq_nil_iff]
  intro finding hfinding
  rcases (leadingBlanks_of_mem_spacing hfinding).1 with rfl | rfl <;> decide

lemma Directive.filter_findings (config : RuleConfig) (d : Directive) :
    (d.findings config).filter Finding.outlastsClosing = d.findings config := by
  rw [List.filter_eq_self]
  intro finding hfinding
  rcases d.mem_findings_cases hfinding with ⟨rfl, -⟩ | ⟨linter, rfl⟩ | ⟨rfl, -⟩ <;> rfl

/-- **A closed-up comment has the findings it had**, those about its spacing apart. -/
lemma findings_closedUp {config : RuleConfig} {comment : Comment}
    (h : resembles comment.text.toList = true) :
    findings config (closedUp comment)
      = ((findings config comment).filter Finding.outlastsClosing).map Finding.closedUp := by
  have hexempt : isSelfExempt config (closedUp comment) = isSelfExempt config comment :=
    targets_closedUp h _
  have hspacing : spacing config (closedUp comment).text.toList = [] := by
    rw [spacing, leadingBlanks_closedUp h]
    simp
  cases hself : isSelfExempt config comment with
  | true => simp [findings, hself, hexempt]
  | false =>
      rw [findings_of_candidate h hself, findings_of_candidate (resembles_closedUp h)
        (hexempt.trans hself), hspacing, List.nil_append, List.filter_append, filter_spacing,
        List.nil_append]
      cases hread : read comment with
      | error e =>
          rw [read_closeUp_error h hread]
          rfl
      | ok d =>
          rw [read_closeUp hread]
          dsimp only
          rw [Directive.filter_findings, Directive.findings_closedUp hread]

/-- **Closing up repairs the leading blanks and nothing else.**  If a review misses a comment that
machines can read, the comment is the marker, blanks, the keyword and a rest, and what is suggested
is the same without the blanks.  It reads as the comment does, or is malformed as the comment is;
it names the same linters; and a review of it finds what it has found before, in the same order,
but for the two findings about the blanks. -/
theorem closing_up_repairs_spacing {config : RuleConfig} {comment : Comment} {issue : Issue}
    (hissue : issue ∈ review config comment) (hfinding : issue.finding = .notMachineReadable) :
    ∃ lead rest text, lead ≠ [] ∧ lead.all isAsciiBlank = true ∧
      comment.text.toList = marker ++ (lead ++ (keyword ++ rest)) ∧
      issue.suggestion = some text ∧ text.toList = marker ++ (keyword ++ rest) ∧
      (∀ d, read comment = .ok d →
        read { comment with text := text } = .ok { d with text := text, leading := "" }) ∧
      (∀ e, read comment = .error e → read { comment with text := text } = .error ⟨text⟩) ∧
      (∀ name, targets text.toList name = targets comment.text.toList name) ∧
      (review config { comment with text := text }).map (·.finding) =
        (((review config comment).map (·.finding)).filter fun finding =>
          finding ≠ .extraSpace ∧ finding ≠ .notMachineReadable).map Finding.closedUp := by
  obtain ⟨finding, hmem, rfl⟩ := List.mem_map.mp hissue
  obtain rfl : finding = .notMachineReadable := hfinding
  obtain ⟨hresembles, hspacing⟩ := mem_spacing_of_mem_findings hmem (Or.inr rfl)
  obtain ⟨lead, rest, hlead, hs, -⟩ := resembles_iff.mp hresembles
  have hne : lead ≠ [] := by
    rw [← leadingBlanks_of_keyword hlead rest, ← hs]
    exact (leadingBlanks_of_mem_spacing hspacing).2
  refine ⟨lead, rest, _, hne, hlead, hs, rfl, toList_closeUp hlead hs, fun d => read_closeUp,
    fun e => read_closeUp_error hresembles, targets_closedUp hresembles, ?_⟩
  rw [map_finding_review, map_finding_review]
  exact findings_closedUp hresembles

/-- Of three findings one is left, and the text it shows is closed up: the em space behind the
second marker is no blank of the grammar. -/
theorem closing_up_keeps_missing_explanation :
    let comment : Comment := { text := "//\t nolint: a\n // \u2003" }
    let after : Comment := { text := "//nolint: a\n // \u2003" }
    Issue.about comment .notMachineReadable ∈ review {} comment ∧
      (Issue.about comment .notMachineReadable).suggestion = some after.text ∧
      (review {} comment).map (·.finding) =
        [.extraSpace, .notMachineReadable, .noExplanation comment.text] ∧
      (review {} after).map (·.finding) = [.noExplanation after.text] := by
  have hissue : Issue.about { text := "//\t nolint: a\n // \u2003" } .notMachineReadable ∈
      review {} { text := "//\t nolint: a\n // \u2003" } := by decide
  have hsuggestion : (Issue.about { text := "//\t nolint: a\n // \u2003" }
      .notMachineReadable).suggestion = some "//nolint: a\n // \u2003" := by decide
  have hbefore : (review {} { text := "//\t nolint: a\n // \u2003" }).map (·.finding) =
      [.extraSpace, .notMachineReadable, .noExplanation "//\t nolint: a\n // \u2003"] := by decide
  obtain ⟨-, -, text, -, -, -, htext, -, -, -, -, hafter⟩ := closing_up_repairs_spacing hissue rfl
  obtain rfl := Option.some.inj (hsuggestion.symm.trans htext)
  rw [hbefore] at hafter
  exact ⟨hissue, hsuggestion, hbefore, hafter.trans (by decide)⟩

/-! ## Naming a linter -/

/-- The comment ends in the name of the linter, so nothing is taken off its end. -/
lemma Directive.withoutBlankTail_specified (comment : Comment) :
    withoutBlankTail (specified comment).text.toList = (specified comment).text.toList := by
  have hconcat : (specified comment).text.toList
      = normalForm comment.text.toList ++ ":my-linte".toList ++ ['r'] := by
    rw [specified, String.toList_append, String.toList_ofList, List.append_assoc]
    rfl
  rw [hconcat, withoutBlankTail_concat _ (by decide) (by decide)]

/-- **What is left to find about a comment that names the suggested linter**: the leading blank that
is kept, the linter itself, and that the explanation is gone. -/
lemma findings_specified {config : RuleConfig} {comment : Comment} {d : Directive}
    (h : read comment = .ok d) :
    findings config (specified comment) =
      if config.ruleName = "my-linter" then []
      else
        (if config.checks.machineReadable = true ∧ d.leading ≠ "" then [.notMachineReadable]
          else []) ++
        ((if config.checks.unused = true then [.unusedCandidate "my-linter"] else []) ++
        (if config.checks.explanation = true ∧ "my-linter" ∉ config.exempt then
          [.noExplanation (specified comment).text] else [])) := by
  have hread := read_specified h
  by_cases hname : config.ruleName = "my-linter"
  · have hexempt : isSelfExempt config (specified comment) = true :=
      (targets_iff_mem_linters hread _).mpr (List.mem_singleton.mpr hname)
    rw [if_pos hname, findings, hexempt, Bool.or_true, if_pos rfl]
  · have hblanks : leadingBlanks (specified comment).text.toList
        = if d.leading = "" then [] else [' '] := by
      rw [← leading_of_read hread, apply_ite String.toList]
      rfl
    have hspacing : spacing config (specified comment).text.toList =
        if config.checks.machineReadable = true ∧ d.leading ≠ "" then [.notMachineReadable]
        else [] := by
      rw [spacing, hblanks]
      by_cases hleading : d.leading = ""
      · simp [hleading]
      · simp [hleading]
    rw [if_neg hname, findings_of_read hread (by simpa using hname), hspacing, Directive.findings,
      unexplained, withoutBlankTail_specified, String.ofList_toList]
    simp [isExplained, needsExplanation, candidates]

/-- **A comment that names the suggested linter is specific.**  If a review misses a linter, what it
suggests follows the grammar, names the suggested linter and no other, and keeps one leading blank
if there was any.  A review of it does not miss a linter again, and finds neither too many blanks
nor a fault in the grammar. -/
theorem named_linter_is_specific {config : RuleConfig} {comment : Comment} {issue : Issue}
    (hissue : issue ∈ review config comment) (hfinding : issue.finding = .notSpecific) :
    ∃ text d, issue.suggestion = some text ∧ read { comment with text := text } = .ok d ∧
      d.linters = ["my-linter"] ∧
      d.leadingWidth = min 1 (leadingBlanks comment.text.toList).length ∧
      ∀ left ∈ review config { comment with text := text },
        left.finding ≠ .notSpecific ∧ left.finding ≠ .extraSpace ∧ left.finding ≠ .malformed := by
  obtain ⟨finding, hmem, rfl⟩ := List.mem_map.mp hissue
  obtain rfl : finding = .notSpecific := hfinding
  obtain ⟨d, hread, -, -⟩ := exists_read_of_mem_findings hmem (by simp) (by simp)
  refine ⟨_, _, rfl, read_specified hread, rfl, ?width, ?left⟩
  case width =>
    rw [← leading_of_read hread, String.length_toList]
    show (if d.leading = "" then "" else " ").length = min 1 d.leading.length
    by_cases hleading : d.leading = ""
    · rw [if_pos hleading, hleading]
      rfl
    · have hlength : 0 < d.leading.length := by
        rwa [Nat.pos_iff_ne_zero, ne_eq, String.length_eq_zero_iff]
      rw [if_neg hleading, min_eq_left hlength]
      rfl
  case left =>
    intro left hleft
    have hleft' : left.finding ∈ findings config (specified comment) := by
      rw [← map_finding_review]
      exact List.mem_map_of_mem hleft
    rw [findings_specified hread] at hleft'
    simp only [List.mem_ite_nil_left, List.mem_append, List.mem_ite_nil_right,
      List.mem_singleton] at hleft'
    obtain ⟨-, ⟨-, h⟩ | ⟨-, h⟩ | ⟨-, h⟩⟩ := hleft' <;> simp [h]

/-- A colon in the explanation does not get into the suggestion. -/
theorem named_linter_is_specific_behind_blanks :
    let comment : Comment := { text := "//\u000c nolint\n// see: //issue" }
    let after : Comment := { text := "// nolint:my-linter" }
    Issue.about comment .notSpecific ∈ review {} comment ∧
      (Issue.about comment .notSpecific).suggestion = some after.text ∧
      (∃ d, read after = .ok d ∧ d.linters = ["my-linter"] ∧ d.leadingWidth = 1) ∧
      .notSpecific ∉ (review {} after).map (·.finding) := by
  have hissue : Issue.about { text := "//\u000c nolint\n// see: //issue" } .notSpecific ∈
      review {} { text := "//\u000c nolint\n// see: //issue" } := by decide
  have hsuggestion : (Issue.about { text := "//\u000c nolint\n// see: //issue" }
      .notSpecific).suggestion = some "// nolint:my-linter" := by decide
  obtain ⟨text, d, htext, hread, hlinters, hwidth, hleft⟩ := named_linter_is_specific hissue rfl
  obtain rfl := Option.some.inj (hsuggestion.symm.trans htext)
  refine ⟨hissue, hsuggestion, ⟨d, hread, hlinters, hwidth⟩, fun hmem => ?_⟩
  obtain ⟨left, hmem, hspecific⟩ := List.mem_map.mp hmem
  exact (hleft left hmem).1 hspecific

end DirectiveLint
