import DirectiveLint.Issue
import DirectiveLint.RuleConfig

/-!
# Reviewing comments

What the directive rule has to say about one comment.  Nothing, unless the comment resembles a
directive; and nothing, if it names the rule itself among its linters.

* `spacing` — findings about the blanks before the keyword.  They are made before the grammar is
  tried, so a malformed directive gets them too.
* `Directive.findings` — findings about a directive that follows the grammar.
* `findings` — all findings about a comment, in the order they are reported.
* `review` — the issues these findings make.

A malformed directive gets exactly one finding besides those about its spacing, and no policy is
applied to it.
-/

namespace DirectiveLint

/-- Findings about the blanks before the keyword.  More than one is always too many. -/
def spacing (config : RuleConfig) (text : List Char) : List Finding :=
  let width := (Directive.leadingBlanks text).length
  (if 1 < width then [.extraSpace] else []) ++
    (if config.checks.machineReadable && 0 < width then [.notMachineReadable] else [])

namespace Directive

/-- A directive needs no explanation if it names linters and every one of them is exempt. -/
def needsExplanation (config : RuleConfig) (d : Directive) : Bool :=
  d.linters.isEmpty || d.linters.any fun linter => !config.exempt.contains linter

/-- The linters that a later pass has to confirm: all that are named, or the empty name for a
directive that covers every linter. -/
def candidates (d : Directive) : List String :=
  if d.linters.isEmpty then [""] else d.linters

def findings (config : RuleConfig) (d : Directive) : List Finding :=
  (if config.checks.specific && d.linters.isEmpty then [.notSpecific] else []) ++
    (if config.checks.unused then d.candidates.map .unusedCandidate else []) ++
    (if config.checks.explanation && !d.isExplained && d.needsExplanation config then
      [.noExplanation d.unexplained] else [])

end Directive

/-- The comment names the rule among its linters, and is left alone. -/
def isSelfExempt (config : RuleConfig) (comment : Comment) : Bool :=
  Directive.targets comment.text.toList config.ruleName.toList

/-- **All findings about a comment**, in the order they are reported. -/
def findings (config : RuleConfig) (comment : Comment) : List Finding :=
  if !Directive.resembles comment.text.toList || isSelfExempt config comment then []
  else
    spacing config comment.text.toList ++
      match Directive.read comment with
      | .error _ => [.malformed]
      | .ok d => d.findings config

def review (config : RuleConfig) (comment : Comment) : List Issue :=
  (findings config comment).map (Issue.about comment)

/-! ## What no configuration changes -/

theorem review_of_not_resembles {config : RuleConfig} {comment : Comment}
    (h : Directive.resembles comment.text.toList = false) : review config comment = [] := by
  simp [review, findings, h]

theorem review_of_isSelfExempt {config : RuleConfig} {comment : Comment}
    (h : isSelfExempt config comment = true) : review config comment = [] := by
  simp [review, findings, h]

theorem full_of_mem_review {config : RuleConfig} {comment : Comment} {issue : Issue}
    (h : issue ∈ review config comment) :
    issue.full = comment.text ∧ issue.position = comment.position := by
  obtain ⟨finding, _, rfl⟩ := List.mem_map.1 h
  exact ⟨rfl, rfl⟩

end DirectiveLint
