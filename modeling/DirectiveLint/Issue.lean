import DirectiveLint.Directive.Basic
import DirectiveLint.Severity

/-!
# Issues

An issue is a finding about one directive comment.

* `Finding` — what is wrong, with what only this kind of finding knows.
* `Issue` — a finding, the comment it is about, the comment's normal form and its position.
* `Issue.suggestion` — a corrected comment, where one can be derived.
* `Issue.details` — the message.

The rule identifier and the severity belong to the kind of finding alone.
-/

namespace DirectiveLint

open Text

inductive Finding where
  | extraSpace
  /-- Blanks between the marker and the keyword, which machines do not skip. -/
  | notMachineReadable
  | notSpecific
  /-- The comment resembles a directive and does not follow the grammar. -/
  | malformed
  /-- The directive may suppress nothing: whether it does for this linter is for a later pass to
  find out.  The name is empty for a directive that names no linter. -/
  | unusedCandidate (linter : String)
  /-- The directive does not say why it is there; `bare` is the comment without its empty
  explanation. -/
  | noExplanation (bare : String)
  deriving DecidableEq, Repr

namespace Finding

def ruleId : Finding → String
  | extraSpace => "extra-leading-space"
  | notMachineReadable => "not-machine-readable"
  | notSpecific => "not-specific"
  | malformed => "parse-error"
  | unusedCandidate _ => "unused"
  | noExplanation _ => "no-explanation"

def severity : Finding → Severity
  | extraSpace | notMachineReadable => .style
  | notSpecific | noExplanation _ => .warning
  | malformed => .error
  | unusedCandidate _ => .info

end Finding

structure Issue where
  finding : Finding
  full : String
  canonical : String
  position : Position
  deriving DecidableEq, Repr

namespace Issue

def about (comment : Comment) (finding : Finding) : Issue where
  finding
  full := comment.text
  canonical := String.ofList (Directive.normalForm comment.text.toList)
  position := comment.position

def ruleId (issue : Issue) : String :=
  issue.finding.ruleId

def severity (issue : Issue) : Severity :=
  issue.finding.severity

/-- The comment without the blanks behind its first two characters. -/
def closeUp (full : String) : String :=
  String.ofList (full.toList.take 2 ++ trimStart isBlank (full.toList.drop 2))

/-- **The corrected comment**, where one can be derived from the issue alone. -/
def suggestion (issue : Issue) : Option String :=
  match issue.finding with
  | .notMachineReadable => some (closeUp issue.full)
  | .notSpecific => some (issue.canonical ++ ":my-linter")
  | .noExplanation bare => some (bare ++ " // this is why")
  | .extraSpace | .malformed | .unusedCandidate _ => none

def code (text : String) : String :=
  "`" ++ text ++ "`"

def details (issue : Issue) : String :=
  "directive " ++ code issue.full ++
    match issue.finding with
    | .extraSpace => " should not have more than one leading space"
    | .notMachineReadable =>
      " should be written without leading space as " ++ code (closeUp issue.full)
    | .notSpecific =>
      " should mention specific linter such as " ++ code (issue.canonical ++ ":my-linter")
    | .malformed =>
      " should match " ++
        code (issue.canonical ++ "[:<comma-separated-linters>] [// <explanation>]")
    | .unusedCandidate linter =>
      " is unused" ++ if linter.isEmpty then "" else " for linter " ++ linter
    | .noExplanation bare =>
      " should provide explanation such as " ++ code (bare ++ " // this is why")

def render (issue : Issue) : String :=
  issue.details ++ " at " ++ issue.position.render

/-- **The message shows the suggestion** in backquotes at its end, whenever there is one. -/
theorem details_ends_with_suggestion {issue : Issue} {s : String} (h : issue.suggestion = some s) :
    ∃ front, issue.details = front ++ code s := by
  obtain ⟨finding, full, canonical, position⟩ := issue
  cases finding with
  | notMachineReadable =>
    obtain rfl := Option.some.inj h
    exact ⟨"directive " ++ code full ++ " should be written without leading space as ", by
      simp [details, String.append_assoc]⟩
  | notSpecific =>
    obtain rfl := Option.some.inj h
    exact ⟨"directive " ++ code full ++ " should mention specific linter such as ", by
      simp [details, String.append_assoc]⟩
  | noExplanation bare =>
    obtain rfl := Option.some.inj h
    exact ⟨"directive " ++ code full ++ " should provide explanation such as ", by
      simp [details, String.append_assoc]⟩
  | extraSpace => cases h
  | malformed => cases h
  | unusedCandidate _ => cases h

end Issue

end DirectiveLint
