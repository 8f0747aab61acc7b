import DirectiveLint.Review

/-!
# Rules

A rule has a name, a description and a check of one file.  The linter runs any number of them.

* `Rule.directive` — the rule about suppression directives, as configured.
* `Rule.forbidding` — a rule that reports every comment with a given text.
* `Rule.run` — the issues of a rule about several things, of which those that are no files are
  skipped.
-/

namespace DirectiveLint

/-- A check of source files under a name. -/
structure Rule where
  /-- The name by which the rule is found, and by which directives can target it. -/
  name : String
  description : String := ""
  check : SourceFile → List Issue

namespace Rule

/-- **The rule about directives** reviews every comment of a file. -/
def directive (config : RuleConfig) : Rule where
  name := config.ruleName
  description :=
    "nolint directives must be well formed, name their linters and explain themselves"
  check file := file.comments.flatMap (review config)

/-- A rule that reports every comment with this text as malformed, with the rule's own name for the
normal form. -/
def forbidding (name text : String) : Rule where
  name
  check file := (file.comments.filter (·.text == text)).map fun comment =>
    ⟨.malformed, comment.text, name, comment.position⟩

/-- The issues of a rule about several things; `none` is a thing that is no file. -/
def run (rule : Rule) (nodes : List (Option SourceFile)) : List Issue :=
  (nodes.filterMap fun node => node).flatMap rule.check

theorem run_append (rule : Rule) (xs ys : List (Option SourceFile)) :
    rule.run (xs ++ ys) = rule.run xs ++ rule.run ys := by
  simp [run]

/-- **The rule about directives looks at comments one by one**, so how they are grouped does not
matter. -/
theorem check_directive_congr {config : RuleConfig} {file file' : SourceFile}
    (h : file.comments = file'.comments) :
    (directive config).check file = (directive config).check file' := by
  simp [directive, h]

end Rule

end DirectiveLint
