import DirectiveLint.Rule
import DirectiveLint.SourceFiles

/-!
# The linter

A linter is a list of rules in the order in which they were registered.  It starts with the rule
about directives and can be given more.

* `Linter.ofConfig`, `Linter.register` — building one.
* `Linter.rule?` — the first rule of a name.
* `Linter.analyze` — the issues of a file: those of each rule, one rule after the other.
* `Linter.analyzeFiles` — the issues of several files, or the first failure among them.

A linter keeps nothing but its rules, so every answer depends on what has been registered so far
and on the question, and on nothing else.
-/

namespace DirectiveLint

/-- The rules in the order in which they were registered. -/
structure Linter where
  rules : List Rule

namespace Linter

def ofConfig (config : RuleConfig) : Linter :=
  ⟨[Rule.directive config]⟩

def register (linter : Linter) (rule : Rule) : Linter :=
  ⟨linter.rules ++ [rule]⟩

def names (linter : Linter) : List String :=
  linter.rules.map (·.name)

/-- The place of the first rule of a name. -/
def index? (linter : Linter) (name : String) : Option Nat :=
  linter.rules.findIdx? (·.name == name)

def rule? (linter : Linter) (name : String) : Option Rule :=
  linter.rules.find? (·.name == name)

/-- **The issues of a file**, rule by rule. -/
def analyze (linter : Linter) (file : SourceFile) : List Issue :=
  linter.rules.flatMap fun rule => rule.check file

section Sources

variable [Grammars]

def loadSource (language path : String) (source : List UInt8) :
    Except Language.Unsupported SourceFile :=
  (Language.ofName language).map fun l => SourceFile.ofSource l path source

def analyzeSource (linter : Linter) (language path : String) (source : List UInt8) :
    Except Language.Unsupported (List Issue) :=
  (loadSource language path source).map linter.analyze

def analyzePath (linter : Linter) (fs : FileSystem) (path : FilePath) :
    Except LoadFailure (List Issue) :=
  (fs.load path).map linter.analyze

/-- The issues of several files in order; the first file that fails makes the whole fail. -/
def analyzeFiles (linter : Linter) (fs : FileSystem) (paths : List FilePath) :
    Except LoadFailure (List Issue) :=
  (paths.mapM (linter.analyzePath fs)).map List.flatten

/-- A source in a language that is there is analysed by the tree of that language. -/
theorem analyzeSource_name (linter : Linter) (language : Language) (path : String)
    (source : List UInt8) : linter.analyzeSource language.name path source =
      .ok (linter.analyze (SourceFile.ofTree source path (language.tree source))) := by
  rw [analyzeSource, loadSource, Language.ofName_name]
  rfl

theorem analyzeFiles_cons (linter : Linter) (fs : FileSystem) (path : FilePath)
    (paths : List FilePath) : linter.analyzeFiles fs (path :: paths) = do
      let issues ← linter.analyzePath fs path
      let rest ← linter.analyzeFiles fs paths
      return issues ++ rest := by
  rw [analyzeFiles, analyzeFiles, List.mapM_cons]
  cases linter.analyzePath fs path with
  | error failure => rfl
  | ok issues => cases paths.mapM (linter.analyzePath fs) <;> rfl

/-- **Several files are loaded one after the other**, whatever the rules, and then the rules see
each of them. -/
theorem analyzeFiles_eq (linter : Linter) (fs : FileSystem) (paths : List FilePath) :
    linter.analyzeFiles fs paths =
      (paths.mapM fs.load).map fun files => files.flatMap linter.analyze := by
  induction paths with
  | nil => rfl
  | cons path paths ih =>
    rw [analyzeFiles_cons, ih, List.mapM_cons, analyzePath]
    cases fs.load path with
    | error failure => rfl
    | ok file => cases paths.mapM fs.load <;> rfl

end Sources

/-- A linter that was given no other rules reviews the comments of a file one after the other. -/
theorem analyze_ofConfig (config : RuleConfig) (file : SourceFile) :
    (ofConfig config).analyze file = file.comments.flatMap (review config) :=
  List.append_nil _

/-! ## What registering changes -/

@[simp] theorem rules_register (linter : Linter) (rule : Rule) :
    (linter.register rule).rules = linter.rules ++ [rule] := rfl

/-- **A new rule adds its issues behind those of the others.** -/
theorem analyze_register (linter : Linter) (rule : Rule) (file : SourceFile) :
    (linter.register rule).analyze file = linter.analyze file ++ rule.check file := by
  simp [analyze]

theorem rule?_register_of_some {linter : Linter} {rule found : Rule} {name : String}
    (h : linter.rule? name = some found) : (linter.register rule).rule? name = some found := by
  simp only [rule?] at h
  simp [rule?, List.find?_append, h]

end Linter

end DirectiveLint
