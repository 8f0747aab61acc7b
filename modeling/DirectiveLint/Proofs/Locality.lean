import DirectiveLint.Proofs.Grouping
import DirectiveLint.Proofs.Sessions

/-!
# Comments one by one

No directive has a say in what is found about another one.  A comment that is left alone or that is
malformed ends its own review early, and nothing else.

**Loops.**  A rule goes through the groups of a file and through the comments of each group, and
puts what it finds behind what it has found so far; so does a linter with its rules, and a run with
its files.  All of these are `gather`, which never looks back (`gather_append_singleton`), and so
comes to what is found about each thing by itself (`gather_eq_flatMap`).

**From the tree to the issues.**  An engine hands the tree of its parser on, whichever it is
(`Engine.analyzeSource_name`), and the issues of that tree are those of its comment nodes in
preorder, each reviewed alone (`SyntaxTree.analyze_eq`).

**Ordinary comments.**  What does not resemble a directive adds nothing, so a file may lose its
ordinary comments or get others (`analyze_congr_directives`).

`analysis_is_local` puts these together, with what runs of a rule over several things come to.
-/

namespace DirectiveLint

/-! ## Loops -/

section Gather

variable {α β : Type}

/-- **A loop that collects issues**: it begins with none, and puts those of each thing behind the
ones it has. -/
def gather (found : α → List Issue) (things : List α) : List Issue :=
  things.foldl (fun issues thing => issues ++ found thing) []

/-- One more round of the loop leaves what there is as it is. -/
lemma gather_append_singleton (found : α → List Issue) (things : List α) (thing : α) :
    gather found (things ++ [thing]) = gather found things ++ found thing := by
  rw [gather, List.foldl_append]
  rfl

/-- **What the loop comes to** is what is found about each thing by itself. -/
lemma gather_eq_flatMap (found : α → List Issue) (things : List α) :
    gather found things = things.flatMap found := by
  induction things using List.reverseRecOn with
  | nil => rfl
  | append_singleton things thing ih =>
    rw [gather_append_singleton, ih, List.flatMap_append, List.flatMap_singleton]

/-- A loop in a loop goes through all the parts. -/
lemma gather_gather (found : α → List Issue) (parts : List (List α)) :
    gather (gather found) parts = parts.flatten.flatMap found := by
  rw [gather_eq_flatMap, funext (gather_eq_flatMap found), List.flatten_eq_flatMap,
    List.flatMap_assoc]
  rfl

end Gather

namespace Rule

lemma check_directive_eq_gather (config : RuleConfig) (file : SourceFile) :
    (directive config).check file = gather (gather (review config)) file.groups :=
  (gather_gather (review config) file.groups).symm

/-- What a rule finds about one of several things. -/
def checkNode (rule : Rule) : Option SourceFile → List Issue
  | some file => rule.check file
  | none => []

lemma run_eq_gather (rule : Rule) (nodes : List (Option SourceFile)) :
    rule.run nodes = gather rule.checkNode nodes := by
  rw [gather_eq_flatMap, run]
  induction nodes with
  | nil => rfl
  | cons node nodes ih =>
    cases node with
    | none => exact ih
    | some file => exact congrArg (rule.check file ++ ·) ih

end Rule

lemma Linter.analyze_eq_gather (linter : Linter) (file : SourceFile) :
    linter.analyze file = gather (fun rule => rule.check file) linter.rules :=
  (gather_eq_flatMap _ _).symm

/-! ## From the tree to the issues -/

section Parsers

variable [Grammars]

/-- **The parser at hand** is the one that an engine has, or a new one if it has none.  The rules
stay. -/
lemma Engine.run_parserFor (engine : Engine) (language : Language) :
    ((parserFor language).run engine).1 =
        (engine.parsers.lookup language).getD language.tree ∧
      ((parserFor language).run engine).2.linter = engine.linter := by
  cases hlookup : engine.parsers.lookup language with
  | some kept => simp [run_parserFor_of_some hlookup]
  | none => simp [run_parserFor_of_none hlookup]

/-- The tree that an engine gets for a source. -/
def Engine.treeOf (engine : Engine) (language : Language) (source : List UInt8) : SyntaxTree :=
  ((engine.parsers.lookup language).getD language.tree) source

/-- The file that an engine loads is that of the tree it gets. -/
lemma Engine.loadSource_name (engine : Engine) (language : Language) (path : String)
    (source : List UInt8) :
    ((loadSource language.name path source).run engine).1 =
      .ok (SourceFile.ofTree source path (engine.treeOf language source)) := by
  have hrun : ((loadSource language.name path source).run engine).1 =
      .ok (SourceFile.ofTree source path (((parserFor language).run engine).1 source)) := by
    rw [loadSource, Language.ofName_name]
    rfl
  rw [hrun, (run_parserFor engine language).1, treeOf]

/-- **An engine hands on the tree of the parser it has**, and makes one if it has none.  Nothing is
asked of a parser. -/
lemma Engine.analyzeSource_name (engine : Engine) (language : Language) (path : String)
    (source : List UInt8) :
    ((analyzeSource language.name path source).run engine).1 =
      .ok (engine.linter.analyze (SourceFile.ofTree source path
        (((engine.parsers.lookup language).getD language.tree) source))) := by
  have hrun : ((analyzeSource language.name path source).run engine).1 =
      .ok (((parserFor language).run engine).2.linter.analyze
        (SourceFile.ofTree source path (((parserFor language).run engine).1 source))) := by
    rw [analyzeSource, loadSource, Language.ofName_name]
    rfl
  obtain ⟨hparser, hlinter⟩ := run_parserFor engine language
  rw [hrun, hparser, hlinter]

end Parsers

/-- **The issues of a tree** are those of its comment nodes, one after the other. -/
lemma SyntaxTree.analyze_eq (config : RuleConfig) (source : List UInt8) (path : String)
    (tree : SyntaxTree) :
    (Linter.ofConfig config).analyze (SourceFile.ofTree source path tree) =
      tree.comments.flatMap fun node => review config (Comment.ofNode source path node) := by
  rw [Linter.analyze_ofConfig, SourceFile.comments_ofTree, List.flatMap_map]

/-! ## Ordinary comments -/

/-- **Files with the same directives have the same issues**, whatever else they have. -/
lemma analyze_congr_directives (config : RuleConfig) {file file' : SourceFile}
    (h : file.comments.filter (fun comment => Directive.resembles comment.text.toList) =
      file'.comments.filter fun comment => Directive.resembles comment.text.toList) :
    (Linter.ofConfig config).analyze file = (Linter.ofConfig config).analyze file' := by
  rw [Linter.analyze_ofConfig, Linter.analyze_ofConfig, ← flatMap_review_filter_resembles, h,
    flatMap_review_filter_resembles]

/-- An ordinary comment is none of the directives. -/
lemma filter_resembles_of_not_resembles {comment : Comment}
    (h : Directive.resembles comment.text.toList = false) (before behind : List Comment) :
    (before ++ comment :: behind).filter (fun c => Directive.resembles c.text.toList) =
      (before ++ behind).filter fun c => Directive.resembles c.text.toList := by
  rw [List.filter_append, List.filter_append, List.filter_cons_of_neg (by simp [h])]

/-- **Analysis is local to each comment.**  With the rule about directives alone:

* the issues of a source are those of the comment nodes of its tree in preorder, each reviewed by
  its text and its position and by nothing else, whatever the parser;
* the loops of linter and rule, over rules, groups and comments, come to the same;
* files with the same comments have the same issues, however the comments are grouped;
* an ordinary comment can be deleted, or another one put in its place, and no issue changes;
* a run over several things, of any rule, is a run over the first of them and then one over the
  rest, and things that are no files count as nothing. -/
theorem analysis_is_local [Grammars] (config : RuleConfig) :
    (∀ (parsers : List (Language × Parser)) (language : Language) (path : String)
        (source : List UInt8),
      let tree := ((parsers.lookup language).getD language.tree) source
      ((Engine.analyzeSource language.name path source).run
          { linter := .ofConfig config, parsers }).1 =
        .ok ((tree.preorder.filter fun node =>
            ["comment", "line_comment", "block_comment"].contains node.kind).flatMap fun node =>
          review config
            { text := String.ofList
                ((Text.Utf8.decodeLossy (slice source node.start node.stop)).filter (· != '\r'))
              position := ⟨path, node.start, node.point.row + 1, node.point.column + 1⟩ })) ∧
      (∀ file, (Linter.ofConfig config).analyze file =
        gather (fun rule => rule.check file) [Rule.directive config] ∧
          (Rule.directive config).check file = gather (gather (review config)) file.groups) ∧
      (∀ file file' : SourceFile, file.comments = file'.comments →
        (Linter.ofConfig config).analyze file = (Linter.ofConfig config).analyze file') ∧
      (∀ (file file' : SourceFile) (before behind : List Comment) (comment : Comment),
        Directive.resembles comment.text.toList = false →
        file.comments = before ++ comment :: behind →
        (file'.comments = before ++ behind ∨
          ∃ other, Directive.resembles other.text.toList = false ∧
            file'.comments = before ++ other :: behind) →
        (Linter.ofConfig config).analyze file = (Linter.ofConfig config).analyze file') ∧
      ∀ (rule : Rule) (ms ns : List (Option SourceFile)) (file : SourceFile),
        rule.run (ms ++ ns) = rule.run ms ++ rule.run ns ∧
          rule.run (ms ++ none :: ns) = rule.run (ms ++ ns) ∧
          rule.run [some file] = rule.check file ∧
          rule.run ms = gather rule.checkNode ms := by
  refine ⟨?engine, ?loops, ?grouping, ?ordinary, ?run⟩
  case engine =>
    intro parsers language path source tree
    rw [Engine.analyzeSource_name, SyntaxTree.analyze_eq]
    simp only [← Comment.text_ofNode source path]
    rfl
  case loops =>
    intro file
    exact ⟨Linter.analyze_eq_gather _ file, Rule.check_directive_eq_gather config file⟩
  case grouping =>
    intro file file' h
    exact analyze_congr_directives config (congrArg _ h)
  case ordinary =>
    intro file file' before behind comment hcomment hfile hfile'
    apply analyze_congr_directives
    rw [hfile, filter_resembles_of_not_resembles hcomment]
    rcases hfile' with hfile' | ⟨other, hother, hfile'⟩
    · rw [hfile']
    · rw [hfile', filter_resembles_of_not_resembles hother]
  case run =>
    intro rule ms ns file
    refine ⟨Rule.run_append rule ms ns, ?_, List.append_nil _, Rule.run_eq_gather rule ms⟩
    rw [Rule.run_append, Rule.run_append]
    rfl

/-- A file with two groups: a directive that exempts itself and one without linters, then plain text
and a malformed directive. -/
def twoGroups : SourceFile where
  path := "test.go"
  groups :=
    [[⟨"//nolint:nolintlint", ⟨"test.go", 0, 1, 1⟩⟩, ⟨"//nolint", ⟨"test.go", 20, 2, 1⟩⟩],
      [⟨"// plain", ⟨"test.go", 30, 5, 1⟩⟩, ⟨"//nolint::", ⟨"test.go", 40, 7, 1⟩⟩]]

/-- The directives of that file in one group. -/
def oneGroup : SourceFile where
  path := "test.go"
  groups :=
    [[⟨"//nolint:nolintlint", ⟨"test.go", 0, 1, 1⟩⟩, ⟨"//nolint", ⟨"test.go", 20, 2, 1⟩⟩,
      ⟨"//nolint::", ⟨"test.go", 40, 7, 1⟩⟩]]

/-- Neither the plain text nor the grouping counts, and neither the exempt directive nor the
malformed one takes an issue from the one between them. -/
theorem plain_text_can_be_deleted :
    let linter := Linter.ofConfig { checks := ⟨false, false, true, false⟩ }
    linter.analyze twoGroups = linter.analyze oneGroup ∧
      (linter.analyze twoGroups).map (fun issue => (issue.position.line, issue.finding)) =
        [(2, .notSpecific), (7, .malformed)] := by
  dsimp only
  obtain ⟨-, -, -, hordinary, -⟩ := analysis_is_local { checks := ⟨false, false, true, false⟩ }
  refine ⟨?_, by decide +kernel⟩
  exact hordinary twoGroups oneGroup (oneGroup.comments.take 2) (oneGroup.comments.drop 2)
    ⟨"// plain", ⟨"test.go", 30, 5, 1⟩⟩ (by decide +kernel) rfl (.inl rfl)

end DirectiveLint
