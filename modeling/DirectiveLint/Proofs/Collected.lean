import DirectiveLint.Command
import Mathlib.Data.List.SplitBy
import Mathlib.Logic.Basic
import Mathlib.Tactic.Lemma

/-!
# What is collected

Both commands go over the files of their paths, one after the other, and from each file they take
its comments.  Once every file can be loaded, nothing else of a file counts:

* `FileSystem.comments` — the comments of several files, in the order of the files.  Each of them is
  at a valid position of the file it is from (`FileSystem.position_of_mem_commentsOf`).
* `Linter.analyzeFiles_eq_ok_iff` — the issues are those of the comments, reviewed one after the
  other; a file that cannot be loaded makes the whole fail.
* `FileSystem.list_eq` — the lines of a listing are those of the comments that resemble directives.
  `Command.directives_of_loads` is the outcome of such a run.

What a lint run comes to is told apart by its first fault: in the configuration
(`FileSystem.lint_of_config_error`), in the paths (`lint_of_collect_error`, `lint_of_no_files`), in
the files (`lint_of_not_loads`), or in none of them (`lint_of_loads`).
-/

namespace DirectiveLint

namespace FileSystem

variable [Grammars]

/-- The comments of a file; none if the file cannot be loaded. -/
def commentsOf (fs : FileSystem) (path : FilePath) : List Comment :=
  match fs.load path with
  | .ok file => file.comments
  | .error _ => []

/-- **The comments of several files**, in the order of the files. -/
def comments (fs : FileSystem) (paths : List FilePath) : List Comment :=
  paths.flatMap fs.commentsOf

lemma commentsOf_of_load {fs : FileSystem} {path : FilePath} {file : SourceFile}
    (h : fs.load path = .ok file) : fs.commentsOf path = file.comments := by
  rw [commentsOf, h]

lemma comments_cons (fs : FileSystem) (path : FilePath) (paths : List FilePath) :
    fs.comments (path :: paths) = fs.commentsOf path ++ fs.comments paths :=
  List.flatMap_cons

lemma comments_append (fs : FileSystem) (paths paths' : List FilePath) :
    fs.comments (paths ++ paths') = fs.comments paths ++ fs.comments paths' :=
  List.flatMap_append

/-- Every one of the files can be loaded. -/
def Loads (fs : FileSystem) (paths : List FilePath) : Prop :=
  ∀ path ∈ paths, ∃ file, fs.load path = .ok file

lemma loads_cons {fs : FileSystem} {path : FilePath} {paths : List FilePath} :
    fs.Loads (path :: paths) ↔ (∃ file, fs.load path = .ok file) ∧ fs.Loads paths :=
  List.forall_mem_cons

end FileSystem

/-! ## Where comments are -/

/-- Grouping takes no comment away. -/
lemma SourceFile.comments_ofTree (source : List UInt8) (path : String) (tree : SyntaxTree) :
    (SourceFile.ofTree source path tree).comments =
      tree.comments.map (Comment.ofNode source path) := by
  rw [SourceFile.comments, SourceFile.ofTree, ← List.map_flatten, List.flatten_splitBy]

namespace FileSystem

variable [Grammars] {fs : FileSystem} {path : FilePath} {paths : List FilePath}

/-- **A comment of a file is a comment of the tree of its bytes.** -/
lemma exists_node_of_mem_commentsOf {comment : Comment} (h : comment ∈ fs.commentsOf path) :
    ∃ language source node, Language.ofPath path = .ok language ∧
      node ∈ (language.tree source).comments ∧
      comment = Comment.ofNode source path.render node := by
  rw [commentsOf, load] at h
  cases hlanguage : Language.ofPath path with
  | error fault =>
    rw [hlanguage] at h
    cases h
  | ok language =>
    rw [hlanguage] at h
    cases hread : fs.read path with
    | error failure =>
      rw [hread] at h
      cases h
    | ok source =>
      rw [hread] at h
      dsimp only at h
      rw [SourceFile.ofSource, SourceFile.comments_ofTree] at h
      obtain ⟨node, hnode, rfl⟩ := List.mem_map.mp h
      exact ⟨language, source, node, rfl, hnode, rfl⟩

/-- **It goes by the path of its file** and stands on a line of it. -/
lemma position_of_mem_commentsOf {comment : Comment} (h : comment ∈ fs.commentsOf path) :
    comment.position.filename = path.render ∧ comment.position.isValid = true := by
  obtain ⟨language, source, node, -, -, rfl⟩ := exists_node_of_mem_commentsOf h
  refine ⟨rfl, ?_⟩
  show decide ((0 : Int) < node.point.row + 1) = true
  rw [decide_eq_true_eq]
  omega

/-- So does whatever is found about it. -/
lemma filename_of_mem_review {config : RuleConfig} {comment : Comment} {issue : Issue}
    (h : comment ∈ fs.commentsOf path) (hissue : issue ∈ review config comment) :
    issue.position.filename = path.render := by
  rw [(full_of_mem_review hissue).2, (position_of_mem_commentsOf h).1]

lemma mem_comments_iff {comment : Comment} :
    comment ∈ fs.comments paths ↔ ∃ path ∈ paths, comment ∈ fs.commentsOf path :=
  List.mem_flatMap

end FileSystem

/-! ## Linting -/

namespace Linter

variable [Grammars] {fs : FileSystem} {config : RuleConfig} {paths : List FilePath}

lemma analyzePath_of_load {path : FilePath} {file : SourceFile} (h : fs.load path = .ok file) :
    (ofConfig config).analyzePath fs path = .ok ((fs.commentsOf path).flatMap (review config)) := by
  rw [analyzePath, h, FileSystem.commentsOf_of_load h, ← analyze_ofConfig]
  rfl

lemma mapM_analyzePath_eq_ok_iff {parts : List (List Issue)} :
    paths.mapM ((ofConfig config).analyzePath fs) = .ok parts ↔
      fs.Loads paths ∧
        parts = paths.map fun path => (fs.commentsOf path).flatMap (review config) := by
  induction paths generalizing parts with
  | nil =>
    constructor
    · intro h
      exact ⟨fun path hpath => absurd hpath List.not_mem_nil, (Except.ok.inj h).symm⟩
    · rintro ⟨-, rfl⟩
      rfl
  | cons path paths ih =>
    rw [List.mapM_cons, FileSystem.loads_cons, List.map_cons]
    constructor
    · intro h
      cases hload : fs.load path with
      | error failure =>
        rw [analyzePath, hload] at h
        cases h
      | ok file =>
        rw [analyzePath_of_load hload] at h
        cases hrest : paths.mapM ((ofConfig config).analyzePath fs) with
        | error failure =>
          rw [hrest] at h
          cases h
        | ok rest =>
          obtain ⟨hloads, rfl⟩ := ih.mp hrest
          rw [hrest] at h
          exact ⟨⟨⟨file, rfl⟩, hloads⟩, (Except.ok.inj h).symm⟩
    · rintro ⟨⟨⟨file, hload⟩, hloads⟩, rfl⟩
      rw [analyzePath_of_load hload, ih.mpr ⟨hloads, rfl⟩]
      rfl

/-- **A run over several files comes to an end exactly if each of them can be loaded**, and then it
has reviewed their comments one after the other. -/
lemma analyzeFiles_eq_ok_iff {issues : List Issue} :
    (ofConfig config).analyzeFiles fs paths = .ok issues ↔
      fs.Loads paths ∧ issues = (fs.comments paths).flatMap (review config) := by
  have hflat : (fs.comments paths).flatMap (review config) =
      (paths.map fun path => (fs.commentsOf path).flatMap (review config)).flatten := by
    rw [FileSystem.comments, List.flatMap_assoc, List.flatMap_def]
  rw [hflat, analyzeFiles]
  constructor
  · intro h
    cases hparts : paths.mapM ((ofConfig config).analyzePath fs) with
    | error failure =>
      rw [hparts] at h
      cases h
    | ok parts =>
      obtain ⟨hloads, rfl⟩ := mapM_analyzePath_eq_ok_iff.mp hparts
      rw [hparts] at h
      exact ⟨hloads, (Except.ok.inj h).symm⟩
  · rintro ⟨hloads, rfl⟩
    rw [mapM_analyzePath_eq_ok_iff.mpr ⟨hloads, rfl⟩]
    rfl

/-- Each of its issues is about a comment of one of the files. -/
lemma exists_comment_of_mem_issues {issues : List Issue} {issue : Issue}
    (h : (ofConfig config).analyzeFiles fs paths = .ok issues) (hissue : issue ∈ issues) :
    ∃ path ∈ paths, ∃ comment ∈ fs.commentsOf path, issue ∈ review config comment := by
  rw [(analyzeFiles_eq_ok_iff.mp h).2] at hissue
  obtain ⟨comment, hcomment, hreview⟩ := List.mem_flatMap.mp hissue
  obtain ⟨path, hpath, hcomment⟩ := FileSystem.mem_comments_iff.mp hcomment
  exact ⟨path, hpath, comment, hcomment, hreview⟩

end Linter

/-! ## Listing -/

namespace FileSystem

variable [Grammars] {fs : FileSystem} {paths : List FilePath}

/-- The comments of several files that resemble directives. -/
def directives (fs : FileSystem) (paths : List FilePath) : List Comment :=
  (fs.comments paths).filter fun comment => Directive.resembles comment.text.toList

/-- The lines about files that can be loaded come in front of those about the rest. -/
lemma list_append (h : fs.Loads paths) (rest : List FilePath) :
    fs.list (paths ++ rest) =
      ((fs.directives paths).map Comment.entry ++ (fs.list rest).1, (fs.list rest).2) := by
  induction paths with
  | nil => rfl
  | cons path paths ih =>
    obtain ⟨⟨file, hload⟩, hloads⟩ := loads_cons.mp h
    rw [List.cons_append, list, hload, directives, comments_cons, List.filter_append,
      List.map_append, commentsOf_of_load hload, List.append_assoc]
    dsimp only
    rw [ih hloads]
    rfl

/-- **A listing over files that can be loaded has a line for each comment that resembles a
directive**, and comes to its end. -/
lemma list_eq (h : fs.Loads paths) :
    fs.list paths = ((fs.directives paths).map Comment.entry, none) := by
  have hlist := list_append h []
  rwa [List.append_nil, list, List.append_nil] at hlist

lemma attempted_append (h : fs.Loads paths) (rest : List FilePath) :
    fs.attempted (paths ++ rest) = paths ++ fs.attempted rest := by
  induction paths with
  | nil => rfl
  | cons path paths ih =>
    obtain ⟨⟨file, hload⟩, hloads⟩ := loads_cons.mp h
    rw [List.cons_append, attempted, hload]
    dsimp only
    rw [ih hloads, List.cons_append]

lemma attempted_of_loads (h : fs.Loads paths) : fs.attempted paths = paths := by
  have hattempted := attempted_append h []
  rwa [List.append_nil, attempted, List.append_nil] at hattempted

lemma listLog_of_collect {files : List FilePath} (hfiles : fs.collect paths = .ok files) :
    fs.listLog paths = (fs.attempted files).flatMap (Log.loading fs) := by
  rw [listLog, reached, hfiles]

/-! ## What a lint run comes to -/

variable [Configuration.Wording] {options : LintOptions} {config : RuleConfig}

lemma lint_of_config_error {fault : Configuration.Fault}
    (h : fs.lintConfig options = .error fault) :
    fs.lint options = .error (.configuration fault) := by
  rw [lint, h]
  rfl

lemma lint_of_collect_error (hconfig : fs.lintConfig options = .ok config) {failure : Failure}
    (h : fs.collect options.paths = .error failure) :
    fs.lint options = .error (.refusal failure) := by
  rw [lint, hconfig, h]
  rfl

lemma lint_of_no_files (hconfig : fs.lintConfig options = .ok config)
    (h : fs.collect options.paths = .ok []) : fs.lint options = .error .noFiles := by
  rw [lint, hconfig, h]
  rfl

/-- Once there are files, a run comes to what its linter comes to. -/
lemma lint_of_collect {files : List FilePath} (hconfig : fs.lintConfig options = .ok config)
    (hfiles : fs.collect options.paths = .ok files) (hne : files ≠ []) :
    fs.lint options = (((Linter.ofConfig config).analyzeFiles fs files).mapError .load).map
      (⟨·, Severity.threshold options.severity⟩) := by
  obtain ⟨file, rest, rfl⟩ := List.exists_cons_of_ne_nil hne
  rw [lint, hconfig, hfiles]
  show (do
    let issues ← ((Linter.ofConfig config).analyzeFiles fs (file :: rest)).mapError LintFailure.load
    return (⟨issues, Severity.threshold options.severity⟩ : Report)) = _
  cases (Linter.ofConfig config).analyzeFiles fs (file :: rest) <;> rfl

lemma lint_of_not_loads {files : List FilePath} (hconfig : fs.lintConfig options = .ok config)
    (hfiles : fs.collect options.paths = .ok files) (hne : files ≠ []) (h : ¬ fs.Loads files) :
    ∃ failure, fs.lint options = .error (.load failure) := by
  rw [lint_of_collect hconfig hfiles hne]
  cases hissues : (Linter.ofConfig config).analyzeFiles fs files with
  | error failure => exact ⟨failure, rfl⟩
  | ok issues => exact absurd (Linter.analyzeFiles_eq_ok_iff.mp hissues).1 h

lemma lint_of_loads {files : List FilePath} (hconfig : fs.lintConfig options = .ok config)
    (hfiles : fs.collect options.paths = .ok files) (hne : files ≠ []) (h : fs.Loads files) :
    fs.lint options = .ok
      ⟨(fs.comments files).flatMap (review config), Severity.threshold options.severity⟩ := by
  rw [lint_of_collect hconfig hfiles hne, Linter.analyzeFiles_eq_ok_iff.mpr ⟨h, rfl⟩]
  rfl

lemma lintLog_of_collect {files : List FilePath} (hconfig : fs.lintConfig options = .ok config)
    (hfiles : fs.collect options.paths = .ok files) :
    fs.lintLog options = (fs.attempted files).flatMap (Log.linting config fs) := by
  rw [lintLog, hconfig]
  dsimp only
  rw [reached, hfiles]

/-- The log of a run that gets to every file. -/
lemma lintLog_of_loads {files : List FilePath} (hconfig : fs.lintConfig options = .ok config)
    (hfiles : fs.collect options.paths = .ok files) (h : fs.Loads files) :
    fs.lintLog options = files.flatMap (Log.linting config fs) := by
  rw [lintLog_of_collect hconfig hfiles, attempted_of_loads h]

end FileSystem

/-- **A listing of files that can be loaded** prints a line for each comment that resembles a
directive, and comes to its end. -/
lemma Command.directives_of_loads [Grammars] [Configuration.Wording] {fs : FileSystem}
    {paths files : List FilePath} (verbose : Bool) (hfiles : fs.collect paths = .ok files)
    (h : fs.Loads files) : run fs ⟨verbose, .directives paths⟩ =
      { stdout := Text.printed ((fs.directives files).map Comment.entry)
        stderr := Outcome.logged (if verbose then files.flatMap (Log.loading fs) else [])
        ending := .exited 0 } := by
  rw [run]
  dsimp only
  rw [directivesOutcome, hfiles, FileSystem.listLog_of_collect hfiles,
    FileSystem.attempted_of_loads h]
  dsimp only
  rw [FileSystem.list_eq h]

end DirectiveLint
