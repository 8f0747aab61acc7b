import DirectiveLint.Proofs.Reporting

/-!
# The first file that fails

Both commands go over their files in order and stop at the first one that is of no known kind or
cannot be read.  This module says what they leave behind.

* `FileSystem.FailsWith` — why a file fails, in the words of the message.  Its kind is settled
  before it is opened.
* `FileSystem.exists_first_failure` — files that do not all succeed have a first one that fails.
* `FailsOver` — how a run ends over such a file.
* `commands_fail_over_first_file` — **linting is all or nothing, listing is a clean prefix**: over the
  same failing file the one prints nothing and the other what it prints for the files before.

If no file fails, the listing of two lists of paths is the one listing behind the other.
-/

namespace DirectiveLint

namespace FileSystem

/-! ## Files that succeed and files that fail -/

/-- A file of a known kind that can be read. -/
def Legible (fs : FileSystem) (path : FilePath) : Prop :=
  (∃ language, Language.ofPath path = .ok language) ∧ ∃ bytes, fs.read path = .ok bytes

/-- **Why a file fails.**  A file of no known kind is not opened. -/
inductive FailsWith (fs : FileSystem) (path : FilePath) : String → Prop where
  | unsupported (h : ¬ ∃ language, Language.ofPath path = .ok language) :
      FailsWith fs path ("Unsupported file type: " ++ path.render)
  | unreadable {language : Language} {failure : Failure}
      (hlanguage : Language.ofPath path = .ok language) (hread : fs.read path = .error failure) :
      FailsWith fs path failure.message

variable [Grammars] {fs : FileSystem} {path : FilePath} {files before after rest : List FilePath}
  {failure : LoadFailure}

lemma legible_of_load {file : SourceFile} (h : fs.load path = .ok file) : fs.Legible path := by
  rw [load] at h
  split at h
  · cases h
  · next language hlanguage =>
    split at h
    · cases h
    · next bytes hread => exact ⟨⟨language, hlanguage⟩, bytes, hread⟩

lemma loads_iff : fs.Loads files ↔ ∀ path ∈ files, fs.Legible path := by
  refine forall₂_congr fun path _ => ⟨?_, fun h => exists_load_eq_ok h.1 h.2⟩
  rintro ⟨file, hload⟩
  exact legible_of_load hload

lemma failsWith_of_load (h : fs.load path = .error failure) :
    fs.FailsWith path failure.message := by
  rw [load] at h
  split at h
  · next fault hlanguage =>
    have hfault : fault = .file path := by
      rw [Language.ofPath] at hlanguage
      split at hlanguage
      · cases hlanguage
      · exact (Except.error.inj hlanguage).symm
    rw [← Except.error.inj h, hfault]
    exact .unsupported (by simp [hlanguage])
  · next hlanguage =>
    split at h
    · next hread =>
      rw [← Except.error.inj h]
      exact .unreadable hlanguage hread
    · cases h

/-- **Files that do not all succeed have a first one that fails.** -/
lemma exists_first_failure (h : ¬ fs.Loads files) : ∃ before path after failure,
    files = before ++ path :: after ∧ fs.Loads before ∧ fs.load path = .error failure := by
  induction files with
  | nil => exact absurd (fun path hpath => absurd hpath List.not_mem_nil) h
  | cons path files ih =>
    cases hload : fs.load path with
    | error failure =>
      exact ⟨[], path, files, failure, rfl, fun _ hpath => absurd hpath List.not_mem_nil, hload⟩
    | ok file =>
      obtain ⟨before, failing, after, failure, rfl, hbefore, hfailing⟩ :=
        ih fun hloads => h (loads_cons.mpr ⟨⟨file, hload⟩, hloads⟩)
      exact ⟨path :: before, failing, after, failure, rfl,
        loads_cons.mpr ⟨⟨file, hload⟩, hbefore⟩, hfailing⟩

/-! ## What is left behind -/

lemma attempted_of_failure (hbefore : fs.Loads before) (hload : fs.load path = .error failure) :
    fs.attempted (before ++ path :: after) = before ++ [path] := by
  rw [attempted_append hbefore, attempted, hload]

/-- A listing that fails has listed the files before. -/
lemma list_of_failure (hbefore : fs.Loads before) (hload : fs.load path = .error failure) :
    fs.list (before ++ path :: after) =
      ((fs.directives before).map Comment.entry, some failure) := by
  rw [list_append hbefore, list, hload]
  dsimp only
  rw [List.append_nil]

/-- Linting fails with the first file, whatever was found before. -/
lemma analyzeFiles_of_failure (config : RuleConfig) (hbefore : fs.Loads before)
    (hload : fs.load path = .error failure) :
    (Linter.ofConfig config).analyzeFiles fs (before ++ path :: after) = .error failure := by
  have hpath : (Linter.ofConfig config).analyzePath fs path = .error failure := by
    rw [Linter.analyzePath, hload]
    rfl
  rw [Linter.analyzeFiles, List.mapM_append,
    Linter.mapM_analyzePath_eq_ok_iff.mpr ⟨hbefore, rfl⟩, List.mapM_cons, hpath]
  rfl

/-- A file that can be loaded stands for itself. -/
lemma collect_of_loads (h : fs.Loads files) : fs.collect files = .ok files := by
  have hfind : ∀ path ∈ files, ∃ bytes, fs.find path = .ok (.file bytes) := by
    intro path hpath
    obtain ⟨-, bytes, hread⟩ := loads_iff.mp h path hpath
    rw [read] at hread
    split at hread
    · next bytes hfind => exact ⟨bytes, hfind⟩
    · cases hread
    · cases hread
  refine collect_eq_ok_iff.mpr ⟨fun path hpath => ?_, ?_⟩
  · obtain ⟨bytes, hfind⟩ := hfind path hpath
    rw [refusal?, hfind]
  · have hexpand : ∀ path ∈ files, fs.expand path = [path] := by
      intro path hpath
      obtain ⟨bytes, hfind⟩ := hfind path hpath
      rw [expand, isDirectory, hfind]
      rfl
    rw [sources, List.flatMap_congr hexpand, List.flatMap_singleton']

end FileSystem

/-! ## Runs -/

/-- **A run that fails over a file**: what it has printed and logged, and the message it ends
with. -/
structure FailsOver (message printed : String) (log : List String) (outcome : Outcome) :
    Prop where
  stdout : outcome.stdout = printed
  stderr : outcome.stderr = Outcome.logged log ++ Text.printed ["Error: " ++ message]
  ending : outcome.ending = .exited 2

namespace Command

open FileSystem

variable [Grammars] [Configuration.Wording] {fs : FileSystem} {options : LintOptions}
  {config : RuleConfig} {path : FilePath} {paths files before after : List FilePath}
  {failure : LoadFailure}

lemma lint_failsOver (verbose : Bool) (hconfig : fs.lintConfig options = .ok config)
    (hfiles : fs.collect options.paths = .ok (before ++ path :: after))
    (hbefore : fs.Loads before) (hload : fs.load path = .error failure) :
    FailsOver failure.message ""
      (if verbose then (before ++ [path]).flatMap (Log.linting config fs) else [])
      (run fs ⟨verbose, .lint options⟩) := by
  have hlint : fs.lint options = .error (.load failure) := by
    rw [lint_of_collect hconfig hfiles (List.append_ne_nil_of_right_ne_nil _ (by simp)),
      analyzeFiles_of_failure config hbefore hload]
    rfl
  have hlog : fs.lintLog options = (before ++ [path]).flatMap (Log.linting config fs) := by
    rw [lintLog_of_collect hconfig hfiles, attempted_of_failure hbefore hload]
  rw [run]
  dsimp only
  rw [lintOutcome, hlint, hlog]
  exact ⟨rfl, rfl, rfl⟩

lemma directives_failsOver (verbose : Bool)
    (hfiles : fs.collect paths = .ok (before ++ path :: after)) (hbefore : fs.Loads before)
    (hload : fs.load path = .error failure) :
    FailsOver failure.message (run fs ⟨verbose, .directives before⟩).stdout
      (if verbose then (before ++ [path]).flatMap (Log.loading fs) else [])
      (run fs ⟨verbose, .directives paths⟩) := by
  rw [directives_of_loads verbose (collect_of_loads hbefore) hbefore, run]
  dsimp only
  rw [directivesOutcome, hfiles, listLog_of_collect hfiles, attempted_of_failure hbefore hload]
  dsimp only
  rw [list_of_failure hbefore hload]
  exact ⟨rfl, rfl, rfl⟩

/-- **The listing of two lists of paths** is the one behind the other, if no file fails. -/
lemma directives_append (verbose : Bool) {paths' : List FilePath}
    (hfiles : fs.collect (paths ++ paths') = .ok files) (h : fs.Loads files) :
    let listing := fun paths => run fs ⟨verbose, .directives paths⟩
    (listing (paths ++ paths')).stdout = (listing paths).stdout ++ (listing paths').stdout ∧
      (listing (paths ++ paths')).stderr = (listing paths).stderr ++ (listing paths').stderr ∧
      (listing (paths ++ paths')).ending = .exited 0 := by
  obtain ⟨hnone, rfl⟩ := collect_eq_ok_iff.mp hfiles
  obtain ⟨hnone, hnone'⟩ := List.forall_mem_append.mp hnone
  rw [sources_append] at hfiles h
  obtain ⟨hloads, hloads'⟩ := List.forall_mem_append.mp h
  dsimp only
  rw [directives_of_loads verbose hfiles h, directives_of_loads verbose (collect_eq_ok hnone) hloads,
    directives_of_loads verbose (collect_eq_ok hnone') hloads']
  dsimp only
  refine ⟨?_, ?_, rfl⟩
  · rw [directives, comments_append, List.filter_append, List.map_append, Text.printed_append]
    rfl
  · cases verbose with
    | false => rfl
    | true => exact (congrArg _ List.flatMap_append).trans (Outcome.logged_append _ _)

end Command

/-- **How the two commands fail.**  If some file that is collected is of no known kind or cannot be
read, there is a first one.  Linting prints nothing and ends with its message, whatever there is to
say about the other files; listing ends with the same message, behind what it prints for the files
before.  If no file fails, a listing goes on with the second of two lists of paths where it ends with
the first. -/
theorem commands_fail_over_first_file [Grammars] [Configuration.Wording] {fs : FileSystem}
    {options : LintOptions} {config : RuleConfig} (verbose : Bool)
    (hconfig : fs.lintConfig options = .ok config) :
    let listing := fun paths => Command.run fs ⟨verbose, .directives paths⟩
    (∀ files, fs.collect options.paths = .ok files → (∃ path ∈ files, ¬ fs.Legible path) →
      ∃ before path after message, files = before ++ path :: after ∧
        (∀ path ∈ before, fs.Legible path) ∧ fs.FailsWith path message ∧
        FailsOver message ""
          (if verbose then (before ++ [path]).flatMap (Log.linting config fs) else [])
          (Command.run fs ⟨verbose, .lint options⟩) ∧
        FailsOver message (listing before).stdout
          (if verbose then (before ++ [path]).flatMap (Log.loading fs) else [])
          (listing options.paths) ∧
        (listing before).ending = .exited 0) ∧
      ∀ paths paths' files, fs.collect (paths ++ paths') = .ok files →
        (∀ path ∈ files, fs.Legible path) →
        (listing (paths ++ paths')).stdout = (listing paths).stdout ++ (listing paths').stdout ∧
          (listing (paths ++ paths')).stderr =
            (listing paths).stderr ++ (listing paths').stderr ∧
          (listing (paths ++ paths')).ending = .exited 0 := by
  dsimp only
  refine ⟨?failing, ?succeeding⟩
  case failing =>
    rintro files hfiles ⟨illegible, hmem, hillegible⟩
    obtain ⟨before, path, after, failure, rfl, hbefore, hload⟩ :=
      FileSystem.exists_first_failure fun hloads =>
        hillegible (FileSystem.loads_iff.mp hloads illegible hmem)
    refine ⟨before, path, after, failure.message, rfl, FileSystem.loads_iff.mp hbefore,
      FileSystem.failsWith_of_load hload, Command.lint_failsOver verbose hconfig hfiles hbefore hload,
      Command.directives_failsOver verbose hfiles hbefore hload, ?_⟩
    rw [Command.directives_of_loads verbose (FileSystem.collect_of_loads hbefore) hbefore]
  case succeeding =>
    intro paths paths' files hfiles hlegible
    exact Command.directives_append verbose hfiles (FileSystem.loads_iff.mpr hlegible)

/-- One Go file with two directives. -/
def oneFile : FileSystem :=
  FileSystem.writeFile {} (.ofString "a.go")
    ("//nolint\n// nolint:b // why\n".toList.map Char.toUInt8)

/-- It is named in front of two files that are not there, the second of them of no known kind. -/
def twoMissing : LintOptions where
  paths := [.ofString "a.go", .ofString "missing.go", .ofString "notes.txt"]

/-- Both commands fail over `missing.go`, and the listing has listed `a.go`. -/
theorem both_fail_over_missing :
    oneFile.lintConfig twoMissing = .ok {} ∧ oneFile.collect twoMissing.paths = .ok twoMissing.paths ∧
      (¬ oneFile.Legible (.ofString "missing.go")) ∧
      (∃ before path after message, twoMissing.paths = before ++ path :: after ∧
        oneFile.FailsWith path message ∧
        FailsOver message "" [] (Command.run oneFile ⟨false, .lint twoMissing⟩) ∧
        FailsOver message (Command.run oneFile ⟨false, .directives before⟩).stdout []
          (Command.run oneFile ⟨false, .directives twoMissing.paths⟩)) ∧
      (Command.run oneFile ⟨false, .lint twoMissing⟩).stderr =
        "Error: [Errno 2] No such file or directory: 'missing.go'\n" := by
  have hconfig : oneFile.lintConfig twoMissing = .ok {} := by rfl
  have hfiles : oneFile.collect twoMissing.paths = .ok twoMissing.paths := by rfl
  have hillegible : ¬ oneFile.Legible (.ofString "missing.go") := by
    rintro ⟨-, bytes, hread⟩
    cases hread
  obtain ⟨before, path, after, message, hsplit, -, hfails, hlint, hlisting, -⟩ :=
    (commands_fail_over_first_file false hconfig).1 twoMissing.paths hfiles
      ⟨.ofString "missing.go", by decide, hillegible⟩
  exact ⟨hconfig, hfiles, hillegible, ⟨before, path, after, message, hsplit, hfails, hlint, hlisting⟩,
    by decide +kernel⟩

end DirectiveLint
