import DirectiveLint.Arguments
import DirectiveLint.Configuration
import DirectiveLint.Listing
import DirectiveLint.Report

/-!
# Commands

What the program prints and how it ends, as a function of a file system and a command line.

* `Outcome` — the two output texts and the ending of a run.
* `FileSystem.lint` — the report of a lint run, or why there is none.
* `Command.run` — the outcome of a command.
* `Command.runLine` — the outcome of a command line.

**Failing runs.**  A lint run prints nothing on its standard output if any of its files fails, since
the order of a report is known only at its end.  A listing prints file by file, so it has printed
what came before the failing file.

**Runs that break off.**  Some faults are taken for faults of the surroundings rather than of what
the command was asked to do.  A run with such a fault breaks off (`Abortion`) before it has printed
anything.

**The log** tells what was done up to the end of the run: it covers the files up to the first one
that failed, that one included.

Grammars and the words in which a configuration is refused are taken as they come; nothing here asks
anything of them.
-/

namespace DirectiveLint

/-! ## Outcomes -/

/-- What makes a run break off without a report on it. -/
inductive Abortion where
  /-- The configuration file failed in a way that is not reported to its author. -/
  | configuration (fault : Configuration.Fault)
  /-- A path was refused, so it is not even known whether it leads to a directory. -/
  | refusal (failure : FileSystem.Failure)
  deriving DecidableEq

inductive Ending where
  | exited (code : Nat)
  | misused (fault : UsageFault)
  | aborted (abortion : Abortion)
  deriving DecidableEq

structure Outcome where
  stdout : String := ""
  stderr : String := ""
  ending : Ending
  deriving DecidableEq

namespace Outcome

def exitCode (outcome : Outcome) : Nat :=
  match outcome.ending with
  | .exited code => code
  | .misused _ => 2
  | .aborted _ => 1

/-- Lines as they are logged: unlike those that are printed, they keep all their characters. -/
def logged (lines : List String) : String :=
  String.join (lines.map (· ++ "\n"))

theorem logged_append (xs ys : List String) : logged (xs ++ ys) = logged xs ++ logged ys := by
  rw [logged, List.map_append, String.join_append]
  rfl

/-- A run that ends with an error message, behind what it has printed and logged. -/
def failed (stdout : List String) (log : List String) (message : String) : Outcome where
  stdout := Text.printed stdout
  stderr := logged log ++ Text.printed ["Error: " ++ message]
  ending := .exited 2

/-- A run that breaks off, behind what it has logged. -/
def brokenOff (log : List String) (abortion : Abortion) : Outcome where
  stderr := logged log
  ending := .aborted abortion

end Outcome

/-! ## The log -/

namespace Log

def line (source text : String) : String :=
  "DEBUG " ++ source ++ ": " ++ text

def parsing (path : FilePath) (language : Language) : String :=
  line "nolint_tree_sitter.parser" ("Parsing " ++ path.render ++ " as " ++ language.name)

def grouped (file : SourceFile) : String :=
  line "nolint_tree_sitter.comments"
    (file.path ++ ": " ++ toString file.groups.length ++ " comment group(s)")

def exempt (comment : Comment) : String :=
  line "nolint_linter.rules.nolintlint"
    ("Skipping self-exempt directive at " ++ comment.position.render)

def analysed (file : SourceFile) (issues : List Issue) : String :=
  line "nolint_linter.engine" (file.path ++ ": " ++ toString issues.length ++ " issue(s)")

/-- The syntax errors of a source, if there are any. -/
def broken (language : Language) (tree : SyntaxTree) : List String :=
  if tree.syntaxErrors.isEmpty then []
  else
    [line "nolint_tree_sitter.parser"
      (toString tree.syntaxErrors.length ++ " syntax error(s) in " ++ language.name ++ " source")]

variable [Grammars]

/-- **Loading a file** is logged step by step, as far as it gets. -/
def loading (fs : FileSystem) (path : FilePath) : List String :=
  match Language.ofPath path with
  | .error _ => []
  | .ok language =>
    parsing path language ::
      match fs.read path with
      | .error _ => []
      | .ok source =>
        broken language (language.tree source) ++
          [grouped (SourceFile.ofSource language path.render source)]

def linting (config : RuleConfig) (fs : FileSystem) (path : FilePath) : List String :=
  loading fs path ++
    match fs.load path with
    | .error _ => []
    | .ok file =>
      (file.directives.filter (isSelfExempt config)).map exempt ++
        [analysed file ((Linter.ofConfig config).analyze file)]

end Log

namespace FileSystem

variable [Grammars] [Configuration.Wording]

/-- The files up to the first one that fails, that one included. -/
def attempted (fs : FileSystem) : List FilePath → List FilePath
  | [] => []
  | path :: paths =>
    match fs.load path with
    | .ok _ => path :: attempted fs paths
    | .error _ => [path]

/-! ## Linting -/

inductive LintFailure where
  | configuration (fault : Configuration.Fault)
  | refusal (failure : FileSystem.Failure)
  | noFiles
  | load (failure : LoadFailure)
  deriving DecidableEq

def lintConfig (fs : FileSystem) (options : LintOptions) :
    Except Configuration.Fault RuleConfig :=
  (Configuration.load fs options.config).map fun settings =>
    (if options.reportUnused then settings.reportingUnused else settings).toRuleConfig

/-- **The report of a lint run**, or the first thing that goes wrong. -/
def lint (fs : FileSystem) (options : LintOptions) : Except LintFailure Report := do
  let config ← (fs.lintConfig options).mapError .configuration
  let files ← (fs.collect options.paths).mapError .refusal
  if files.isEmpty then throw .noFiles
  let issues ← ((Linter.ofConfig config).analyzeFiles fs files).mapError .load
  return ⟨issues, Severity.threshold options.severity⟩

/-- The files that a run over these paths gets to: none if one of the paths is refused. -/
def reached (fs : FileSystem) (paths : List FilePath) : List FilePath :=
  match fs.collect paths with
  | .error _ => []
  | .ok files => fs.attempted files

def lintLog (fs : FileSystem) (options : LintOptions) : List String :=
  match fs.lintConfig options with
  | .error _ => []
  | .ok config => (fs.reached options.paths).flatMap (Log.linting config fs)

/-! ## Listing -/

/-- The lines about the files up to the first one that fails, and the failure if there is one. -/
def list (fs : FileSystem) : List FilePath → List String × Option LoadFailure
  | [] => ([], none)
  | path :: paths =>
    match fs.load path with
    | .error failure => ([], some failure)
    | .ok file =>
      let (lines, failure) := list fs paths
      (file.listing ++ lines, failure)

def listLog (fs : FileSystem) (paths : List FilePath) : List String :=
  (fs.reached paths).flatMap (Log.loading fs)

end FileSystem

/-! ## Running -/

namespace Command

variable [Grammars] [Configuration.Wording]

def lintOutcome (fs : FileSystem) (options : LintOptions) (log : List String) : Outcome :=
  match fs.lint options with
  | .ok report =>
    { stdout := report.text
      stderr := Outcome.logged log
      ending := .exited report.exitCode }
  | .error .noFiles => Outcome.failed [] log "No source files found"
  | .error (.load failure) => Outcome.failed [] log failure.message
  | .error (.refusal failure) => Outcome.brokenOff log (.refusal failure)
  | .error (.configuration fault) =>
    if fault.isReported then Outcome.failed [] log (fault.message options.config)
    else Outcome.brokenOff log (.configuration fault)

def directivesOutcome (fs : FileSystem) (paths : List FilePath) (log : List String) : Outcome :=
  match fs.collect paths with
  | .error failure => Outcome.brokenOff log (.refusal failure)
  | .ok files =>
    match fs.list files with
    | (lines, none) =>
      { stdout := Text.printed lines
        stderr := Outcome.logged log
        ending := .exited 0 }
    | (lines, some failure) => Outcome.failed lines log failure.message

/-- **The outcome of a command.** -/
def run (fs : FileSystem) (command : Command) : Outcome :=
  match command.action with
  | .lint options =>
    lintOutcome fs options (if command.verbose then fs.lintLog options else [])
  | .directives paths =>
    directivesOutcome fs paths (if command.verbose then fs.listLog paths else [])

def runLine (fs : FileSystem) (words : List String) : Outcome :=
  match Arguments.read words with
  | .ok command => command.run fs
  | .error fault =>
    { stderr := "Error: " ++ fault.message ++ "\n", ending := .misused fault }

end Command

end DirectiveLint
