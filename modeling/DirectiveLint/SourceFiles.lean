import DirectiveLint.FileSystem
import DirectiveLint.Language

/-!
# The source files of a command

A command is given paths.  `FileSystem.sources` expands the directories among them into the source
files below, and leaves every other path as it is: whether it can be read is found out later.
`FileSystem.collect` does so unless an argument cannot be looked up at all.

`FileSystem.load` is the comment groups of one file.  Its language is settled before it is opened,
so a file of an unknown kind is reported as such even if it does not exist.
-/

namespace DirectiveLint

inductive LoadFailure where
  | unsupported (fault : Language.Unsupported)
  | unreadable (failure : FileSystem.Failure)
  deriving DecidableEq, Repr

def LoadFailure.message : LoadFailure → String
  | unsupported fault => fault.message
  | unreadable failure => failure.message

namespace FileSystem

def expand (fs : FileSystem) (path : FilePath) : List FilePath :=
  if fs.isDirectory path then (fs.entriesBelow path).filter Language.hasSourceSuffix else [path]

/-- **The paths of a command**, argument by argument. -/
def sources (fs : FileSystem) (paths : List FilePath) : List FilePath :=
  paths.flatMap fs.expand

/-- **The paths of a command, or the first argument that is refused.**  While it is not known
whether an argument is a directory, it is not known what it stands for. -/
def collect (fs : FileSystem) (paths : List FilePath) : Except Failure (List FilePath) :=
  match paths.findSome? fs.refusal? with
  | some failure => .error failure
  | none => .ok (fs.sources paths)

/-- Without a refused argument there is nothing but the paths of the command. -/
theorem collect_eq_ok {fs : FileSystem} {paths : List FilePath}
    (h : ∀ path ∈ paths, fs.refusal? path = none) : fs.collect paths = .ok (fs.sources paths) := by
  unfold collect
  rw [List.findSome?_eq_none_iff.2 h]

theorem collect_eq_ok_iff {fs : FileSystem} {paths files : List FilePath} :
    fs.collect paths = .ok files ↔
      (∀ path ∈ paths, fs.refusal? path = none) ∧ files = fs.sources paths := by
  constructor
  · intro h
    unfold collect at h
    split at h
    · cases h
    · next hnone => exact ⟨List.findSome?_eq_none_iff.1 hnone, (Except.ok.inj h).symm⟩
  · rintro ⟨hnone, rfl⟩
    exact collect_eq_ok hnone

theorem sources_append (fs : FileSystem) (xs ys : List FilePath) :
    fs.sources (xs ++ ys) = fs.sources xs ++ fs.sources ys := by
  simp [sources]

variable [Grammars]

def load (fs : FileSystem) (path : FilePath) : Except LoadFailure SourceFile :=
  match Language.ofPath path with
  | .error fault => .error (.unsupported fault)
  | .ok language =>
    match fs.read path with
    | .error failure => .error (.unreadable failure)
    | .ok bytes => .ok (SourceFile.ofSource language path.render bytes)

/-- A file that was loaded goes by the path it was asked for. -/
theorem path_of_load {fs : FileSystem} {path : FilePath} {file : SourceFile}
    (h : fs.load path = .ok file) : file.path = path.render := by
  unfold load at h
  split at h
  · cases h
  · split at h
    · cases h
    · obtain rfl := Except.ok.inj h
      rfl

end FileSystem

end DirectiveLint
