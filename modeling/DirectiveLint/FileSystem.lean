import DirectiveLint.FilePath
import DirectiveLint.Text.Quoted

/-!
# File systems

A file system, as far as a linter can see one: which files there are and what is in them, which
directories there are, and in which of them the linter runs.  Everything is named by the list of
parts from the root on.

* `FileSystem.lookup?` — what is there under a list of parts.
* `FileSystem.makeDirectory` and `FileSystem.writeFile` — a new directory, and a new file.
* `FileSystem.resolve` — the parts a path leads to, walked one by one, since a part of two dots
  goes back from wherever the walk has come to.
* `FileSystem.read` — the bytes of a file, or why there are none.
* `FileSystem.entriesBelow` — everything below a directory, in the order of parts.

Directories need not be listed: whatever has something below it is one.

**Paths that are not looked up.**  Names have a greatest length, and no name holds the character
zero.  A path that breaks the first rule is refused: not even whether something is there is
answered (`FileSystem.refusal?`).
-/

namespace DirectiveLint

/-- The files and directories, by their parts from the root on. -/
structure FileSystem where
  files : List (List String × List UInt8) := []
  /-- Directories, which may be empty. -/
  directories : List (List String) := []
  /-- Where relative paths start. -/
  workingDirectory : List String := []
  deriving Inhabited

namespace FileSystem

/-! ## What is there -/

inductive Entry where
  | file (bytes : List UInt8)
  | directory
  deriving DecidableEq

def mentioned (fs : FileSystem) : List (List String) :=
  fs.files.map Prod.fst ++ fs.directories

/-- **What is there.**  The root is always a directory, and so is whatever has something below
it. -/
def lookup? (fs : FileSystem) (parts : List String) : Option Entry :=
  match fs.files.lookup parts with
  | some bytes => some (.file bytes)
  | none =>
    if parts.isEmpty || fs.mentioned.any parts.isPrefixOf then some .directory else none

/-! ## Making files and directories -/

/-- Where one step leads: two dots lead back, any other part leads on. -/
def stepTo (here : List String) (part : String) : List String :=
  if part == ".." then here.dropLast else here ++ [part]

/-- The places that a walk along parts comes to, its start included. -/
def places (here : List String) : List String → List (List String)
  | [] => [here]
  | part :: parts => here :: places (stepTo here part) parts

def start (fs : FileSystem) (path : FilePath) : List String :=
  if path.isAbsolute then [] else fs.workingDirectory

/-- A new directory, and every directory that is missing on the way to it. -/
def makeDirectory (fs : FileSystem) (path : FilePath) : FileSystem :=
  { fs with directories := places (fs.start path) path.parts ++ fs.directories }

def putFile (fs : FileSystem) (parts : List String) (bytes : List UInt8) : FileSystem :=
  { fs with files := (parts, bytes) :: fs.files }

def writeFile (fs : FileSystem) (path : FilePath) (bytes : List UInt8) : FileSystem :=
  (fs.makeDirectory ⟨path.root, path.parts.dropLast⟩).putFile
    (path.parts.foldl stepTo (fs.start path)) bytes

/-- **A new file is found under its name.** -/
@[simp] theorem lookup?_putFile_self (fs : FileSystem) (parts : List String) (bytes : List UInt8) :
    (fs.putFile parts bytes).lookup? parts = some (.file bytes) := by
  simp [putFile, lookup?]

/-! ## Walking along a path -/

inductive Reason where
  | notFound
  /-- The path goes on behind a file. -/
  | notADirectory
  | isADirectory
  /-- The path, or a part of it, is longer than any name. -/
  | nameTooLong
  | nullCharacter
  deriving DecidableEq, Repr

/-- There is nothing where the path leads. -/
def Reason.isAbsence : Reason → Bool
  | notFound | notADirectory | nullCharacter => true
  | isADirectory | nameTooLong => false

structure Failure where
  reason : Reason
  path : FilePath
  deriving DecidableEq, Repr

/-- The message of the fault: the number and the words by which systems report the reason, and the
path between quotation marks.  Systems are never asked about the character zero, which has no
number. -/
def Failure.message (failure : Failure) : String :=
  match failure.reason with
  | .notFound => shown "[Errno 2] No such file or directory"
  | .notADirectory => shown "[Errno 20] Not a directory"
  | .isADirectory => shown "[Errno 21] Is a directory"
  | .nameTooLong => shown "[Errno 36] File name too long"
  | .nullCharacter => "embedded null byte"
where
  shown (reason : String) : String :=
    reason ++ ": " ++ Text.Quoted.quote failure.path.render

/-- The end of a walk that starts at `here`.  Only a directory can be walked through. -/
def walk (fs : FileSystem) (here : List String) : List String → Except Reason (List String)
  | [] => .ok here
  | part :: parts =>
    match fs.lookup? here with
    | none => .error .notFound
    | some (.file _) => .error .notADirectory
    | some .directory =>
      if FilePath.maxPartSize < part.utf8ByteSize then .error .nameTooLong
      else walk fs (stepTo here part) parts

/-- **The parts from the root on that a path leads to**, whether or not something is there. -/
def resolve (fs : FileSystem) (path : FilePath) : Except Reason (List String) :=
  if path.hasNull then .error .nullCharacter
  else if FilePath.maxSize < path.render.utf8ByteSize then .error .nameTooLong
  else fs.walk (fs.start path) path.parts

def find (fs : FileSystem) (path : FilePath) : Except Reason Entry := do
  match fs.lookup? (← fs.resolve path) with
  | some entry => .ok entry
  | none => .error .notFound

/-- Why the system refuses to say what a path leads to, if it does. -/
def refusal? (fs : FileSystem) (path : FilePath) : Option Failure :=
  match fs.find path with
  | .error .nameTooLong => some ⟨.nameTooLong, path⟩
  | _ => none

def isDirectory (fs : FileSystem) (path : FilePath) : Bool :=
  match fs.find path with
  | .ok .directory => true
  | _ => false

/-- **The bytes of a file.** -/
def read (fs : FileSystem) (path : FilePath) : Except Failure (List UInt8) :=
  match fs.find path with
  | .ok (.file bytes) => .ok bytes
  | .ok .directory => .error ⟨.isADirectory, path⟩
  | .error reason => .error ⟨reason, path⟩

theorem read_of_isDirectory {fs : FileSystem} {path : FilePath}
    (h : fs.isDirectory path = true) : fs.read path = .error ⟨.isADirectory, path⟩ := by
  unfold isDirectory at h
  unfold read
  split at h
  · next hf => rw [hf]
  · cases h

/-! ## Everything below a directory -/

/-- The order of lists of parts: the first part that differs decides, by code points. -/
def partsLe : List String → List String → Bool
  | [], _ => true
  | _ :: _, [] => false
  | a :: as, b :: bs => if a == b then partsLe as bs else decide (a < b)

/-- The list of parts and every list it goes through, the root left out. -/
def leading (parts : List String) : List (List String) :=
  (List.range parts.length).map fun n => parts.take (n + 1)

/-- Every list of parts under which something is there, the root left out. -/
def entries (fs : FileSystem) : List (List String) :=
  (fs.mentioned.flatMap leading).eraseDups

/-- The parts behind `base` of everything below it, each once, in the order of parts. -/
def partsBelow (fs : FileSystem) (base : List String) : List (List String) :=
  ((fs.entries.filter fun parts => base.isPrefixOf parts && parts != base).map
    (·.drop base.length)).mergeSort partsLe

/-- **Everything below a directory**, at any depth, as the path of the directory with more parts
behind it.  There is nothing below what is no directory. -/
def entriesBelow (fs : FileSystem) (path : FilePath) : List FilePath :=
  match fs.resolve path with
  | .error _ => []
  | .ok base => if fs.isDirectory path then (fs.partsBelow base).map path.below else []

end FileSystem

end DirectiveLint
