/-!
# File paths

A path is a root and a list of parts.  Reading one drops what does not change which file is meant
whatever the file system holds: repeated slashes, parts that are a single dot, and a slash at the
end.  A part of two dots stays, since links may make it mean something else than the part before
it would.

* `FilePath.ofString` and `FilePath.render` — reading and writing.  The path without parts is
  written as a dot.
* `FilePath.suffix` — the last part from its last dot on.
* `FilePath.below` — a path with more parts behind it.
* `FilePath.hasNull`, `FilePath.maxPartSize`, `FilePath.maxSize` — what systems accept as a path.
-/

namespace DirectiveLint

/-- A path: the slashes it starts with, and its parts. -/
structure FilePath where
  /-- Empty for a relative path, one slash for an absolute one, and two slashes where exactly two
  were written, which systems may give a meaning of their own. -/
  root : String := ""
  parts : List String
  deriving DecidableEq, Repr, Inhabited

namespace FilePath

/-- The root of a path as written: the slashes at its start, where three or more count as one. -/
def rootOf (s : List Char) : String :=
  match (s.takeWhile (· == '/')).length with
  | 0 => ""
  | 2 => "//"
  | _ => "/"

/-- **Reading a path.**  Empty parts and single dots are dropped. -/
def ofString (s : String) : FilePath where
  root := rootOf s.toList
  parts := ((s.toList.splitOn '/').map String.ofList).filter fun part => part != "" && part != "."

def render (path : FilePath) : String :=
  let text := path.root ++ "/".intercalate path.parts
  if text.isEmpty then "." else text

instance : ToString FilePath := ⟨render⟩

def isAbsolute (path : FilePath) : Bool :=
  path.root != ""

/-- The path holds the character zero, which ends the names that systems know. -/
def hasNull (path : FilePath) : Bool :=
  path.parts.any fun part => part.toList.contains '\x00'

/-- The greatest length of a part, in bytes. -/
def maxPartSize : Nat := 255

/-- The greatest length of a path, in bytes. -/
def maxSize : Nat := 4095

def below (path : FilePath) (parts : List String) : FilePath :=
  ⟨path.root, path.parts ++ parts⟩

/-- The suffix of a name: its last dot and what follows.  A name has none if it has no dot, or if
its last dot comes first or last. -/
def suffixOfName (name : List Char) : List Char :=
  let ending := (name.reverse.takeWhile (· != '.')).reverse
  let stem := (name.reverse.dropWhile (· != '.')).drop 1
  if ending.isEmpty || stem.isEmpty then [] else '.' :: ending

def suffix (path : FilePath) : String :=
  match path.parts.getLast? with
  | none => ""
  | some name => String.ofList (suffixOfName name.toList)

/-- A hidden file has no suffix for its name, and a dot at the end makes none. -/
example :
    (ofString "dir/.go").suffix = "" ∧ (ofString "a.h.").suffix = "" ∧
      (ofString "./a//b.c.go/").suffix = ".go" := by
  decide

theorem below_below (path : FilePath) (xs ys : List String) :
    (path.below xs).below ys = path.below (xs ++ ys) := by
  simp [below, List.append_assoc]

end FilePath

end DirectiveLint
