import DirectiveLint.Position

/-!
# Comments and source files

What the linter sees of a source file is its comments, each with its text and its position,
gathered into groups of adjacent comments.

* `Comment` — one comment as written, marker included.
* `SourceFile` — the path of a file and its comment groups in source order.
* `SourceFile.comments` — the comments alone, in source order; the groups cut this list into
  consecutive pieces.
-/

namespace DirectiveLint

/-- One comment as written in the source, marker included. -/
structure Comment where
  text : String
  position : Position := {}
  deriving DecidableEq, Repr, Inhabited

/-- The comments of one file, in groups of adjacent comments. -/
structure SourceFile where
  path : String
  groups : List (List Comment) := []
  deriving DecidableEq, Repr, Inhabited

def SourceFile.comments (file : SourceFile) : List Comment :=
  file.groups.flatten

end DirectiveLint
