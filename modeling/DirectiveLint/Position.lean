/-!
# Positions in source files

A position names a file, a byte offset in it, a line and a column.  Lines and columns count from
one; columns count bytes.  A position with no line (zero, or a negative number) is not *valid*: it
may still name a file.

`Position.render` writes the forms `file:line:column`, `line:column`, `file:line` and `file`,
whichever the position supports, and `-` when there is nothing to say.
-/

namespace DirectiveLint

structure Position where
  /-- The file, as it was named by the caller; empty when there is none. -/
  filename : String := ""
  /-- Bytes before the place. -/
  offset : Int := 0
  /-- The line, from one. -/
  line : Int := 0
  /-- The column in bytes, from one; zero when it is not known. -/
  column : Int := 0
  deriving DecidableEq, Repr, Inhabited

namespace Position

/-- A position is valid when it has a line. -/
def isValid (p : Position) : Bool :=
  0 < p.line

/-- The line, with the column if that is known. -/
def renderPlace (p : Position) : String :=
  toString p.line ++ if p.column == 0 then "" else ":" ++ toString p.column

def render (p : Position) : String :=
  if p.isValid then
    if p.filename.isEmpty then p.renderPlace else p.filename ++ ":" ++ p.renderPlace
  else if p.filename.isEmpty then "-"
  else p.filename

instance : ToString Position := ⟨render⟩

/-- **A valid position in a named file** always shows its line behind the file's name. -/
theorem render_of_isValid {p : Position} (h : p.isValid = true) (hf : p.filename.isEmpty = false) :
    p.render = p.filename ++ ":" ++ p.renderPlace := by
  simp [render, h, hf]

end Position

end DirectiveLint
