import DirectiveLint.Comment
import DirectiveLint.SyntaxTree
import DirectiveLint.Text.Utf8

/-!
# From trees to comment groups

The comments of a source file are the comment nodes of its tree in document order.  Two comments
that follow each other belong to one group when nothing but blanks and at most one line break is
between them, and the first of them stands alone on its line: a comment behind code belongs to that
code, not to the comment below it.

* `slice` — the bytes of a source in a span.
* `Comment.ofNode` — one comment node with its text and its position.
* `adjoins` — the grouping test for two neighbours.
* `SourceFile.ofTree` — the comment groups of a file.

The text of a comment is read leniently as UTF-8, and carriage returns are left out of it, since in
files with two-byte line ends they end up inside line comments.
-/

namespace DirectiveLint

/-- A blank byte: space, tab, line feed, vertical tab, form feed or carriage return. -/
def isBlankByte (b : UInt8) : Bool :=
  b == 0x20 || (0x09 ≤ b && b ≤ 0x0D)

/-- The line feed, which alone ends a line. -/
def lineFeed : UInt8 := 0x0A

/-- The bytes of a source from `start` up to `stop`, as far as the source has them.  A span that
runs backwards is empty. -/
def slice (source : List UInt8) (start stop : Nat) : List UInt8 :=
  (source.drop start).take (stop - start)

def SyntaxNode.text (source : List UInt8) (node : SyntaxNode) : String :=
  String.ofList (Text.Utf8.decodeLossy (slice source node.start node.stop))

/-- The bytes between the start of a place's line and the place. -/
def lineBefore (source : List UInt8) (offset : Nat) : List UInt8 :=
  ((source.take offset).reverse.takeWhile (· != lineFeed)).reverse

/-- One comment node with its text, carriage returns left out, and its position, counted from
one. -/
def Comment.ofNode (source : List UInt8) (path : String) (node : SyntaxNode) : Comment where
  text := String.ofList ((node.text source).toList.filter (· != '\r'))
  position :=
    { filename := path
      offset := node.start
      line := node.point.row + 1
      column := node.point.column + 1 }

def standsAlone (source : List UInt8) (node : SyntaxNode) : Bool :=
  (lineBefore source node.start).all isBlankByte

/-- **Two neighbouring comments are of one group** when the gap between them is blank with at most
one line break, and the first of them stands alone on its line. -/
def adjoins (source : List UInt8) (previous current : SyntaxNode) : Bool :=
  let gap := slice source previous.stop current.start
  gap.all isBlankByte && gap.count lineFeed ≤ 1 && standsAlone source previous

/-- The comment groups of a file.  Every comment starts a new group unless it adjoins the one
before it. -/
def SourceFile.ofTree (source : List UInt8) (path : String) (tree : SyntaxTree) : SourceFile where
  path
  groups := (tree.comments.splitBy (adjoins source)).map (·.map (Comment.ofNode source path))

theorem slice_eq_drop_take (source : List UInt8) (start stop : Nat) :
    slice source start stop = (source.take stop).drop start := by
  rw [slice, List.drop_take]

theorem slice_eq_nil_of_le {source : List UInt8} {start stop : Nat} (h : stop ≤ start) :
    slice source start stop = [] := by
  rw [slice, Nat.sub_eq_zero_of_le h, List.take_zero]

end DirectiveLint
