import DirectiveLint.Extraction

/-!
# Scanning a source for comments

Finding the comments of a source file takes no grammar: one walk over its bytes is enough, with a
little memory of what surrounds the current byte.  A `Scanner` is that memory and what a byte does
to it; the walk itself is the same for every language.

* `Mark` — how far the walk has come: a byte offset with its row and column.
* `opens?` — the form of the comment that a byte opens.
* `isEscape` — whether a backslash in a literal begins an escape.
* `Scanner` — the modes of a language, the step on one byte, and what is left at the end.
* `Scanner.nodes` — the comment nodes of a source, in the order in which they end.

A step sees the bytes ahead of the one it is about, so no mode has to wait for what a byte turns
out to be.

No token holds the byte zero: it ends a comment that goes up to the end of its line, and what it
stands in is no comment between delimiters and no literal.
-/

namespace DirectiveLint

structure Mark where
  offset : Nat := 0
  point : Point := ⟨0, 0⟩
  deriving DecidableEq, Repr, Inhabited

namespace Mark

/-- The mark behind one more byte.  Only a line feed starts a new row. -/
def next (mark : Mark) (b : UInt8) : Mark :=
  if b == lineFeed then ⟨mark.offset + 1, ⟨mark.point.row + 1, 0⟩⟩
  else ⟨mark.offset + 1, ⟨mark.point.row, mark.point.column + 1⟩⟩

def comment (start : Mark) (stop : Nat) : SyntaxNode :=
  ⟨"comment", start.offset, stop, start.point⟩

@[simp] theorem offset_next (mark : Mark) (b : UInt8) :
    (mark.next b).offset = mark.offset + 1 := by
  unfold next
  split <;> rfl

end Mark

/-! ## Where comments open -/

inductive CommentForm where
  /-- Two slashes, up to the end of the line. -/
  | line
  /-- Between a slash with a star and a star with a slash. -/
  | block
  deriving DecidableEq, Repr

/-- The byte that no token holds. -/
def zeroByte : UInt8 := 0

/-- A star with a slash behind it comes up. -/
def closesBlock : List UInt8 → Bool
  | a :: b :: ahead =>
    a != zeroByte && ((a == '*'.toUInt8 && b == '/'.toUInt8) || closesBlock (b :: ahead))
  | _ => false

/-- **The form of the comment that a byte opens**, with the bytes ahead of it.  What is never closed
is no comment between delimiters. -/
def opens? (b : UInt8) (ahead : List UInt8) : Option CommentForm :=
  if b == '/'.toUInt8 then
    match ahead with
    | [] => none
    | c :: ahead =>
      if c == '/'.toUInt8 then some .line
      else if c == '*'.toUInt8 && closesBlock ahead then some .block
      else none
  else none

/-! ## Escapes in literals -/

def isHexDigit (b : UInt8) : Bool :=
  let c := Char.ofNat b.toNat
  c.isDigit || ('a' ≤ c && c ≤ 'f') || ('A' ≤ c && c ≤ 'F')

def startsWithHexDigits (count : Nat) (ahead : List UInt8) : Bool :=
  count ≤ (ahead.takeWhile isHexDigit).length

/-- **What stands behind a backslash makes an escape of it.**  Any byte does, but the letters that
announce a code point need its digits: eight, four, or at least as many as `least` says. -/
def isEscape (least : Nat) : List UInt8 → Bool
  | [] => false
  | b :: ahead =>
    if b == 'x'.toUInt8 then startsWithHexDigits least ahead
    else if b == 'u'.toUInt8 then startsWithHexDigits 4 ahead
    else if b == 'U'.toUInt8 then startsWithHexDigits 8 ahead
    else b != zeroByte

/-! ## The walk -/

/-- The memory of a walk and what one byte does to it.  A step may close at most one comment. -/
structure Scanner (Mode : Type) where
  initial : Mode
  /-- The mode behind a byte that is read at a mark, with the bytes ahead of it. -/
  step : Mode → Mark → UInt8 → List UInt8 → Mode × Option SyntaxNode
  /-- The comment that the end of the source closes. -/
  finish : Mode → Mark → Option SyntaxNode

namespace Scanner

variable {Mode : Type}

/-- The comments that the rest of a source closes. -/
def nodesFrom (scanner : Scanner Mode) : Mode → Mark → List UInt8 → List SyntaxNode
  | mode, here, [] => (scanner.finish mode here).toList
  | mode, here, b :: bytes =>
    match scanner.step mode here b bytes with
    | (next, none) => nodesFrom scanner next (here.next b) bytes
    | (next, some node) => node :: nodesFrom scanner next (here.next b) bytes

/-- **The comment nodes of a source.** -/
def nodes (scanner : Scanner Mode) (source : List UInt8) : List SyntaxNode :=
  scanner.nodesFrom scanner.initial {} source

/-- The tree of a source: its comments, side by side below one root. -/
def tree (scanner : Scanner Mode) (root : String) (source : List UInt8) : SyntaxTree :=
  .node ⟨root, 0, source.length, ⟨0, 0⟩⟩ ((scanner.nodes source).map (.node · []))

end Scanner

end DirectiveLint
