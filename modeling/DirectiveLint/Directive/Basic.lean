import DirectiveLint.Comment
import DirectiveLint.Directive.Layout
import DirectiveLint.Text.Quoted

/-!
# Directives

A `Directive` is what a well-formed comment says: which linters it names, how far its keyword
stands from the marker, and how it explains itself.

* `Directive.read` — the directive of a comment, or the fault that it does not follow the grammar.
* `Directive.isExplained` — the explanation says something.
* `Directive.withoutBlankTail` — the comment without a marker that explains nothing.
-/

namespace DirectiveLint

open Text

structure Directive where
  text : String
  position : Position
  /-- The blanks between the marker and the keyword. -/
  leading : String
  /-- The linters named, in order, repetitions kept.  None means every linter. -/
  linters : List String
  /-- The explanation with its marker; empty if there is none. -/
  explanation : String
  deriving DecidableEq, Repr

namespace Directive

/-- The fault of a comment that does not follow the strict grammar. -/
structure Malformed where
  text : String
  deriving DecidableEq, Repr

def Malformed.message (fault : Malformed) : String :=
  "Malformed directive: " ++ Quoted.quote fault.text

/-- The directive that a layout of a comment says. -/
def ofLayout (comment : Comment) (layout : Layout) : Directive where
  text := comment.text
  position := comment.position
  leading := String.ofList layout.lead
  linters := layout.targets.map fun target => String.ofList target.name
  explanation := String.ofList layout.explanation

/-- **The directive of a comment.**  The comment is held against the strict grammar alone, whether
or not it resembles a directive. -/
def read (comment : Comment) : Except Malformed Directive :=
  match Layout.ofChars? comment.text.toList with
  | some layout => .ok (ofLayout comment layout)
  | none => .error ⟨comment.text⟩

def leadingWidth (d : Directive) : Nat :=
  d.leading.length

/-- An explanation must say something: a bare marker, with or without blanks around it, explains
nothing. -/
def isExplained (d : Directive) : Bool :=
  !d.explanation.isEmpty && trim isBlank d.explanation.toList != marker

/-- A text without the blanks at its end, without one marker in front of them, and without the
blanks in front of that. -/
def withoutBlankTail (s : List Char) : List Char :=
  match s.reverse.dropWhile isAsciiBlank with
  | '/' :: '/' :: rest => (rest.dropWhile isAsciiBlank).reverse
  | rest => rest.reverse

/-- The comment of a directive as it is once an empty explanation has been taken away. -/
def unexplained (d : Directive) : String :=
  String.ofList (withoutBlankTail d.text.toList)

/-- At most one marker is taken away. -/
example :
    String.ofList (withoutBlankTail "//nolint // // ".toList) = "//nolint //" := by
  decide

theorem text_of_read {comment : Comment} {d : Directive} (h : read comment = .ok d) :
    d.text = comment.text ∧ d.position = comment.position := by
  simp only [read] at h
  split at h
  · obtain rfl := Except.ok.inj h
    exact ⟨rfl, rfl⟩
  · cases h

end Directive

end DirectiveLint
