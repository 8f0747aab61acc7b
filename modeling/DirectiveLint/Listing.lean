import DirectiveLint.Directive.Basic
import DirectiveLint.SourceFiles

/-!
# Listing directives

The comments of a file that claim to be directives, with how each of them reads.

* `Directive.entry` — the line about a directive: its place, the blanks before its keyword, its
  linters and its explanation.
* `Comment.entry` — the line about a comment; a malformed one is shown between quotation marks.
* `SourceFile.listing` — the lines about a file, in source order.

A hyphen stands for what is not there.  A hyphen is also a possible name of a linter, so a directive
for that linter alone reads like one that names none.
-/

namespace DirectiveLint

open Text

/-- The linters of a directive in one word. -/
def Directive.linterText (d : Directive) : String :=
  if d.linters.isEmpty then "-" else ",".intercalate d.linters

/-- The explanation of a directive, blanks trimmed; a hyphen if it says nothing. -/
def Directive.explanationText (d : Directive) : String :=
  if d.isExplained then String.ofList (trim isBlank d.explanation.toList) else "-"

def Directive.entry (d : Directive) : String :=
  d.position.render ++ ": space=" ++ toString d.leadingWidth ++ " linters=" ++ d.linterText ++
    " explanation=" ++ d.explanationText

def Comment.entry (comment : Comment) : String :=
  match Directive.read comment with
  | .ok d => d.entry
  | .error fault => comment.position.render ++ ": " ++ Quoted.quote fault.text ++ " (malformed)"

/-- The comments of a file that claim to be directives. -/
def SourceFile.directives (file : SourceFile) : List Comment :=
  file.comments.filter fun comment => Directive.resembles comment.text.toList

/-- **The lines about a file**, one for each comment that claims to be a directive. -/
def SourceFile.listing (file : SourceFile) : List String :=
  file.directives.map Comment.entry

end DirectiveLint
