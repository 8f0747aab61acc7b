import DirectiveLint.Language
import DirectiveLint.Language.C
import DirectiveLint.Language.Go

/-!
# Scanners as grammars

A linter looks at nothing but the comments of a source, so a scanner does for a grammar: the tree of
a source has its comments, side by side below one root.  A scanner takes no offence at anything, so
no node of it stands for text that does not parse.
-/

namespace DirectiveLint

/-- The grammars that the program brings along. -/
instance scanners : Grammars where
  parser
    | .go => Go.scanner.tree "source_file"
    | .c => C.scanner.tree "translation_unit"

theorem Language.tree_go : Language.go.tree = Go.scanner.tree "source_file" := rfl

theorem Language.tree_c : Language.c.tree = C.scanner.tree "translation_unit" := rfl

end DirectiveLint
