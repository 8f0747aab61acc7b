import DirectiveLint.Extraction
import DirectiveLint.FilePath

/-!
# Source languages

The languages whose comments can be found, how they are named, and which files are written in
them.

* `Language.ofName` — the language of a name, spelled exactly.
* `Language.ofPath` — the language of a file, from the suffix of its name in any case.
* `Grammars` — the parsers of the languages.
* `Language.tree` — the tree of a source.
* `SourceFile.ofSource` — the comment groups of a source.

**Grammars are not part of a language here.**  What a source is parsed to is up to the grammars at
hand, and whatever is said of them is said by name where it is needed.  `scanners` are the grammars
that the program brings along.
-/

namespace DirectiveLint

inductive Language where
  | go
  | c
  deriving DecidableEq, Repr

namespace Language

def name : Language → String
  | go => "go"
  | c => "c"

/-- The fault of asking for a language that is not there. -/
inductive Unsupported where
  | name (name : String)
  | file (path : FilePath)
  deriving DecidableEq, Repr

def Unsupported.message : Unsupported → String
  | .name n => "No grammar for language '" ++ n ++ "'"
  | .file path => "Unsupported file type: " ++ path.render

def ofName (name : String) : Except Unsupported Language :=
  if name == go.name then .ok go
  else if name == c.name then .ok c
  else .error (.name name)

def bySuffix : List (String × Language) :=
  [(".go", go), (".c", c), (".h", c)]

/-- A suffix in lower case.  The suffixes of languages are ASCII, and no other character has an
ASCII letter of theirs for its lower-case form. -/
def foldCase (suffix : String) : String :=
  String.ofList (suffix.toList.map Char.toLower)

/-- **The language of a file**, from its suffix in any case. -/
def ofPath (path : FilePath) : Except Unsupported Language :=
  match bySuffix.lookup (foldCase path.suffix) with
  | some language => .ok language
  | none => .error (.file path)

/-- The suffix of a file is the one of a language, spelled exactly. -/
def hasSourceSuffix (path : FilePath) : Bool :=
  (bySuffix.lookup path.suffix).isSome

theorem ofName_name (language : Language) : ofName language.name = .ok language := by
  cases language <;> rfl

end Language

/-! ## Trees of sources -/

/-- A parser of one language. -/
abbrev Parser := List UInt8 → SyntaxTree

/-- **The grammars at hand**: a parser for each language. -/
class Grammars where
  parser : Language → Parser

variable [Grammars]

/-- The tree of a source. -/
def Language.tree (language : Language) : Parser :=
  Grammars.parser language

def SourceFile.ofSource (language : Language) (path : String) (source : List UInt8) : SourceFile :=
  SourceFile.ofTree source path (language.tree source)

end DirectiveLint
