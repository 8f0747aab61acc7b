/-!
# Syntax trees

What a parser of a source language hands over: a tree whose nodes carry a kind, the bytes they
cover, and the place where they start.  Nothing is assumed of a tree; spans may overlap, run
backwards or point past the end of the source.

* `SyntaxTree.preorder` — the nodes from the root on, every node before its children.
* `SyntaxTree.comments` — the comment nodes in that order.
* `SyntaxTree.syntaxErrors` — one message for every node that stands for text the parser could not
  make sense of.
-/

namespace DirectiveLint

/-- A row and a column in a source, both counted from zero; columns count bytes. -/
structure Point where
  row : Nat
  column : Nat
  deriving DecidableEq, Repr, Inhabited

structure SyntaxNode where
  /-- The kind of the node, as its grammar calls it. -/
  kind : String
  start : Nat
  /-- The offset behind its last byte. -/
  stop : Nat
  point : Point
  deriving DecidableEq, Repr, Inhabited

inductive SyntaxTree where
  | node (label : SyntaxNode) (children : List SyntaxTree)
  deriving Inhabited

namespace SyntaxNode

def commentKinds : List String :=
  ["comment", "line_comment", "block_comment"]

def isComment (node : SyntaxNode) : Bool :=
  commentKinds.contains node.kind

/-- The node stands for text that does not parse. -/
def isError (node : SyntaxNode) : Bool :=
  node.kind == "ERROR"

end SyntaxNode

namespace SyntaxTree

mutual

/-- The nodes of a tree, every node before its children. -/
def preorder : SyntaxTree → List SyntaxNode
  | .node label children => label :: preorderAll children

def preorderAll : List SyntaxTree → List SyntaxNode
  | [] => []
  | tree :: trees => preorder tree ++ preorderAll trees

end

theorem preorderAll_append (xs ys : List SyntaxTree) :
    preorderAll (xs ++ ys) = preorderAll xs ++ preorderAll ys := by
  induction xs with
  | nil => rfl
  | cons x xs ih => simp [preorderAll, ih]

theorem preorderAll_eq_flatMap (trees : List SyntaxTree) :
    preorderAll trees = trees.flatMap preorder := by
  induction trees with
  | nil => rfl
  | cons tree trees ih => rw [preorderAll, ih, List.flatMap_cons]

def comments (tree : SyntaxTree) : List SyntaxNode :=
  tree.preorder.filter SyntaxNode.isComment

def errorMessage (node : SyntaxNode) : String :=
  "Syntax error at line " ++ toString (node.point.row + 1)

/-- **Syntax errors are messages, not failures**: comments are taken from a broken file as well. -/
def syntaxErrors (tree : SyntaxTree) : List String :=
  (tree.preorder.filter SyntaxNode.isError).map errorMessage

end SyntaxTree

end DirectiveLint
