import DirectiveLint.Command
import DirectiveLint.Proofs.Locality

/-!
# Syntax errors

A parser that cannot make sense of a part of its source says so by an error node, and this module
shows that nobody who looks for comments can tell.

**Disturbances.**  `Disturbed` puts one error node into a tree: around some children that follow
each other, or in place of a node that was no comment.  It keeps track of the nodes in front of that
place.  `DisturbedBy` is any number of such steps.

**Two traversals.**  The nodes of a disturbed tree are those of the tree with the error node among
them (`Disturbed.preorder_eq`).  Comments and errors are both filtered out of that list, and no node
is of both kinds; so the comments stay (`Disturbed.comments_eq`), and the messages get one more
(`Disturbed.syntaxErrors_eq`).  A log tells of them in one line, with their number
(`DisturbedBy.broken_eq`).

`syntax_errors_do_not_disturb_comments` says both, of one step and of all.
-/

namespace DirectiveLint

namespace SyntaxNode

/-- A node that has become an error node.  It stays where it is. -/
def asError (node : SyntaxNode) : SyntaxNode :=
  { node with kind := "ERROR" }

@[simp] lemma isError_asError (node : SyntaxNode) : node.asError.isError = true := by
  simp [isError, asError]

/-- No node is a comment and an error. -/
lemma isComment_eq_false_of_isError {node : SyntaxNode} (h : node.isError = true) :
    node.isComment = false := by
  simp only [isError, beq_iff_eq] at h
  simp [isComment, commentKinds, h]

end SyntaxNode

namespace SyntaxTree

/-- **One disturbance.**  The error node comes to stand behind the nodes `front`. -/
inductive Disturbed : List SyntaxNode → SyntaxNode → SyntaxTree → SyntaxTree → Prop where
  /-- A new error node takes some children in. -/
  | wrap {label error : SyntaxNode} (left inside right : List SyntaxTree)
      (herror : error.isError = true) :
      Disturbed (label :: preorderAll left) error (.node label (left ++ (inside ++ right)))
        (.node label (left ++ .node error inside :: right))
  /-- A node becomes an error node. -/
  | retype (label : SyntaxNode) (children : List SyntaxTree) (hcomment : label.isComment = false)
      (herror : label.isError = false) :
      Disturbed [] label.asError (.node label children) (.node label.asError children)
  | deeper {front : List SyntaxNode} {label error : SyntaxNode} {child child' : SyntaxTree}
      (left right : List SyntaxTree) (h : Disturbed front error child child') :
      Disturbed (label :: (preorderAll left ++ front)) error (.node label (left ++ child :: right))
        (.node label (left ++ child' :: right))

/-- **Any number of disturbances**, with the error nodes that they have made. -/
inductive DisturbedBy : List SyntaxNode → SyntaxTree → SyntaxTree → Prop where
  | refl (tree : SyntaxTree) : DisturbedBy [] tree tree
  | step {errors front : List SyntaxNode} {error : SyntaxNode} {tree tree' tree'' : SyntaxTree}
      (h : DisturbedBy errors tree tree') (hstep : Disturbed front error tree' tree'') :
      DisturbedBy (errors ++ [error]) tree tree''

/-- The messages about the error nodes of a list. -/
def messages (nodes : List SyntaxNode) : List String :=
  (nodes.filter SyntaxNode.isError).map errorMessage

lemma syntaxErrors_eq_messages (tree : SyntaxTree) : tree.syntaxErrors = messages tree.preorder :=
  rfl

lemma messages_append (xs ys : List SyntaxNode) :
    messages (xs ++ ys) = messages xs ++ messages ys := by
  simp [messages]

lemma messages_cons_of_isError {node : SyntaxNode} (h : node.isError = true)
    (nodes : List SyntaxNode) : messages (node :: nodes) = errorMessage node :: messages nodes := by
  simp [messages, h]

lemma messages_cons_of_not_isError {node : SyntaxNode} (h : node.isError = false)
    (nodes : List SyntaxNode) : messages (node :: nodes) = messages nodes := by
  simp [messages, h]

/-! ## One step -/

variable {front errors : List SyntaxNode} {error : SyntaxNode} {tree tree' : SyntaxTree}

lemma Disturbed.isError (h : Disturbed front error tree tree') : error.isError = true := by
  induction h with
  | wrap _ _ _ herror => exact herror
  | retype _ _ _ _ => simp
  | deeper _ _ _ ih => exact ih

/-- **The nodes of a disturbed tree** are those of the tree, with the error node in its place: in
between, or instead of a node that is neither a comment nor an error. -/
lemma Disturbed.preorder_eq (h : Disturbed front error tree tree') :
    ∃ behind, tree'.preorder = front ++ error :: behind ∧
      (tree.preorder = front ++ behind ∨
        ∃ node, node.isComment = false ∧ node.isError = false ∧ error = node.asError ∧
          tree.preorder = front ++ node :: behind) := by
  induction h with
  | wrap left inside right herror =>
    refine ⟨preorderAll inside ++ preorderAll right, ?_, Or.inl ?_⟩
    · simp [preorder, preorderAll_append, preorderAll]
    · simp [preorder, preorderAll_append]
  | retype label children hcomment herror =>
    exact ⟨preorderAll children, rfl, Or.inr ⟨label, hcomment, herror, rfl, rfl⟩⟩
  | deeper left right _ ih =>
    obtain ⟨behind, hchild', hchild⟩ := ih
    refine ⟨behind ++ preorderAll right, ?_, ?_⟩
    · simp [preorder, preorderAll_append, preorderAll, hchild']
    · rcases hchild with hchild | ⟨node, hcomment, herror, rfl, hchild⟩
      · left
        simp [preorder, preorderAll_append, preorderAll, hchild]
      · right
        exact ⟨node, hcomment, herror, rfl, by
          simp [preorder, preorderAll_append, preorderAll, hchild]⟩

/-- **The comments stay**, in their order. -/
lemma Disturbed.comments_eq (h : Disturbed front error tree tree') :
    tree'.comments = tree.comments := by
  have herror := SyntaxNode.isComment_eq_false_of_isError h.isError
  obtain ⟨behind, htree', htree | ⟨node, hcomment, -, -, htree⟩⟩ := h.preorder_eq
  · simp [comments, htree', htree, herror]
  · simp [comments, htree', htree, herror, hcomment]

/-- **The messages get one more**, where the error node stands. -/
lemma Disturbed.syntaxErrors_eq (h : Disturbed front error tree tree') :
    ∃ behind, tree'.preorder = front ++ error :: behind ∧
      tree.syntaxErrors = messages front ++ messages behind ∧
      tree'.syntaxErrors = messages front ++ errorMessage error :: messages behind := by
  obtain ⟨behind, htree', htree⟩ := h.preorder_eq
  refine ⟨behind, htree', ?_, ?_⟩
  · rcases htree with htree | ⟨node, -, hnode, -, htree⟩
    · rw [syntaxErrors_eq_messages, htree, messages_append]
    · rw [syntaxErrors_eq_messages, htree, messages_append, messages_cons_of_not_isError hnode]
  · rw [syntaxErrors_eq_messages, htree', messages_append, messages_cons_of_isError h.isError]

/-! ## Any number of steps -/

lemma DisturbedBy.comments_eq (h : DisturbedBy errors tree tree') :
    tree'.comments = tree.comments := by
  induction h with
  | refl tree => rfl
  | step _ hstep ih => rw [hstep.comments_eq, ih]

/-- **No message goes**, the old ones keep their order, and there is one for each error node that
was made. -/
lemma DisturbedBy.syntaxErrors (h : DisturbedBy errors tree tree') :
    tree.syntaxErrors.Sublist tree'.syntaxErrors ∧
      tree'.syntaxErrors.Perm (tree.syntaxErrors ++ errors.map errorMessage) := by
  induction h with
  | refl tree => simp
  | @step errors front error tree tree' tree'' _ hstep ih =>
    obtain ⟨hsublist, hperm⟩ := ih
    obtain ⟨behind, -, hbefore, hafter⟩ := hstep.syntaxErrors_eq
    rw [hafter]
    rw [hbefore] at hsublist hperm
    refine ⟨hsublist.trans ((List.sublist_cons_self _ _).append_left _), ?_⟩
    rw [List.map_append, ← List.append_assoc]
    exact List.perm_middle.trans ((hperm.cons _).trans (List.perm_append_singleton _ _).symm)

/-- **The log counts them**, those that were there before and those that were made. -/
lemma DisturbedBy.broken_eq (h : DisturbedBy errors tree tree') (hne : errors ≠ [])
    (language : Language) :
    Log.broken language tree' = [Log.line "nolint_tree_sitter.parser"
      (toString (tree.syntaxErrors.length + errors.length) ++ " syntax error(s) in " ++
        language.name ++ " source")] := by
  have hlength : tree'.syntaxErrors.length = tree.syntaxErrors.length + errors.length := by
    rw [h.syntaxErrors.2.length_eq, List.length_append, List.length_map]
  have hsome : tree'.syntaxErrors ≠ [] := by
    rw [← List.length_pos_iff, hlength]
    exact Nat.add_pos_right _ (List.length_pos_iff.mpr hne)
  rw [Log.broken, if_neg (by simpa using hsome), hlength]

/-- A Go file with brackets that nothing has opened, under a grammar that says so. -/
example :
    let source := "package main\n\n//nolint\n)))\n".toList.map Char.toUInt8
    let _ : Grammars := ⟨fun _ _ => .node ⟨"source_file", 0, 27, ⟨0, 0⟩⟩
      [.node ⟨"package_clause", 0, 12, ⟨0, 0⟩⟩ [], .node ⟨"comment", 14, 22, ⟨2, 0⟩⟩ [],
        .node ⟨"ERROR", 23, 26, ⟨3, 0⟩⟩ []]⟩
    Log.loading { files := [(["a.go"], source)] } ⟨"", ["a.go"]⟩ =
      ["DEBUG nolint_tree_sitter.parser: Parsing a.go as go",
        "DEBUG nolint_tree_sitter.parser: 1 syntax error(s) in go source",
        "DEBUG nolint_tree_sitter.comments: a.go: 1 comment group(s)"] := by
  decide +kernel

end SyntaxTree

open SyntaxTree in
/-- **Syntax errors do not disturb comments.**  However often error nodes have been put into a tree:

* the tree gives the same file, with the same comments in the same groups;
* there is one message more for each error node that was made, and the others are what they were,
  in their order;
* one more error node leaves the file as it is, too, and its message comes between those of the
  nodes in front of it and those of the nodes behind it;
* an engine whose parser hands over the disturbed tree loads the same file from the source as an
  engine whose parser hands over the other one. -/
theorem syntax_errors_do_not_disturb_comments [Grammars] {errors : List SyntaxNode}
    {tree tree' : SyntaxTree} (h : DisturbedBy errors tree tree') (source : List UInt8)
    (path : String) :
    SourceFile.ofTree source path tree' = SourceFile.ofTree source path tree ∧
      (tree.syntaxErrors.Sublist tree'.syntaxErrors ∧
        tree'.syntaxErrors.Perm (tree.syntaxErrors ++ errors.map errorMessage)) ∧
      (∀ front error tree'', Disturbed front error tree' tree'' →
        SourceFile.ofTree source path tree'' = SourceFile.ofTree source path tree ∧
          ∃ behind, tree''.preorder = front ++ error :: behind ∧
            tree'.syntaxErrors = messages front ++ messages behind ∧
            tree''.syntaxErrors = messages front ++
              ("Syntax error at line " ++ toString (error.point.row + 1)) :: messages behind) ∧
      ∀ (engine engine' : Engine) (language : Language), engine.treeOf language source = tree →
        engine'.treeOf language source = tree' →
        ((Engine.loadSource language.name path source).run engine').1 =
          ((Engine.loadSource language.name path source).run engine).1 := by
  have hfile : SourceFile.ofTree source path tree' = SourceFile.ofTree source path tree := by
    simp only [SourceFile.ofTree, h.comments_eq]
  refine ⟨hfile, h.syntaxErrors, ?step, ?engine⟩
  case step =>
    intro front error tree'' hstep
    constructor
    · rw [← hfile]
      simp only [SourceFile.ofTree, hstep.comments_eq]
    · exact hstep.syntaxErrors_eq
  case engine =>
    intro engine engine' language htree htree'
    rw [Engine.loadSource_name, Engine.loadSource_name, htree, htree', hfile]

/-! ## A disturbed declaration -/

/-- A declaration on two lines, with a comment in it and one behind it. -/
def declaration : List UInt8 :=
  "var x\n/* a */ y =\n// b".toList.map Char.toUInt8

/-- A tree of that source: a declaration of some kind, with a name and what follows it, and a
comment with some nodes below. -/
def declarationTree (kind : String) (value text : List SyntaxTree) : SyntaxTree :=
  .node ⟨"source_file", 0, 22, ⟨0, 0⟩⟩
    [.node ⟨kind, 0, 17, ⟨0, 0⟩⟩ (.node ⟨"name", 4, 5, ⟨0, 4⟩⟩ [] :: value),
      .node ⟨"comment", 18, 22, ⟨2, 0⟩⟩ text]

def declarationValue : List SyntaxTree :=
  [.node ⟨"comment", 6, 13, ⟨1, 0⟩⟩ [], .node ⟨"value", 14, 17, ⟨1, 8⟩⟩ []]

def declarationText : List SyntaxTree :=
  [.node ⟨"text", 20, 22, ⟨2, 2⟩⟩ []]

/-- An error node below a comment, one around a comment, and then the declaration itself. -/
theorem declaration_disturbed :
    let tree := declarationTree "var_declaration" declarationValue declarationText
    let tree' := declarationTree "ERROR" [.node ⟨"ERROR", 6, 17, ⟨1, 0⟩⟩ declarationValue]
      [.node ⟨"ERROR", 20, 22, ⟨2, 2⟩⟩ declarationText]
    SyntaxTree.DisturbedBy [⟨"ERROR", 20, 22, ⟨2, 2⟩⟩, ⟨"ERROR", 6, 17, ⟨1, 0⟩⟩,
        ⟨"ERROR", 0, 17, ⟨0, 0⟩⟩] tree tree' ∧
      SourceFile.ofTree declaration "a.go" tree' = SourceFile.ofTree declaration "a.go" tree ∧
      tree.syntaxErrors = [] ∧ tree'.syntaxErrors =
        ["Syntax error at line 1", "Syntax error at line 2", "Syntax error at line 3"] := by
  intro tree tree'
  have hbelow : SyntaxTree.Disturbed _ ⟨"ERROR", 20, 22, ⟨2, 2⟩⟩ tree
      (declarationTree "var_declaration" declarationValue
        [.node ⟨"ERROR", 20, 22, ⟨2, 2⟩⟩ declarationText]) :=
    .deeper [_] [] (.wrap [] declarationText [] rfl)
  have haround : SyntaxTree.Disturbed _ ⟨"ERROR", 6, 17, ⟨1, 0⟩⟩ _
      (declarationTree "var_declaration" [.node ⟨"ERROR", 6, 17, ⟨1, 0⟩⟩ declarationValue]
        [.node ⟨"ERROR", 20, 22, ⟨2, 2⟩⟩ declarationText]) :=
    .deeper [] [_] (.wrap [_] declarationValue [] rfl)
  have hitself : SyntaxTree.Disturbed _ ⟨"ERROR", 0, 17, ⟨0, 0⟩⟩ _ tree' :=
    .deeper [] [_] (.retype ⟨"var_declaration", 0, 17, ⟨0, 0⟩⟩ _ rfl rfl)
  have h := (((SyntaxTree.DisturbedBy.refl tree).step hbelow).step haround).step hitself
  exact ⟨h, (syntax_errors_do_not_disturb_comments h declaration "a.go").1, by decide, by decide⟩

end DirectiveLint
