import DirectiveLint.Proofs.Scanning

/-!
# The order of a tree

A tree lists its nodes by structure, every node before its children.  In a tree whose spans nest as
its nodes do, this is the order of their starts.

* `SyntaxTree.WellFormed` — spans run forwards, children lie inside their parent, and siblings
  follow each other.
* `SyntaxTree.WellFormed.pairwise_preorder` — **the nodes of such a tree come in the order in which
  they start**, hence so do its comments.
* `Language.wellFormed_tree` — the tree of a scanned source is one, since a scanner closes one comment
  before it opens the next.
-/

namespace DirectiveLint

/-! ## Nested spans -/

namespace SyntaxTree

def label : SyntaxTree → SyntaxNode
  | .node label _ => label

/-- **Spans nest as the nodes do.** -/
inductive WellFormed : SyntaxTree → Prop where
  | node {label : SyntaxNode} {children : List SyntaxTree}
      (span : label.start ≤ label.stop)
      (inside : ∀ child ∈ children,
        label.start ≤ child.label.start ∧ child.label.stop ≤ label.stop)
      (apart : children.Pairwise fun a b => a.label.stop ≤ b.label.start)
      (below : ∀ child ∈ children, WellFormed child) :
      WellFormed (.node label children)

lemma wellFormed_leaf {label : SyntaxNode} (h : label.start ≤ label.stop) :
    WellFormed (.node label []) :=
  .node h (fun _ hchild => absurd hchild List.not_mem_nil) List.Pairwise.nil
    fun _ hchild => absurd hchild List.not_mem_nil

variable {tree : SyntaxTree}

/-- No node reaches out of the tree. -/
lemma WellFormed.span_of_mem_preorder (h : tree.WellFormed) : ∀ node ∈ tree.preorder,
    tree.label.start ≤ node.start ∧ node.start ≤ node.stop ∧ node.stop ≤ tree.label.stop := by
  induction h with
  | node span inside _ _ ih =>
    intro node hnode
    rw [preorder, preorderAll_eq_flatMap] at hnode
    rcases List.mem_cons.mp hnode with rfl | hnode
    · exact ⟨Nat.le_refl _, span, Nat.le_refl _⟩
    · obtain ⟨child, hchild, hnode⟩ := List.mem_flatMap.mp hnode
      obtain ⟨hstart, hspan, hstop⟩ := ih child hchild node hnode
      obtain ⟨hleft, hright⟩ := inside child hchild
      exact ⟨Nat.le_trans hleft hstart, hspan, Nat.le_trans hstop hright⟩

/-- **The nodes of a tree come in the order in which they start.** -/
lemma WellFormed.pairwise_preorder (h : tree.WellFormed) :
    tree.preorder.Pairwise fun a b => a.start ≤ b.start := by
  induction h with
  | node span inside apart below ih =>
    have hwhole := (WellFormed.node span inside apart below).span_of_mem_preorder
    rw [preorder, preorderAll_eq_flatMap] at hwhole ⊢
    rw [List.pairwise_cons, List.pairwise_flatMap]
    refine ⟨?parent, ih, apart.imp_of_mem ?siblings⟩
    case parent => exact fun node hnode => (hwhole node (List.mem_cons_of_mem _ hnode)).1
    case siblings =>
      intro a b ha hb hab x hx y hy
      obtain ⟨-, hx, hxa⟩ := (below a ha).span_of_mem_preorder x hx
      obtain ⟨hby, -⟩ := (below b hb).span_of_mem_preorder y hy
      exact Nat.le_trans (Nat.le_trans hx hxa) (Nat.le_trans hab hby)

lemma WellFormed.pairwise_comments (h : tree.WellFormed) :
    tree.comments.Pairwise fun a b => a.start ≤ b.start :=
  h.pairwise_preorder.filter _

end SyntaxTree

/-! ## Scanned sources -/

/-- Comments that lie in a source and follow each other make up a well-formed tree. -/
lemma Scanner.Spans.wellFormed_tree {Mode : Type} {scanner : Scanner Mode}
    {Whole : List UInt8 → Prop} {source : List UInt8}
    (h : Spans Whole source 0 (scanner.nodes source)) (root : String) :
    (scanner.tree root source).WellFormed := by
  refine .node (Nat.zero_le _) ?inside (List.pairwise_map.mpr h.apart) ?below
  case inside =>
    intro child hchild
    obtain ⟨node, hnode, rfl⟩ := List.mem_map.mp hchild
    obtain ⟨hlow, -, hstop⟩ := h.inside node hnode
    exact ⟨hlow, hstop⟩
  case below =>
    intro child hchild
    obtain ⟨node, hnode, rfl⟩ := List.mem_map.mp hchild
    exact SyntaxTree.wellFormed_leaf (h.inside node hnode).2.1

/-- **The spans of a scanned source nest.** -/
theorem Language.wellFormed_tree (language : Language) (source : List UInt8) :
    (language.tree source).WellFormed := by
  cases language with
  | go =>
    rw [tree_go]
    exact (Go.follows_scanner.spans_nodes source).wellFormed_tree "source_file"
  | c =>
    rw [tree_c]
    exact (C.follows_scanner.spans_nodes source).wellFormed_tree "translation_unit"

end DirectiveLint
