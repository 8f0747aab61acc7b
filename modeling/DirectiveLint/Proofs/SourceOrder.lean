import DirectiveLint.Linter.Session
import DirectiveLint.Proofs.Agreement
import DirectiveLint.Proofs.TreeOrder
import Mathlib.Data.List.Forall2

/-!
# The order of issues

Issues are found comment by comment and rule by rule.  The first keeps to the source, the second
need not.

**One rule.**  The comments of a well-formed tree come in the order in which they start, grouping
keeps it, and the rule about directives reviews one comment after the other: its issues come in
source order (`issues_in_source_order`).  Scanned sources have such trees, hence
`Linter.analyzeSource_inSourceOrder`.

**Several rules.**  The issues of a linter are those of its rules, one rule after the other.  So
they are in source order exactly if no rule finds anything in front of what an earlier rule found
(`analysis_in_source_order_iff`).  Two rules that each find something in two places break the order
already (`rule_registered_twice_goes_back`).
-/

namespace DirectiveLint

/-- **Positions in source order**: their offsets never fall. -/
def InSourceOrder (positions : List Position) : Prop :=
  positions.Pairwise fun p q => p.offset ≤ q.offset

instance (positions : List Position) : Decidable (InSourceOrder positions) :=
  inferInstanceAs (Decidable (List.Pairwise _ _))

lemma inSourceOrder_map_iff {α : Type} {place : α → Position} {found : List α} :
    InSourceOrder (found.map place) ↔
      found.Pairwise fun a b => (place a).offset ≤ (place b).offset :=
  List.pairwise_map

/-- Issues that are found piece by piece are in source order if each piece is, and no piece goes
back behind an earlier one. -/
lemma inSourceOrder_flatMap_iff {α : Type} {pieces : List α} {find : α → List Issue} :
    InSourceOrder ((pieces.flatMap find).map (·.position)) ↔
      (∀ piece ∈ pieces, InSourceOrder ((find piece).map (·.position))) ∧
        pieces.Pairwise fun earlier later => ∀ a ∈ find earlier, ∀ b ∈ find later,
          a.position.offset ≤ b.position.offset := by
  simp only [inSourceOrder_map_iff, List.pairwise_flatMap]

/-! ## One rule -/

variable {config : RuleConfig} {comments : List Comment}

/-- The issues of two comments follow each other as the comments do. -/
lemma offset_le_of_mem_review {earlier later : Comment}
    (h : earlier.position.offset ≤ later.position.offset) : ∀ a ∈ review config earlier,
      ∀ b ∈ review config later, a.position.offset ≤ b.position.offset := by
  intro a ha b hb
  rwa [(full_of_mem_review ha).2, (full_of_mem_review hb).2]

/-- Comments in source order have their issues in source order. -/
lemma inSourceOrder_flatMap_review (h : InSourceOrder (comments.map (·.position))) :
    InSourceOrder ((comments.flatMap (review config)).map (·.position)) := by
  rw [inSourceOrder_flatMap_iff]
  refine ⟨fun comment _ => ?_, (inSourceOrder_map_iff.mp h).imp offset_le_of_mem_review⟩
  rw [inSourceOrder_map_iff]
  exact List.pairwise_of_forall_mem_list (offset_le_of_mem_review (Int.le_refl _))

/-- Every comment has its issues in one block, and the blocks follow each other as the comments
do. -/
lemma exists_blocks_flatMap_review (config : RuleConfig) (comments : List Comment) :
    ∃ blocks : List (List Issue), blocks.flatten = comments.flatMap (review config) ∧
      List.Forall₂ (fun comment block => block = review config comment ∧
        ∀ issue ∈ block, issue.isAbout comment = true) comments blocks := by
  refine ⟨comments.map (review config), List.flatMap_def.symm, ?_⟩
  rw [List.forall₂_map_right_iff, List.forall₂_same]
  exact fun comment _ => ⟨rfl, fun issue hissue => isAbout_of_mem_review hissue⟩

namespace SyntaxTree

variable {tree : SyntaxTree}

/-- **The comments of a well-formed tree are in source order.** -/
lemma WellFormed.comments_inSourceOrder (h : tree.WellFormed) (source : List UInt8)
    (path : String) :
    InSourceOrder ((SourceFile.ofTree source path tree).comments.map (·.position)) := by
  rw [SourceFile.comments_ofTree, List.map_map, inSourceOrder_map_iff]
  exact h.pairwise_comments.imp Int.ofNat_le.mpr

/-- Hence so are its issues. -/
lemma WellFormed.analyze_inSourceOrder (h : tree.WellFormed) (source : List UInt8)
    (path : String) (config : RuleConfig) :
    InSourceOrder (((Linter.ofConfig config).analyze
      (SourceFile.ofTree source path tree)).map (·.position)) := by
  rw [Linter.analyze_ofConfig]
  exact inSourceOrder_flatMap_review (h.comments_inSourceOrder source path)

end SyntaxTree

/-- **From the tree to the issues.**  In a well-formed tree the comments have offsets that never
fall, neither inside a group nor from one group to the next, and so have the issues of the rule about
directives; the issues of a comment are one block among them. -/
theorem issues_in_source_order [Grammars] {tree : SyntaxTree} (h : tree.WellFormed)
    (source : List UInt8) (path : String) (config : RuleConfig) :
    let file := SourceFile.ofTree source path tree
    let issues := (Linter.ofConfig config).analyze file
    (∀ group ∈ file.groups, InSourceOrder (group.map (·.position))) ∧
      (file.groups.Pairwise fun earlier later => ∀ a ∈ earlier, ∀ b ∈ later,
        a.position.offset ≤ b.position.offset) ∧
      InSourceOrder (issues.map (·.position)) ∧
      (∃ blocks : List (List Issue), blocks.flatten = issues ∧
        List.Forall₂ (fun comment block => block = review config comment ∧
          ∀ issue ∈ block, issue.isAbout comment = true) file.comments blocks) ∧
      ∀ language : Language, tree = language.tree source →
        (Linter.ofConfig config).analyzeSource language.name path source = .ok issues := by
  dsimp only
  have hcomments := h.comments_inSourceOrder source path
  rw [inSourceOrder_map_iff, SourceFile.comments, List.pairwise_flatten] at hcomments
  refine ⟨?groups, hcomments.2, h.analyze_inSourceOrder source path config, ?blocks, ?scanned⟩
  case groups =>
    intro group hgroup
    exact inSourceOrder_map_iff.mpr (hcomments.1 group hgroup)
  case blocks =>
    rw [Linter.analyze_ofConfig]
    exact exists_blocks_flatMap_review config _
  case scanned =>
    rintro language rfl
    exact Linter.analyzeSource_name _ language path source

/-- A Go source with a directive in front of a function and another one in it. -/
def nested : List UInt8 :=
  "//nolint\nfunc f() \x7b\n\tg() //  nolint:a\n\x7d\n".toList.map Char.toUInt8

/-- Its tree, with the body of the function as a node of its own. -/
def nestedTree : SyntaxTree :=
  .node ⟨"source_file", 0, 40, ⟨0, 0⟩⟩
    [.node ⟨"comment", 0, 8, ⟨0, 0⟩⟩ [],
      .node ⟨"block", 18, 39, ⟨1, 9⟩⟩ [.node ⟨"comment", 25, 37, ⟨2, 5⟩⟩ []]]

lemma nestedTree_wellFormed : nestedTree.WellFormed := by
  refine .node (by decide) (by decide) (by decide) ?_
  simp only [List.forall_mem_cons, List.not_mem_nil, false_imp_iff, implies_true, and_true]
  refine ⟨SyntaxTree.wellFormed_leaf (by decide), .node (by decide) (by decide) (by decide) ?_⟩
  exact List.forall_mem_singleton.mpr (SyntaxTree.wellFormed_leaf (by decide))

/-- Two findings about the first directive, then three about the one in the function. -/
theorem nested_in_source_order :
    let issues := (Linter.ofConfig {}).analyze (SourceFile.ofTree nested "f.go" nestedTree)
    nestedTree.WellFormed ∧ InSourceOrder (issues.map (·.position)) ∧
      issues.map (·.position.offset) = [0, 0, 25, 25, 25] := by
  have h := issues_in_source_order nestedTree_wellFormed nested "f.go" {}
  exact ⟨nestedTree_wellFormed, h.2.2.1, by decide +kernel⟩

/-- **In a scanned source the issues of the rule about directives are in source order.** -/
theorem Linter.analyzeSource_inSourceOrder (config : RuleConfig) (language : Language)
    (path : String) (source : List UInt8) :
    ∃ issues, (ofConfig config).analyzeSource language.name path source = .ok issues ∧
      InSourceOrder (issues.map (·.position)) :=
  ⟨_, analyzeSource_name _ language path source,
    (language.wellFormed_tree source).analyze_inSourceOrder source path config⟩

/-! ## Several rules -/

namespace Linter

/-- The rule that a request adds. -/
def Request.registered? : Request → Option Rule
  | .register added => some added
  | _ => none

lemma rules_after (linter : Linter) (request : Request) :
    (linter.after request).rules = linter.rules ++ request.registered?.toList := by
  cases request with
  | register rule => rfl
  | _ => exact (List.append_nil _).symm

/-- **The rules of a linter are those it started with and those it was given**, in this order. -/
lemma rules_afterAll (linter : Linter) (requests : List Request) :
    (linter.afterAll requests).rules =
      linter.rules ++ requests.filterMap Request.registered? := by
  induction requests generalizing linter with
  | nil => exact (List.append_nil _).symm
  | cons request requests ih =>
    rw [afterAll, List.foldl_cons, ← afterAll, ih, rules_after, List.append_assoc]
    cases h : request.registered? with
    | none => rw [List.filterMap_cons_none h]; rfl
    | some rule => rw [List.filterMap_cons_some h]; rfl

end Linter

/-- **Several rules find their issues in source order exactly if none goes back.**  However the
linter has come about, its issues are those of the rule about directives and then those of every rule
that it was given.  If the comments of the file follow each other, and each given rule finds its own
issues in source order, then all of them are in source order exactly if no rule finds anything in
front of what an earlier rule found. -/
theorem analysis_in_source_order_iff {config : RuleConfig} {requests : List Linter.Request}
    {file : SourceFile}
    (hcomments : file.comments.Pairwise fun a b => a.position.offset < b.position.offset)
    (hrules : ∀ rule ∈ requests.filterMap Linter.Request.registered?,
      InSourceOrder ((rule.check file).map (·.position))) :
    let linter := (Linter.ofConfig config).afterAll requests
    linter.analyze file = file.comments.flatMap (review config) ++
        (requests.filterMap Linter.Request.registered?).flatMap (fun rule => rule.check file) ∧
      (InSourceOrder ((linter.analyze file).map (·.position)) ↔
        linter.rules.Pairwise fun earlier later => ∀ a ∈ earlier.check file,
          ∀ b ∈ later.check file, a.position.offset ≤ b.position.offset) := by
  dsimp only
  have hdirective : InSourceOrder (((Rule.directive config).check file).map (·.position)) :=
    inSourceOrder_flatMap_review (inSourceOrder_map_iff.mpr (hcomments.imp Int.le_of_lt))
  have hlinter : ((Linter.ofConfig config).afterAll requests).rules =
      Rule.directive config :: requests.filterMap Linter.Request.registered? :=
    Linter.rules_afterAll _ requests
  rw [Linter.analyze, hlinter]
  refine ⟨List.flatMap_cons, ?_⟩
  rw [inSourceOrder_flatMap_iff]
  exact and_iff_right (List.forall_mem_cons.mpr ⟨hdirective, hrules⟩)

/-- A file with two directives that do not explain themselves. -/
def twoDirectives : SourceFile where
  path := "a.go"
  groups := [[⟨"//nolint:a", ⟨"a.go", 0, 1, 1⟩⟩, ⟨"//nolint:b", ⟨"a.go", 11, 2, 1⟩⟩]]

/-- A rule that reports the last comment alone does not go back. -/
theorem rule_about_last_in_source_order :
    let requests := [Linter.Request.register (Rule.forbidding "b" "//nolint:b")]
    let linter := (Linter.ofConfig {}).afterAll requests
    twoDirectives.comments.Pairwise (fun a b => a.position.offset < b.position.offset) ∧
      (∀ rule ∈ requests.filterMap Linter.Request.registered?,
        InSourceOrder ((rule.check twoDirectives).map (·.position))) ∧
      (linter.analyze twoDirectives).map (·.position.offset) = [0, 11, 11] ∧
      InSourceOrder ((linter.analyze twoDirectives).map (·.position)) := by
  have hcomments : twoDirectives.comments.Pairwise
      fun a b => a.position.offset < b.position.offset := by decide
  have hrules : ∀ rule ∈ [Linter.Request.register (Rule.forbidding "b" "//nolint:b")].filterMap
      Linter.Request.registered?, InSourceOrder ((rule.check twoDirectives).map (·.position)) :=
    List.forall_mem_singleton.mpr (by decide)
  refine ⟨hcomments, hrules, by decide +kernel, ?_⟩
  refine (@analysis_in_source_order_iff {} _ _ hcomments hrules).2.mpr ?_
  decide +kernel

/-- **Two rules that each find something in two places break the order**: each of them finds its
issues in source order, and the second one starts over. -/
theorem rule_registered_twice_goes_back :
    let linter := (Linter.ofConfig {}).afterAll [.register (Rule.directive {})]
    twoDirectives.comments.Pairwise (fun a b => a.position.offset < b.position.offset) ∧
      (∀ rule ∈ linter.rules, InSourceOrder ((rule.check twoDirectives).map (·.position))) ∧
      (linter.analyze twoDirectives).map (·.position.offset) = [0, 11, 0, 11] ∧
      ¬ InSourceOrder ((linter.analyze twoDirectives).map (·.position)) := by
  dsimp only
  refine ⟨by decide, ?_, by decide +kernel, by decide +kernel⟩
  decide +kernel

end DirectiveLint
