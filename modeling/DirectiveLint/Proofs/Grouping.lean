import DirectiveLint.Language.Scanners
import Mathlib.Data.List.NodupEquivFin
import Mathlib.Data.List.SplitBy
import Mathlib.Tactic.Lemma

/-!
# Comment groups

`SourceFile.ofTree` cuts the comments of a tree into groups.  This module says where it cuts, in
terms of the single bytes of the source.

**Places.**  `Close`, `OpensLine` and `TrailsNoCode` speak about the bytes between two comments and
about those in front of a comment on its line.  `adjoins_iff` is the grouping test in these terms.

**Cuts.**  `groups_partition_comments`: the groups are the comments of the tree in document order,
cut into pieces as long as the test allows.

**Comments behind comments.**  A comment that trails code ends its group.  The test takes every byte
for code that is not blank, also those of another comment: `same_group_iff` is the rule together
with what the test asks for beyond it, and `comment_behind_comment_ends_group` is a comment that has
no code in front of it and still ends its group.
-/

namespace DirectiveLint

/-! ## Places in a source -/

/-- Nothing but blanks stands from one offset up to another. -/
def BlankBetween (source : List UInt8) (start stop : Nat) : Prop :=
  ∀ i < stop, start ≤ i → ∀ b ∈ source[i]?, isBlankByte b = true

/-- No two line feeds stand from one offset up to another. -/
def OneLineFeedBetween (source : List UInt8) (start stop : Nat) : Prop :=
  ∀ j < stop, ∀ i < j, start ≤ i → ¬ (source[i]? = some lineFeed ∧ source[j]? = some lineFeed)

/-- An offset stands in front of another one on the same line. -/
def BeforeOnLine (source : List UInt8) (i offset : Nat) : Prop :=
  i < offset ∧ ∀ j < offset, i ≤ j → source[j]? ≠ some lineFeed

/-- Two comments have only blanks with at most one line feed between them. -/
def Close (source : List UInt8) (p c : SyntaxNode) : Prop :=
  BlankBetween source p.stop c.start ∧ OneLineFeedBetween source p.stop c.start

/-- A node has only blanks in front of it on its line. -/
def OpensLine (source : List UInt8) (node : SyntaxNode) : Prop :=
  ∀ i < node.start, BeforeOnLine source i node.start → ∀ b ∈ source[i]?, isBlankByte b = true

/-- An offset stands inside a comment. -/
def InComment (tree : SyntaxTree) (i : Nat) : Prop :=
  ∃ comment ∈ tree.comments, comment.start ≤ i ∧ i < comment.stop

/-- A node has only blanks and comments in front of it on its line. -/
def TrailsNoCode (source : List UInt8) (tree : SyntaxTree) (node : SyntaxNode) : Prop :=
  ∀ i < node.start, BeforeOnLine source i node.start → ∀ b ∈ source[i]?,
    isBlankByte b = true ∨ InComment tree i

/-! ### Slices -/

lemma getElem?_slice (source : List UInt8) (start stop k : Nat) :
    (slice source start stop)[k]? = if k < stop - start then source[start + k]? else none := by
  rw [slice, List.getElem?_take, List.getElem?_drop]

lemma mem_slice_iff {source : List UInt8} {start stop : Nat} {b : UInt8} :
    b ∈ slice source start stop ↔ ∃ i < stop, start ≤ i ∧ source[i]? = some b := by
  simp only [List.mem_iff_getElem?, getElem?_slice]
  constructor
  · rintro ⟨k, hk⟩
    split at hk
    · next hlt => exact ⟨start + k, by omega, by omega, hk⟩
    · cases hk
  · rintro ⟨i, hi, hle, hb⟩
    refine ⟨i - start, ?_⟩
    rw [if_pos (by omega), Nat.add_sub_cancel' hle, hb]

lemma all_isBlankByte_slice_iff {source : List UInt8} {start stop : Nat} :
    (slice source start stop).all isBlankByte = true ↔ BlankBetween source start stop := by
  rw [List.all_eq_true]
  constructor
  · intro h i hi hle b hb
    exact h b (mem_slice_iff.mpr ⟨i, hi, hle, hb⟩)
  · intro h b hb
    obtain ⟨i, hi, hle, hb⟩ := mem_slice_iff.mp hb
    exact h i hi hle b hb

/-- A list with two equal elements has them at two places. -/
lemma two_le_count_iff {l : List UInt8} {b : UInt8} :
    2 ≤ l.count b ↔ ∃ j : Nat, ∃ i < j, l[i]? = some b ∧ l[j]? = some b := by
  rw [← List.duplicate_iff_two_le_count, List.duplicate_iff_exists_distinct_get]
  constructor
  · rintro ⟨i, j, hij, hi, hj⟩
    exact ⟨j, i, hij, by simp [hi], by simp [hj]⟩
  · rintro ⟨j, i, hij, hi, hj⟩
    obtain ⟨hjl, rfl⟩ := List.getElem?_eq_some_iff.mp hj
    obtain ⟨hil, hil'⟩ := List.getElem?_eq_some_iff.mp hi
    exact ⟨⟨i, hil⟩, ⟨j, hjl⟩, hij, hil'.symm, rfl⟩

lemma count_slice_le_one_iff {source : List UInt8} {start stop : Nat} :
    (slice source start stop).count lineFeed ≤ 1 ↔ OneLineFeedBetween source start stop := by
  rw [← Nat.not_lt, Nat.lt_iff_add_one_le, two_le_count_iff]
  constructor
  · rintro h j hj i hij hle ⟨hi', hj'⟩
    refine h ⟨j - start, i - start, by omega, ?_, ?_⟩
    · rw [getElem?_slice, if_pos (by omega), Nat.add_sub_cancel' hle, hi']
    · rw [getElem?_slice, if_pos (by omega), Nat.add_sub_cancel' (by omega), hj']
  · rintro h ⟨j, i, hij, hi, hj⟩
    rw [getElem?_slice, ite_eq_iff] at hi hj
    obtain ⟨hjl, hj⟩ | ⟨-, hj⟩ := hj
    · obtain ⟨-, hi⟩ | ⟨-, hi⟩ := hi
      · exact h (start + j) (by omega) (start + i) (by omega) (by omega) ⟨hi, hj⟩
      · cases hi
    · cases hj

/-! ### Lines -/

/-- One byte further on its line, unless that byte is a line feed. -/
lemma lineBefore_succ (source : List UInt8) (offset : Nat) :
    lineBefore source (offset + 1) = match source[offset]? with
      | none => lineBefore source offset
      | some b => if b = lineFeed then [] else lineBefore source offset ++ [b] := by
  rw [lineBefore, List.take_add_one, lineBefore]
  cases source[offset]? with
  | none => simp
  | some b =>
    by_cases hb : b = lineFeed
    · simp [hb]
    · simp [hb]

lemma beforeOnLine_iff {source : List UInt8} {i offset : Nat} :
    BeforeOnLine source i offset ↔ i < offset ∧ lineFeed ∉ slice source i offset := by
  rw [mem_slice_iff, BeforeOnLine]
  push Not
  rfl

lemma beforeOnLine_succ_iff {source : List UInt8} {i offset : Nat} :
    BeforeOnLine source i (offset + 1) ↔
      source[offset]? ≠ some lineFeed ∧ (i = offset ∨ BeforeOnLine source i offset) := by
  constructor
  · rintro ⟨hi, hlf⟩
    refine ⟨hlf offset (by omega) (by omega), ?_⟩
    rcases Nat.lt_succ_iff_lt_or_eq.mp hi with hlt | heq
    · exact Or.inr ⟨hlt, fun j hj hij => hlf j (by omega) hij⟩
    · exact Or.inl heq
  · rintro ⟨hlast, heq | ⟨hi, hlf⟩⟩
    · refine ⟨by omega, fun j hj hij => ?_⟩
      obtain rfl : j = offset := by omega
      exact hlast
    · refine ⟨by omega, fun j hj hij => ?_⟩
      rcases Nat.lt_succ_iff_lt_or_eq.mp hj with hlt | rfl
      · exact hlf j hlt hij
      · exact hlast

/-- **The bytes in front of an offset on its line**, and no others. -/
lemma mem_lineBefore_iff {source : List UInt8} {offset : Nat} {b : UInt8} :
    b ∈ lineBefore source offset ↔ ∃ i, BeforeOnLine source i offset ∧ source[i]? = some b := by
  induction offset with
  | zero => simp [lineBefore, BeforeOnLine]
  | succ n ih =>
    rw [lineBefore_succ]
    simp only [beforeOnLine_succ_iff, and_assoc, or_and_right, exists_and_left, exists_or,
      exists_eq_left, ← ih]
    cases hn : source[n]? with
    | none => simp
    | some c =>
      by_cases hc : c = lineFeed
      · simp [hc]
      · simp [hc, or_comm, eq_comm]

lemma standsAlone_iff {source : List UInt8} {node : SyntaxNode} :
    standsAlone source node = true ↔ OpensLine source node := by
  rw [standsAlone, List.all_eq_true]
  constructor
  · intro h i _ hi b hb
    exact h b (mem_lineBefore_iff.mpr ⟨i, hi, hb⟩)
  · intro h b hb
    obtain ⟨i, hi, hb⟩ := mem_lineBefore_iff.mp hb
    exact h i hi.1 hi b hb

/-- **The grouping test**, byte by byte. -/
theorem adjoins_iff {source : List UInt8} {p c : SyntaxNode} :
    adjoins source p c = true ↔ Close source p c ∧ OpensLine source p := by
  rw [adjoins, Bool.and_eq_true, Bool.and_eq_true, all_isBlankByte_slice_iff, decide_eq_true_eq,
    count_slice_le_one_iff, standsAlone_iff, Close]

section Decidability

variable (source : List UInt8) (tree : SyntaxTree) (start stop i offset : Nat)
variable (p c node : SyntaxNode)

instance : Decidable (BlankBetween source start stop) :=
  decidable_of_iff _ all_isBlankByte_slice_iff

instance : Decidable (OneLineFeedBetween source start stop) :=
  decidable_of_iff _ count_slice_le_one_iff

instance : Decidable (Close source p c) :=
  inferInstanceAs (Decidable (_ ∧ _))

instance : Decidable (OpensLine source node) :=
  decidable_of_iff _ standsAlone_iff

instance : Decidable (BeforeOnLine source i offset) :=
  decidable_of_iff _ beforeOnLine_iff.symm

instance : Decidable (InComment tree i) :=
  List.decidableBEx _ _

instance : Decidable (TrailsNoCode source tree node) :=
  @Nat.decidableBallLT node.start _ fun _ _ =>
    @forall_prop_decidable _ _ _ fun _ => Option.decidableForallMem _

end Decidability

/-- A comment with only blanks in front of it trails no code. -/
lemma OpensLine.trailsNoCode {source : List UInt8} {node : SyntaxNode}
    (h : OpensLine source node) (tree : SyntaxTree) : TrailsNoCode source tree node := by
  intro i hi hline b hb
  exact Or.inl (h i hi hline b hb)

/-! ## Where the groups are cut -/

lemma Comment.text_ofNode (source : List UInt8) (path : String) (node : SyntaxNode) :
    (Comment.ofNode source path node).text = String.ofList
      ((Text.Utf8.decodeLossy (slice source node.start node.stop)).filter (· != '\r')) := by
  rw [Comment.ofNode, SyntaxNode.text, String.toList_ofList]

/-- **The groups are the comments of the tree, cut where the test fails.**  There are blocks of
nodes, none of them empty, that make up the comment nodes of the tree in document order; the groups
hold the comments of these nodes with their text and place.  Inside a block every two neighbours
pass the test, and from one block to the next they do not. -/
theorem groups_partition_comments (source : List UInt8) (path : String) (tree : SyntaxTree) :
    ∃ blocks : List (List SyntaxNode),
      blocks.flatten = tree.preorder.filter (fun node =>
        ["comment", "line_comment", "block_comment"].contains node.kind) ∧
      (SourceFile.ofTree source path tree).groups = blocks.map (·.map fun node =>
        { text := String.ofList
            ((Text.Utf8.decodeLossy (slice source node.start node.stop)).filter (· != '\r'))
          position := ⟨path, node.start, node.point.row + 1, node.point.column + 1⟩ }) ∧
      (∀ block ∈ blocks, block ≠ []) ∧
      (∀ block ∈ blocks, block.IsChain fun p c => Close source p c ∧ OpensLine source p) ∧
      blocks.IsChain fun before after => ∃ p ∈ before.getLast?, ∃ c ∈ after.head?,
        ¬ (Close source p c ∧ OpensLine source p) := by
  refine ⟨tree.comments.splitBy (adjoins source), List.flatten_splitBy _ _, ?_, ?_, ?_, ?_⟩
  · simp only [← Comment.text_ofNode source path]
    rfl
  · intro block hblock
    exact List.ne_nil_of_mem_splitBy hblock
  · intro block hblock
    exact (List.isChain_of_mem_splitBy hblock).imp fun p c h => adjoins_iff.mp h
  · refine (List.isChain_getLast_head_splitBy _ _).imp ?_
    rintro before after ⟨hb, ha, h⟩
    refine ⟨_, List.getLast_mem_getLast? hb, _, List.head_mem_head? ha, ?_⟩
    rw [← adjoins_iff, h]
    decide

/-! ## Which comments are of one group -/

section Blocks

variable {α β : Type}

/-- The number of the block that holds the element of this index, counted through all blocks. -/
def blockOf : List (List α) → Nat → Nat
  | [], _ => 0
  | block :: blocks, k => if k < block.length then 0 else blockOf blocks (k - block.length) + 1

lemma blockOf_cons_of_lt {block : List α} {k : Nat} (h : k < block.length)
    (blocks : List (List α)) : blockOf (block :: blocks) k = 0 := by
  rw [blockOf, if_pos h]

lemma blockOf_cons_of_le {block : List α} {k : Nat} (h : block.length ≤ k)
    (blocks : List (List α)) :
    blockOf (block :: blocks) k = blockOf blocks (k - block.length) + 1 := by
  rw [blockOf, if_neg (Nat.not_lt.mpr h)]

lemma blockOf_map (f : α → β) (blocks : List (List α)) (k : Nat) :
    blockOf (blocks.map (·.map f)) k = blockOf blocks k := by
  induction blocks generalizing k with
  | nil => rfl
  | cons block blocks ih => simp only [List.map_cons, blockOf, List.length_map, ih]

lemma getLast_eq_of_getElem? {l : List α} {k : Nat} {x : α} (h : l[k]? = some x)
    (hlast : k + 1 = l.length) (hne : l ≠ []) : l.getLast hne = x := by
  have hk : l.length - 1 = k := by omega
  rw [List.getLast_eq_getElem, List.getElem_eq_iff, hk, h]

lemma head_eq_of_getElem?_flatten {block : List α} {blocks : List (List α)} {y : α}
    (h : (block :: blocks).flatten[0]? = some y) (hne : block ≠ []) : block.head hne = y := by
  rw [List.flatten_cons, List.getElem?_append_left (List.length_pos_iff.mpr hne)] at h
  rw [List.head_eq_getElem, List.getElem_eq_iff, h]

/-- **Two elements that follow each other are of one block exactly if they are related**, in blocks
that are as long as the relation allows. -/
lemma blockOf_eq_blockOf_succ_iff {r : α → α → Bool} {blocks : List (List α)}
    (hin : ∀ block ∈ blocks, block.IsChain fun x y => r x y = true)
    (hout : blocks.IsChain fun a b => ∃ ha hb, r (a.getLast ha) (b.head hb) = false)
    {k : Nat} {x y : α} (hx : blocks.flatten[k]? = some x) (hy : blocks.flatten[k + 1]? = some y) :
    blockOf blocks k = blockOf blocks (k + 1) ↔ r x y = true := by
  induction blocks generalizing k with
  | nil => cases hx
  | cons block blocks ih =>
    rw [List.flatten_cons] at hx hy
    rcases Nat.lt_trichotomy (k + 1) block.length with hlt | heq | hgt
    · -- both in the first block
      rw [List.getElem?_append_left (by omega)] at hx hy
      obtain ⟨_, rfl⟩ := List.getElem?_eq_some_iff.mp hx
      obtain ⟨_, rfl⟩ := List.getElem?_eq_some_iff.mp hy
      have hrel := List.isChain_iff_getElem.mp (hin block List.mem_cons_self) k hlt
      simp only [blockOf_cons_of_lt (Nat.lt_of_succ_lt hlt), blockOf_cons_of_lt hlt, hrel]
    · -- the first block ends between them
      rw [List.getElem?_append_left (by omega)] at hx
      rw [List.getElem?_append_right (by omega), heq, Nat.sub_self] at hy
      cases blocks with
      | nil => cases hy
      | cons next blocks =>
        obtain ⟨ha, hb, hrel⟩ := (List.isChain_cons_cons.mp hout).1
        rw [getLast_eq_of_getElem? hx heq ha, head_eq_of_getElem?_flatten hy hb] at hrel
        rw [blockOf_cons_of_lt (by omega), blockOf_cons_of_le (by omega), hrel]
        simp only [Nat.zero_ne_add_one, Bool.false_eq_true]
    · -- both behind the first block
      rw [List.getElem?_append_right (by omega)] at hx hy
      rw [Nat.sub_add_comm (by omega)] at hy
      have hrest := ih (fun b hb => hin b (List.mem_cons_of_mem _ hb)) hout.tail hx hy
      rw [blockOf_cons_of_le (by omega), blockOf_cons_of_le (by omega), Nat.add_right_cancel_iff,
        Nat.sub_add_comm (by omega), hrest]

end Blocks

/-- **The rule, and what the test asks for beyond it.**  Two comments that follow each other are of
one group exactly if they are close, the first of them trails no code, and not even a comment stands
in front of it on its line. -/
theorem same_group_iff {source : List UInt8} {path : String} {tree : SyntaxTree} {k : Nat}
    {p c : SyntaxNode} (hp : tree.comments[k]? = some p) (hc : tree.comments[k + 1]? = some c) :
    blockOf (SourceFile.ofTree source path tree).groups k =
        blockOf (SourceFile.ofTree source path tree).groups (k + 1) ↔
      (Close source p c ∧ TrailsNoCode source tree p) ∧ OpensLine source p := by
  have hflat : (tree.comments.splitBy (adjoins source)).flatten = tree.comments :=
    List.flatten_splitBy _ _
  rw [SourceFile.ofTree, blockOf_map, blockOf_map, blockOf_eq_blockOf_succ_iff
    (fun _ => List.isChain_of_mem_splitBy)
    (List.isChain_getLast_head_splitBy _ _) (hflat ▸ hp) (hflat ▸ hc), adjoins_iff]
  constructor
  · rintro ⟨hclose, hopens⟩
    exact ⟨⟨hclose, hopens.trailsNoCode tree⟩, hopens⟩
  · rintro ⟨⟨hclose, -⟩, hopens⟩
    exact ⟨hclose, hopens⟩

/-- Three comments on two lines of a Go source, with no code at all. -/
def stacked : List UInt8 :=
  "/* a */ // b\n// c".toList.map Char.toUInt8

/-- The first two of them are of one group. -/
theorem stacked_same_group :
    (Language.go.tree stacked).comments[0]? = some ⟨"comment", 0, 7, ⟨0, 0⟩⟩ ∧
      (Language.go.tree stacked).comments[1]? = some ⟨"comment", 8, 12, ⟨0, 8⟩⟩ ∧
      blockOf (SourceFile.ofTree stacked "a.go" (Language.go.tree stacked)).groups 0 =
        blockOf (SourceFile.ofTree stacked "a.go" (Language.go.tree stacked)).groups 1 := by
  have hfirst : (Language.go.tree stacked).comments[0]? = some ⟨"comment", 0, 7, ⟨0, 0⟩⟩ := by
    decide +kernel
  have hsecond : (Language.go.tree stacked).comments[1]? = some ⟨"comment", 8, 12, ⟨0, 8⟩⟩ := by
    decide +kernel
  exact ⟨hfirst, hsecond, (same_group_iff hfirst hsecond).mpr (by decide +kernel)⟩

/-- **A comment behind a comment ends its group**, although it trails no code.  The spans of the
three comments follow each other, and the second and the third of them are close. -/
theorem comment_behind_comment_ends_group :
    (Language.go.tree stacked).comments =
        [⟨"comment", 0, 7, ⟨0, 0⟩⟩, ⟨"comment", 8, 12, ⟨0, 8⟩⟩, ⟨"comment", 13, 17, ⟨1, 0⟩⟩] ∧
      Close stacked ⟨"comment", 8, 12, ⟨0, 8⟩⟩ ⟨"comment", 13, 17, ⟨1, 0⟩⟩ ∧
      TrailsNoCode stacked (Language.go.tree stacked) ⟨"comment", 8, 12, ⟨0, 8⟩⟩ ∧
      blockOf (SourceFile.ofTree stacked "a.go" (Language.go.tree stacked)).groups 1 ≠
        blockOf (SourceFile.ofTree stacked "a.go" (Language.go.tree stacked)).groups 2 := by
  decide +kernel

end DirectiveLint
