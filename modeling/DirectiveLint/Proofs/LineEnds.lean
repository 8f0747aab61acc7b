import DirectiveLint.Language.Scanners
import DirectiveLint.Linter
import DirectiveLint.Proofs.Decoding
import Mathlib.Data.List.Forall2
import Mathlib.Data.List.Induction
import Mathlib.Data.List.SplitBy
import Mathlib.Tactic.Lemma

/-!
# Line ends

The lines of a source may end with a line feed alone, or with a carriage return in front of it.
`withReturns` goes from the first form to the second, and `movedOffset` says where an offset comes
to stand.  This module follows a source on that way, in three steps.

**Reading.**  A carriage return in front of a line feed, or at the end, changes nothing of what is
read but itself, even in the middle of a broken character: `legible_withReturns` and
`legible_append_carriageReturn`.

**Spans.**  `slice_withReturns`: a span that moves with its ends covers what it covered.  Blanks stay
blanks, line feeds are as many as before, and nothing comes into the line in front of a comment.

**Trees.**  `StandsFor` is what a parser has to keep of a comment.  Nothing is assumed about the kind
of comment that takes a carriage return with it, nor about carriage returns that the source has
already.  `line_ends_do_not_matter` is the statement as a whole.
-/

namespace DirectiveLint

/-- The byte that stands in front of a line feed in files with two-byte line ends. -/
def carriageReturn : UInt8 := 0x0D

/-- A source with a carriage return in front of every line feed. -/
def withReturns (source : List UInt8) : List UInt8 :=
  source.flatMap fun b => if b = lineFeed then [carriageReturn, lineFeed] else [b]

/-- Where an offset comes to stand: one byte further for every line feed in front of it. -/
def movedOffset (source : List UInt8) (offset : Nat) : Nat :=
  offset + (source.take offset).count lineFeed

lemma withReturns_append (xs ys : List UInt8) :
    withReturns (xs ++ ys) = withReturns xs ++ withReturns ys :=
  List.flatMap_append

lemma withReturns_cons_lineFeed (rest : List UInt8) :
    withReturns (lineFeed :: rest) = carriageReturn :: lineFeed :: withReturns rest := rfl

lemma withReturns_cons_of_ne {b : UInt8} (hb : b ≠ lineFeed) (rest : List UInt8) :
    withReturns (b :: rest) = b :: withReturns rest := by
  rw [withReturns, List.flatMap_cons, if_neg hb]
  rfl

lemma length_withReturns (source : List UInt8) :
    (withReturns source).length = source.length + source.count lineFeed := by
  induction source with
  | nil => rfl
  | cons b rest ih =>
    by_cases hb : b = lineFeed
    · subst hb
      rw [withReturns_cons_lineFeed, List.length_cons, List.length_cons, ih, List.length_cons,
        List.count_cons_self]
      omega
    · rw [withReturns_cons_of_ne hb, List.length_cons, ih, List.length_cons,
        List.count_cons_of_ne hb]
      omega

/-! ## Decoding -/

namespace Text.Utf8

/-- What can be read of an input, carriage returns left out. -/
def legible (state : State) (bytes : List UInt8) : List Char :=
  ((read state bytes).map (·.getD '\ufffd')).filter (· != '\r')

lemma legible_cons (state : State) (b : UInt8) (bytes : List UInt8) :
    legible state (b :: bytes) =
      (((step state b).2.map (·.getD '\ufffd')).filter (· != '\r')) ++
        legible (step state b).1 bytes := by
  simp only [legible, read, List.map_append, List.filter_append]

/-- An ASCII character ends what stands unfinished in front of it, as the end of the input does. -/
lemma legible_ascii_cons {state : State} (hstate : state.AboveAscii) {b : UInt8} (hb : b < 0x80)
    (bytes : List UInt8) :
    legible state (b :: bytes) = legible state [] ++
      ([Char.ofNat b.toNat].filter (· != '\r') ++ legible .boundary bytes) := by
  rw [legible_cons, step_of_ascii hstate hb, List.map_append, List.filter_append, List.append_assoc]
  rfl

lemma legible_carriageReturn_cons {state : State} (hstate : state.AboveAscii)
    (bytes : List UInt8) :
    legible state (carriageReturn :: bytes) = legible state [] ++ legible .boundary bytes :=
  legible_ascii_cons hstate (by decide) bytes

lemma legible_lineFeed_cons {state : State} (hstate : state.AboveAscii) (bytes : List UInt8) :
    legible state (lineFeed :: bytes) = legible state [] ++ '\n' :: legible .boundary bytes :=
  legible_ascii_cons hstate (by decide) bytes

/-- **Carriage returns in front of line feeds are not seen.** -/
lemma legible_withReturns {state : State} (hstate : state.AboveAscii) (bytes : List UInt8) :
    legible state (withReturns bytes) = legible state bytes := by
  induction bytes generalizing state with
  | nil => rfl
  | cons b bytes ih =>
    by_cases hb : b = lineFeed
    · subst hb
      rw [withReturns_cons_lineFeed, legible_carriageReturn_cons hstate,
        legible_lineFeed_cons hstate, legible_lineFeed_cons aboveAscii_boundary,
        ih aboveAscii_boundary]
      rfl
    · rw [withReturns_cons_of_ne hb, legible_cons, legible_cons, ih (aboveAscii_step state b)]

/-- **Neither is one at the end.** -/
lemma legible_append_carriageReturn {state : State} (hstate : state.AboveAscii)
    (bytes : List UInt8) :
    legible state (bytes ++ [carriageReturn]) = legible state bytes := by
  induction bytes generalizing state with
  | nil => exact (legible_carriageReturn_cons hstate []).trans (List.append_nil _)
  | cons b bytes ih =>
    rw [List.cons_append, legible_cons, legible_cons, ih (aboveAscii_step state b)]

end Text.Utf8

/-! ## Where things come to stand -/

/-- The cut at an offset falls where the offset comes to stand. -/
lemma withReturns_cut (source : List UInt8) (offset : Nat) :
    (withReturns source).take (movedOffset source offset) = withReturns (source.take offset) ∧
      (withReturns source).drop (movedOffset source offset) = withReturns (source.drop offset) := by
  have hcut : withReturns source
      = withReturns (source.take offset) ++ withReturns (source.drop offset) := by
    rw [← withReturns_append, List.take_append_drop]
  rcases Nat.le_total offset source.length with hle | hge
  · have hlen : (withReturns (source.take offset)).length = movedOffset source offset := by
      rw [length_withReturns, List.length_take_of_le hle, movedOffset]
    rw [hcut]
    exact ⟨List.take_left' hlen, List.drop_left' hlen⟩
  · have hlen : (withReturns source).length ≤ movedOffset source offset := by
      rw [length_withReturns, movedOffset, List.take_of_length_le hge]
      omega
    rw [List.take_of_length_le hlen, List.drop_of_length_le hlen, List.take_of_length_le hge,
      List.drop_of_length_le hge]
    exact ⟨rfl, rfl⟩

lemma movedOffset_le {source : List UInt8} {i j : Nat} (h : i ≤ j) :
    movedOffset source i ≤ movedOffset source j :=
  Nat.add_le_add h ((List.take_sublist_take_left h).count_le lineFeed)

/-- Behind a line feed everything has moved by one byte more. -/
lemma movedOffset_add_two_le {source : List UInt8} {i j : Nat} (h : source[i]? = some lineFeed)
    (hij : i < j) : movedOffset source i + 2 ≤ movedOffset source j := by
  have hsucc : movedOffset source (i + 1) = movedOffset source i + 2 := by
    rw [movedOffset, movedOffset, List.take_add_one, h, List.count_append]
    simp
    omega
  rw [← hsucc]
  exact movedOffset_le hij

/-! ### Spans -/

lemma slice_cons {source : List UInt8} {start stop : Nat} {b : UInt8} (hlt : start < stop)
    (h : source[start]? = some b) :
    slice source start stop = b :: slice source (start + 1) stop := by
  obtain ⟨hstart, rfl⟩ := List.getElem?_eq_some_iff.mp h
  have hlen : stop - start = stop - (start + 1) + 1 := by omega
  rw [slice, List.drop_eq_getElem_cons hstart, hlen, List.take_succ_cons, slice]

/-- **A span covers what it covered**, with the carriage returns that belong to it. -/
lemma slice_withReturns (source : List UInt8) (start stop : Nat) :
    slice (withReturns source) (movedOffset source start) (movedOffset source stop) =
      withReturns (slice source start stop) := by
  rcases Nat.le_total start stop with hle | hge
  · have hmoved : movedOffset (source.take stop) start = movedOffset source start := by
      rw [movedOffset, List.take_take, Nat.min_eq_left hle, movedOffset]
    rw [slice_eq_drop_take, (withReturns_cut source stop).1, slice_eq_drop_take, ← hmoved,
      (withReturns_cut (source.take stop) start).2]
  · rw [slice_eq_nil_of_le hge, slice_eq_nil_of_le (movedOffset_le hge)]
    rfl

lemma getElem?_movedOffset {source : List UInt8} {i : Nat} (h : source[i]? = some lineFeed) :
    (withReturns source)[movedOffset source i]? = some carriageReturn := by
  obtain ⟨hi, hb⟩ := List.getElem?_eq_some_iff.mp h
  have hdrop := (withReturns_cut source i).2
  rw [List.drop_eq_getElem_cons hi, hb, withReturns_cons_lineFeed] at hdrop
  rw [← Nat.add_zero (movedOffset source i), ← List.getElem?_drop, hdrop]
  rfl

/-- A span that ends in front of a line feed may cover the carriage return there as well. -/
lemma slice_withReturns_succ {source : List UInt8} {start stop : Nat} (hle : start ≤ stop)
    (h : source[stop]? = some lineFeed) :
    slice (withReturns source) (movedOffset source start) (movedOffset source stop + 1) =
      withReturns (slice source start stop) ++ [carriageReturn] := by
  have hlen : movedOffset source start ≤
      ((withReturns source).take (movedOffset source stop)).length := by
    rw [(withReturns_cut source stop).1, length_withReturns]
    have hstop := (List.getElem?_eq_some_iff.mp h).1
    rw [List.length_take_of_le (Nat.le_of_lt hstop)]
    exact movedOffset_le hle
  rw [slice_eq_drop_take, List.take_add_one, getElem?_movedOffset h,
    List.drop_append_of_le_length hlen, ← slice_eq_drop_take, slice_withReturns]
  rfl

/-! ## The grouping test -/

lemma filter_withReturns (bytes : List UInt8) :
    (withReturns bytes).filter (· != carriageReturn) = bytes.filter (· != carriageReturn) := by
  induction bytes with
  | nil => rfl
  | cons b bytes ih =>
    by_cases hb : b = lineFeed
    · subst hb
      rw [withReturns_cons_lineFeed, List.filter_cons_of_neg (by decide),
        List.filter_cons_of_pos (by decide), ih, List.filter_cons_of_pos (by decide)]
    · rw [withReturns_cons_of_ne hb, List.filter_cons, ih, List.filter_cons]

/-- Carriage returns are blanks, so it does not matter how many there are. -/
lemma all_isBlankByte_filter (bytes : List UInt8) :
    (bytes.filter (· != carriageReturn)).all isBlankByte = bytes.all isBlankByte := by
  rw [List.all_filter]
  congr 1
  funext b
  by_cases hb : b = carriageReturn
  · subst hb
    rfl
  · simp [hb]

lemma all_isBlankByte_withReturns (bytes : List UInt8) :
    (withReturns bytes).all isBlankByte = bytes.all isBlankByte := by
  rw [← all_isBlankByte_filter, filter_withReturns, all_isBlankByte_filter]

lemma count_lineFeed_filter (bytes : List UInt8) :
    (bytes.filter (· != carriageReturn)).count lineFeed = bytes.count lineFeed :=
  List.count_filter (by decide)

lemma count_withReturns (bytes : List UInt8) :
    (withReturns bytes).count lineFeed = bytes.count lineFeed := by
  rw [← count_lineFeed_filter, filter_withReturns, count_lineFeed_filter]

/-- No carriage return has come into the part of a line in front of an offset. -/
lemma lineBefore_withReturns (source : List UInt8) (offset : Nat) :
    lineBefore (withReturns source) (movedOffset source offset) = lineBefore source offset := by
  rw [lineBefore, (withReturns_cut source offset).1, lineBefore]
  congr 1
  induction source.take offset using List.reverseRecOn with
  | nil => rfl
  | append_singleton bytes b ih =>
    by_cases hb : b = lineFeed
    · have hlast : withReturns (bytes ++ [b]) = withReturns bytes ++ [carriageReturn, b] := by
        rw [withReturns_append, hb]
        rfl
      rw [hlast, hb]
      simp
    · have hlast : withReturns (bytes ++ [b]) = withReturns bytes ++ [b] := by
        rw [withReturns_append, withReturns_cons_of_ne hb]
        rfl
      simp [hlast, hb, ih]

/-! ## Nodes that stand for each other -/

/-- **A node of the source with returns stands for a node of the source.**  It begins where the
start of the other one has come to stand, at the same row and column, and covers the same bytes, or
a carriage return more in front of a line feed. -/
structure StandsFor (source : List UInt8) (node node' : SyntaxNode) : Prop where
  point : node'.point = node.point
  start : node'.start = movedOffset source node.start
  stop : node'.stop = movedOffset source node.stop ∨
    (source[node.stop]? = some lineFeed ∧ node'.stop = movedOffset source node.stop + 1)

instance (source : List UInt8) (node node' : SyntaxNode) : Decidable (StandsFor source node node') :=
  decidable_of_iff
    (node'.point = node.point ∧ node'.start = movedOffset source node.start ∧
      (node'.stop = movedOffset source node.stop ∨
        (source[node.stop]? = some lineFeed ∧ node'.stop = movedOffset source node.stop + 1)))
    ⟨fun ⟨hpoint, hstart, hstop⟩ => ⟨hpoint, hstart, hstop⟩,
      fun ⟨hpoint, hstart, hstop⟩ => ⟨hpoint, hstart, hstop⟩⟩

/-- A position whose offset has moved. -/
def Position.moved (source : List UInt8) (position : Position) : Position :=
  { position with
    offset := position.offset + ((source.take position.offset.toNat).count lineFeed : Nat) }

def Comment.moved (source : List UInt8) (comment : Comment) : Comment :=
  { comment with position := comment.position.moved source }

variable {source : List UInt8} {node node' p p' c c' : SyntaxNode}

open Text.Utf8 in
lemma StandsFor.decodeLossy_slice (h : StandsFor source node node') :
    (decodeLossy (slice (withReturns source) node'.start node'.stop)).filter (· != '\r') =
      (decodeLossy (slice source node.start node.stop)).filter (· != '\r') := by
  show legible .boundary _ = legible .boundary _
  rcases h.stop with hstop | ⟨hlf, hstop⟩
  · rw [h.start, hstop, slice_withReturns, legible_withReturns aboveAscii_boundary]
  · rcases Nat.lt_or_ge node.stop node.start with hlt | hle
    · -- a span that runs backwards is empty, and one byte more does not change that
      have hmoved := movedOffset_add_two_le hlf hlt
      rw [h.start, hstop, slice_eq_nil_of_le (Nat.le_of_lt hlt), slice_eq_nil_of_le (by omega)]
    · rw [h.start, hstop, slice_withReturns_succ hle hlf,
        legible_append_carriageReturn aboveAscii_boundary, legible_withReturns aboveAscii_boundary]

/-- **The comment is the same**, but for its offset. -/
lemma StandsFor.ofNode_eq (h : StandsFor source node node') (path : String) :
    Comment.ofNode (withReturns source) path node' =
      (Comment.ofNode source path node).moved source := by
  have htext : (Comment.ofNode (withReturns source) path node').text
      = (Comment.ofNode source path node).text := by
    simp only [Comment.ofNode, SyntaxNode.text, String.toList_ofList, h.decodeLossy_slice]
  have hoffset : (node'.start : Int)
      = node.start + ((source.take (node.start : Int).toNat).count lineFeed : Nat) := by
    rw [h.start, movedOffset, Int.toNat_natCast]
    push_cast
    rfl
  have hposition : (Comment.ofNode (withReturns source) path node').position
      = (Comment.ofNode source path node).position.moved source := by
    simp only [Comment.ofNode, Position.moved, h.point, hoffset]
  rw [Comment.moved, ← htext, ← hposition]

lemma StandsFor.standsAlone_eq (h : StandsFor source node node') :
    standsAlone (withReturns source) node' = standsAlone source node := by
  rw [standsAlone, h.start, lineBefore_withReturns, standsAlone]

/-- **The gap between two comments stays blank, or stays what it was.** -/
lemma StandsFor.gap (hp : StandsFor source p p') (hc : StandsFor source c c') :
    (slice (withReturns source) p'.stop c'.start).all isBlankByte =
        (slice source p.stop c.start).all isBlankByte ∧
      (slice (withReturns source) p'.stop c'.start).count lineFeed =
        (slice source p.stop c.start).count lineFeed := by
  rw [← all_isBlankByte_withReturns (slice source p.stop c.start),
    ← count_withReturns (slice source p.stop c.start)]
  rcases hp.stop with hstop | ⟨hlf, hstop⟩
  · rw [hstop, hc.start, slice_withReturns]
    exact ⟨rfl, rfl⟩
  · rw [hstop, hc.start]
    rcases Nat.lt_or_ge p.stop c.start with hlt | hge
    · -- the comment has taken the first carriage return of the gap, which is blank
      have hmoved := movedOffset_add_two_le hlf hlt
      rw [← slice_withReturns, slice_cons (by omega) (getElem?_movedOffset hlf), List.all_cons,
        List.count_cons_of_ne (by decide)]
      exact ⟨rfl, rfl⟩
    · have hmoved : movedOffset source c.start ≤ movedOffset source p.stop := movedOffset_le hge
      rw [slice_eq_nil_of_le hge, slice_eq_nil_of_le (by omega)]
      exact ⟨rfl, rfl⟩

lemma StandsFor.adjoins_eq (hp : StandsFor source p p') (hc : StandsFor source c c') :
    adjoins (withReturns source) p' c' = adjoins source p c := by
  obtain ⟨hblank, hcount⟩ := hp.gap hc
  rw [adjoins, adjoins, hblank, hcount, hp.standsAlone_eq]

/-! ## Groups and issues -/

section Related

variable {α β γ : Type} {R : α → β → Prop}

lemma map_eq_map_of_forall₂ {f : α → γ} {g : β → γ} (hfg : ∀ a b, R a b → f a = g b)
    {as : List α} {bs : List β} (h : List.Forall₂ R as bs) : as.map f = bs.map g := by
  induction h with
  | nil => rfl
  | cons hab _ ih => rw [List.map_cons, List.map_cons, hfg _ _ hab, ih]

/-- Runs that are cut by tests with equal answers are cut alike.  The loop holds the element before
the rest, the run that it ends, and the runs behind that one, each of them from its end on. -/
lemma forall₂_splitBy_loop {r : α → α → Bool} {s : β → β → Bool}
    (hrs : ∀ a b a' b', R a b → R a' b' → r a a' = s b b') {as : List α} {bs : List β}
    (h : List.Forall₂ R as bs) {a : α} {b : β} (hab : R a b) {run : List α} {run' : List β}
    (hrun : List.Forall₂ R run run') {runs : List (List α)} {runs' : List (List β)}
    (hruns : List.Forall₂ (List.Forall₂ R) runs runs') :
    List.Forall₂ (List.Forall₂ R) (List.splitBy.loop r as a run runs)
      (List.splitBy.loop s bs b run' runs') := by
  induction h generalizing a b run run' runs runs' with
  | nil => exact List.rel_reverse (.cons (List.rel_reverse (.cons hab hrun)) hruns)
  | @cons x y as bs hxy _ ih =>
    rw [List.splitBy.loop, List.splitBy.loop, hrs a b x y hab hxy]
    cases s b y with
    | true => exact ih hxy (.cons hab hrun) hruns
    | false => exact ih hxy .nil (.cons (List.rel_reverse (.cons hab hrun)) hruns)

lemma forall₂_splitBy {r : α → α → Bool} {s : β → β → Bool}
    (hrs : ∀ a b a' b', R a b → R a' b' → r a a' = s b b') {as : List α} {bs : List β}
    (h : List.Forall₂ R as bs) :
    List.Forall₂ (List.Forall₂ R) (as.splitBy r) (bs.splitBy s) := by
  cases h with
  | nil => exact .nil
  | cons hab h => exact forall₂_splitBy_loop hrs h hab .nil .nil

end Related

/-- **Trees with comments that answer alike have the same groups.**  If the comment nodes of two
trees are related one by one, related nodes adjoin alike, and their comments are the same but for
`move`, then so are the groups. -/
lemma groups_ofTree_of_forall₂ {R : SyntaxNode → SyntaxNode → Prop} {source source' : List UInt8}
    {tree tree' : SyntaxTree} {path : String} {move : Comment → Comment}
    (hadjoins : ∀ p p' c c', R p p' → R c c' → adjoins source p c = adjoins source' p' c')
    (hmove : ∀ node node', R node node' →
      move (Comment.ofNode source path node) = Comment.ofNode source' path node')
    (h : List.Forall₂ R tree.comments tree'.comments) :
    (SourceFile.ofTree source' path tree').groups =
      (SourceFile.ofTree source path tree).groups.map (·.map move) := by
  have hblocks : List.Forall₂ (List.Forall₂ R) (tree.comments.splitBy (adjoins source))
      (tree'.comments.splitBy (adjoins source')) :=
    forall₂_splitBy hadjoins h
  have hgroups : ∀ block block', List.Forall₂ R block block' →
      (block.map (Comment.ofNode source path)).map move =
        block'.map (Comment.ofNode source' path) := by
    intro block block' hblock
    rw [List.map_map]
    exact map_eq_map_of_forall₂ hmove hblock
  rw [SourceFile.ofTree, SourceFile.ofTree, List.map_map, ← map_eq_map_of_forall₂ hgroups hblocks]
  rfl

/-- A file whose offsets have moved. -/
def SourceFile.moved (source : List UInt8) (file : SourceFile) : SourceFile :=
  { file with groups := file.groups.map (·.map (Comment.moved source)) }

/-- An issue at a position that has moved.  Its finding, its texts, its line and its column are what
they were. -/
def Issue.moved (source : List UInt8) (issue : Issue) : Issue :=
  { issue with position := issue.position.moved source }

lemma review_moved (config : RuleConfig) (comment : Comment) :
    review config (comment.moved source) = (review config comment).map (Issue.moved source) := by
  have hfindings : findings config (comment.moved source) = findings config comment := by
    simp only [findings, isSelfExempt, Directive.read, Comment.moved]
    cases Directive.Layout.ofChars? comment.text.toList <;> rfl
  rw [review, hfindings, review, List.map_map]
  rfl

lemma SourceFile.comments_moved (file : SourceFile) :
    (file.moved source).comments = file.comments.map (Comment.moved source) :=
  List.map_flatten.symm

lemma analyze_moved (config : RuleConfig) (file : SourceFile) :
    (Linter.ofConfig config).analyze (file.moved source) =
      ((Linter.ofConfig config).analyze file).map (Issue.moved source) := by
  rw [Linter.analyze_ofConfig, SourceFile.comments_moved, List.flatMap_map,
    Linter.analyze_ofConfig, List.map_flatMap]
  exact List.flatMap_congr fun comment _ => review_moved config comment

lemma ofTree_withReturns {tree tree' : SyntaxTree} (path : String)
    (h : List.Forall₂ (StandsFor source) tree.comments tree'.comments) :
    SourceFile.ofTree (withReturns source) path tree' =
      (SourceFile.ofTree source path tree).moved source := by
  have hgroups : (SourceFile.ofTree (withReturns source) path tree').groups =
      (SourceFile.ofTree source path tree).groups.map (·.map (Comment.moved source)) :=
    groups_ofTree_of_forall₂ (fun _ _ _ _ hp hc => (hp.adjoins_eq hc).symm)
      (fun _ _ hnode => (hnode.ofNode_eq path).symm) h
  rw [SourceFile.moved, ← hgroups]
  rfl

/-- **Line ends do not matter.**  If the comments of the source with returns stand for those of the
source, one after the other, then the same comments are gathered into the same groups, and the same
issues are found about them in the same order.  Only offsets have moved. -/
theorem line_ends_do_not_matter [Grammars] {source : List UInt8} {tree tree' : SyntaxTree}
    (path : String) (h : List.Forall₂ (StandsFor source) tree.comments tree'.comments) :
    SourceFile.ofTree (withReturns source) path tree' =
        (SourceFile.ofTree source path tree).moved source ∧
      ∀ config : RuleConfig,
        (Linter.ofConfig config).analyze (SourceFile.ofTree (withReturns source) path tree') =
            ((Linter.ofConfig config).analyze (SourceFile.ofTree source path tree)).map
              (Issue.moved source) ∧
          ∀ language : Language, tree = language.tree source →
            tree' = language.tree (withReturns source) →
            (Linter.ofConfig config).analyzeSource language.name path (withReturns source) =
              ((Linter.ofConfig config).analyzeSource language.name path source).map
                (·.map (Issue.moved source)) := by
  have hfile := ofTree_withReturns path h
  have hissues : ∀ config : RuleConfig,
      (Linter.ofConfig config).analyze (SourceFile.ofTree (withReturns source) path tree') =
        ((Linter.ofConfig config).analyze (SourceFile.ofTree source path tree)).map
          (Issue.moved source) := by
    intro config
    rw [hfile, analyze_moved]
  refine ⟨hfile, fun config => ⟨hissues config, ?_⟩⟩
  rintro language rfl rfl
  rw [Linter.analyzeSource_name, Linter.analyzeSource_name, hissues]
  rfl

/-- A Go source with a broken character at the end of its first line, and a comment over two
lines. -/
def brokenText : List UInt8 :=
  "//nolint ".toList.map Char.toUInt8 ++ [0xE2, 0x82] ++
    "\n/* a\nb */ // nolint\n".toList.map Char.toUInt8

/-- The first comment takes its carriage return with it, and the second has one in it. -/
theorem brokenText_line_ends :
    List.Forall₂ (StandsFor brokenText) (Language.go.tree brokenText).comments
        (Language.go.tree (withReturns brokenText)).comments ∧
      (Linter.ofConfig {}).analyzeSource "go" "a.go" (withReturns brokenText) =
        ((Linter.ofConfig {}).analyzeSource "go" "a.go" brokenText).map
          (·.map (Issue.moved brokenText)) := by
  have h : List.Forall₂ (StandsFor brokenText) (Language.go.tree brokenText).comments
      (Language.go.tree (withReturns brokenText)).comments := by
    decide +kernel
  exact ⟨h, ((line_ends_do_not_matter "a.go" h).2 {}).2 .go rfl rfl⟩

end DirectiveLint
