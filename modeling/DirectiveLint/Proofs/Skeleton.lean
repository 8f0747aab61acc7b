import DirectiveLint.Proofs.LineEnds
import DirectiveLint.Proofs.Locality

/-!
# The skeleton of the code

Comments are cut into groups by what stands around them.  This module shows how little of the code
is looked at: which of its bytes are line feeds, and which of the others are blanks.

**Skeletons.**  Two bytes are of the same class if both are line feeds, both are other blanks, or
neither is a blank (`SameClass`).  `SameSkeleton` relates two sources that have the same bytes in
their comments, and bytes of the same class outside of them.  Neither the kind of a comment node nor
the rest of the tree is asked about.

**Only the class is read.**  Each part of the grouping test is about blanks or about line feeds:
`blankBetween_congr`, `oneLineFeedBetween_congr` and `opensLine_congr` go through them one by one.
The texts of comments are read from their own bytes alone (`slice_congr`).

`skeleton_determines_comments` puts this together, for sources and trees of any kind.
-/

namespace DirectiveLint

/-! ## Bytes of one class -/

/-- **Two bytes that grouping cannot tell apart**: two line feeds, two other blanks, or two bytes
that are no blanks. -/
def SameClass (b b' : UInt8) : Prop :=
  (b = lineFeed ∧ b' = lineFeed) ∨
    (b ≠ lineFeed ∧ b' ≠ lineFeed ∧ isBlankByte b = true ∧ isBlankByte b' = true) ∨
    (isBlankByte b = false ∧ isBlankByte b' = false)

instance (b b' : UInt8) : Decidable (SameClass b b') :=
  inferInstanceAs (Decidable (_ ∨ _ ∨ _))

lemma SameClass.refl (b : UInt8) : SameClass b b := by
  by_cases hb : b = lineFeed
  · exact Or.inl ⟨hb, hb⟩
  · cases hblank : isBlankByte b <;> simp [SameClass, hb, hblank]

lemma SameClass.eq_lineFeed_iff {b b' : UInt8} (h : SameClass b b') :
    b = lineFeed ↔ b' = lineFeed := by
  have hfeed : isBlankByte lineFeed = true := by decide
  rcases h with ⟨hb, hb'⟩ | ⟨hb, hb', -, -⟩ | ⟨hb, hb'⟩
  · simp [hb, hb']
  · simp [hb, hb']
  · constructor
    · rintro rfl
      simp [hfeed] at hb
    · rintro rfl
      simp [hfeed] at hb'

lemma SameClass.isBlankByte_eq {b b' : UInt8} (h : SameClass b b') :
    isBlankByte b = isBlankByte b' := by
  rcases h with ⟨rfl, rfl⟩ | ⟨-, -, hb, hb'⟩ | ⟨hb, hb'⟩
  · rfl
  · rw [hb, hb']
  · rw [hb, hb']

/-! ## What the test reads -/

section Congruence

variable {source source' : List UInt8} {start stop offset : Nat} {p c node : SyntaxNode}

/-- A span is read from its own bytes. -/
lemma slice_congr (h : ∀ i < stop, start ≤ i → source[i]? = source'[i]?) :
    slice source start stop = slice source' start stop := by
  apply List.ext_getElem?
  intro k
  rw [getElem?_slice, getElem?_slice]
  split
  · exact h (start + k) (by omega) (by omega)
  · rfl

/-- The sources have bytes of the same class at every offset, as far as they go. -/
def SameClasses (source source' : List UInt8) : Prop :=
  ∀ i : Nat, Option.Rel SameClass source[i]? source'[i]?

lemma SameClasses.lineFeed_iff (h : SameClasses source source') (i : Nat) :
    source[i]? = some lineFeed ↔ source'[i]? = some lineFeed := by
  have hi := h i
  generalize source[i]? = x at hi
  generalize source'[i]? = x' at hi
  cases hi with
  | some hb => simp [hb.eq_lineFeed_iff]
  | none => simp

lemma SameClasses.blank_iff (h : SameClasses source source') (i : Nat) :
    (∀ b ∈ source[i]?, isBlankByte b = true) ↔ ∀ b ∈ source'[i]?, isBlankByte b = true := by
  have hi := h i
  generalize source[i]? = x at hi
  generalize source'[i]? = x' at hi
  cases hi with
  | some hb => simp [hb.isBlankByte_eq]
  | none => simp

lemma blankBetween_congr (h : SameClasses source source') :
    BlankBetween source start stop ↔ BlankBetween source' start stop := by
  simp only [BlankBetween, h.blank_iff]

lemma oneLineFeedBetween_congr (h : SameClasses source source') :
    OneLineFeedBetween source start stop ↔ OneLineFeedBetween source' start stop := by
  simp only [OneLineFeedBetween, h.lineFeed_iff]

lemma beforeOnLine_congr (h : SameClasses source source') {i : Nat} :
    BeforeOnLine source i offset ↔ BeforeOnLine source' i offset := by
  simp only [BeforeOnLine, ne_eq, h.lineFeed_iff]

lemma opensLine_congr (h : SameClasses source source') :
    OpensLine source node ↔ OpensLine source' node := by
  simp only [OpensLine, beforeOnLine_congr h, h.blank_iff]

/-- **The grouping test reads nothing but classes.** -/
lemma adjoins_congr (h : SameClasses source source') :
    adjoins source p c = adjoins source' p c := by
  rw [Bool.eq_iff_iff, adjoins_iff, adjoins_iff, Close, Close, blankBetween_congr h,
    oneLineFeedBetween_congr h, opensLine_congr h]

end Congruence

/-! ## Sources with the same skeleton -/

/-- Two nodes cover the same bytes and start at the same place. -/
structure SameSpan (node node' : SyntaxNode) : Prop where
  start : node.start = node'.start
  stop : node.stop = node'.stop
  point : node.point = node'.point

instance (node node' : SyntaxNode) : Decidable (SameSpan node node') :=
  decidable_of_iff (node.start = node'.start ∧ node.stop = node'.stop ∧ node.point = node'.point)
    ⟨fun h => ⟨h.1, h.2.1, h.2.2⟩, fun h => ⟨h.start, h.stop, h.point⟩⟩

/-- **Two sources differ in their code only, and not in its skeleton.**  They are of one length and
have comments at the same places; the bytes inside a comment are the same, and all others are of the
same class. -/
structure SameSkeleton (source source' : List UInt8) (tree tree' : SyntaxTree) : Prop where
  length : source.length = source'.length
  comments : List.Forall₂ SameSpan tree.comments tree'.comments
  inside : ∀ i, InComment tree i → source[i]? = source'[i]?
  outside : ∀ i, ¬ InComment tree i → ∀ b ∈ source[i]?, ∀ b' ∈ source'[i]?, SameClass b b'

variable {source source' : List UInt8} {tree tree' : SyntaxTree} {node node' p p' c c' : SyntaxNode}

lemma SameSkeleton.sameClasses (h : SameSkeleton source source' tree tree') :
    SameClasses source source' := by
  intro i
  by_cases hi : i < source.length
  · have hi' : i < source'.length := h.length ▸ hi
    have hget := List.getElem?_eq_getElem hi
    have hget' := List.getElem?_eq_getElem hi'
    by_cases hcomment : InComment tree i
    · rw [← h.inside i hcomment, hget]
      exact .some (.refl _)
    · have hclass := h.outside i hcomment _ hget _ hget'
      rw [hget, hget']
      exact .some hclass
  · have hi' : ¬ i < source'.length := h.length ▸ hi
    rw [List.getElem?_eq_none (by omega), List.getElem?_eq_none (by omega)]
    exact .none

/-- Only the offsets of the sources count. -/
lemma sameSkeleton_iff : SameSkeleton source source' tree tree' ↔
    source.length = source'.length ∧ List.Forall₂ SameSpan tree.comments tree'.comments ∧
      ∀ i < source.length, (InComment tree i → source[i]? = source'[i]?) ∧
        (¬ InComment tree i → ∀ b ∈ source[i]?, ∀ b' ∈ source'[i]?, SameClass b b') := by
  constructor
  · intro h
    exact ⟨h.length, h.comments, fun i _ => ⟨h.inside i, h.outside i⟩⟩
  · rintro ⟨hlength, hcomments, hbytes⟩
    refine ⟨hlength, hcomments, fun i hi => ?_, fun i hi b hb => ?_⟩
    · by_cases hlt : i < source.length
      · exact (hbytes i hlt).1 hi
      · rw [List.getElem?_eq_none (by omega), List.getElem?_eq_none (by omega)]
    · have hlt := (List.getElem?_eq_some_iff.mp hb).1
      exact (hbytes i hlt).2 hi b hb

instance : Decidable (SameSkeleton source source' tree tree') :=
  haveI (b : UInt8) (i : Nat) : Decidable (∀ b' ∈ source'[i]?, SameClass b b') :=
    Option.decidableForallMem _
  haveI (i : Nat) : Decidable (∀ b ∈ source[i]?, ∀ b' ∈ source'[i]?, SameClass b b') :=
    Option.decidableForallMem _
  decidable_of_iff _ sameSkeleton_iff.symm

/-- A comment is the same in both sources. -/
lemma SameSkeleton.ofNode_eq (h : SameSkeleton source source' tree tree') (path : String)
    (hmem : node ∈ tree.comments) (hspan : SameSpan node node') :
    Comment.ofNode source path node = Comment.ofNode source' path node' := by
  have hslice : slice source node.start node.stop = slice source' node.start node.stop := by
    apply slice_congr
    intro i hstop hstart
    exact h.inside i ⟨node, hmem, hstart, hstop⟩
  simp only [Comment.ofNode, SyntaxNode.text, ← hspan.start, ← hspan.stop, ← hspan.point, hslice]

lemma SameSkeleton.adjoins_eq (h : SameSkeleton source source' tree tree') (hp : SameSpan p p')
    (hc : SameSpan c c') : adjoins source p c = adjoins source' p' c' := by
  rw [adjoins_congr h.sameClasses]
  simp only [adjoins, standsAlone, hp.start, hp.stop, hc.start]

lemma SameSkeleton.ofTree_eq (h : SameSkeleton source source' tree tree') (path : String) :
    SourceFile.ofTree source path tree = SourceFile.ofTree source' path tree' := by
  have hcomments : List.Forall₂ (fun node node' => node ∈ tree.comments ∧ SameSpan node node')
      tree.comments tree'.comments :=
    (List.forall₂_and_left _ _).mpr ⟨fun _ hmem => hmem, h.comments⟩
  have hgroups : (SourceFile.ofTree source' path tree').groups =
      (SourceFile.ofTree source path tree).groups.map (·.map id) := by
    apply groups_ofTree_of_forall₂ _ _ hcomments
    · intro p p' c c' hp hc
      exact h.adjoins_eq hp.2 hc.2
    · intro node node' hnode
      exact h.ofNode_eq path hnode.1 hnode.2
  simp only [List.map_id_fun, id_eq, List.map_id_fun'] at hgroups
  rw [SourceFile.mk.injEq]
  exact ⟨rfl, hgroups.symm⟩

/-- **Only the skeleton of the code matters.**  Two sources with the same skeleton give the same
file, hence the same issues under every configuration, whichever trees an engine gets for them. -/
theorem skeleton_determines_comments [Grammars] (h : SameSkeleton source source' tree tree')
    (path : String) :
    SourceFile.ofTree source path tree = SourceFile.ofTree source' path tree' ∧
      ∀ config : RuleConfig,
        (Linter.ofConfig config).analyze (SourceFile.ofTree source path tree) =
            (Linter.ofConfig config).analyze (SourceFile.ofTree source' path tree') ∧
          ∀ (engine engine' : Engine) (language : Language), engine.linter = .ofConfig config →
            engine'.linter = .ofConfig config → engine.treeOf language source = tree →
            engine'.treeOf language source' = tree' →
            ((Engine.analyzeSource language.name path source).run engine).1 =
              ((Engine.analyzeSource language.name path source').run engine').1 := by
  have hfile := h.ofTree_eq path
  refine ⟨hfile, fun config => ⟨by rw [hfile], ?_⟩⟩
  intro engine engine' language hlinter hlinter' htree htree'
  rw [Engine.treeOf] at htree htree'
  rw [Engine.analyzeSource_name, Engine.analyzeSource_name, hlinter, hlinter', htree, htree', hfile]

/-- A Go source with a directive behind its code and another one in a line of its own. -/
def assigned : List UInt8 :=
  "x := 1 //nolint\n \t// nolint:a\nf()".toList.map Char.toUInt8

/-- Other code with the same skeleton: the blanks are other blanks, and the rest is other code. -/
def reassigned : List UInt8 :=
  "y\t+=\x0b2\r//nolint\n\t // nolint:a\ng{}".toList.map Char.toUInt8

/-- The directives are the same in both, and so are the issues. -/
theorem assigned_like_reassigned :
    SameSkeleton assigned reassigned (Language.go.tree assigned) (Language.go.tree reassigned) ∧
      assigned ≠ reassigned ∧
      SourceFile.ofTree assigned "a.go" (Language.go.tree assigned) =
        SourceFile.ofTree reassigned "a.go" (Language.go.tree reassigned) ∧
      ((Engine.analyzeSource "go" "a.go" assigned).run (.ofConfig {})).1 =
        ((Engine.analyzeSource "go" "a.go" reassigned).run (.ofConfig {})).1 := by
  have h : SameSkeleton assigned reassigned (Language.go.tree assigned)
      (Language.go.tree reassigned) := by
    decide +kernel
  obtain ⟨hfile, hissues⟩ := skeleton_determines_comments h "a.go"
  exact ⟨h, by decide, hfile, (hissues {}).2 (.ofConfig {}) (.ofConfig {}) .go rfl rfl rfl rfl⟩

end DirectiveLint
