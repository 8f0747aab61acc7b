import DirectiveLint.Proofs.Collected
import DirectiveLint.Proofs.Decoding
import DirectiveLint.Proofs.Grouping
import DirectiveLint.Proofs.Scanning

/-!
# Directives over several lines

A directive comment goes up to the end of its line, so one might think that there is no line feed in
its text.  In C a line whose last character is a backslash goes on in the next one, and so does a
comment in it.  This module says that there is no other way for a line feed to come into a directive
comment.

* `Text.Spliced` — every line feed stands right behind a backslash.
* `Language.IsLine.spliced` — the bytes of a line are read as a text without line feeds, or in C as
  a spliced one.  Carriage returns are left out, so none is between backslash and line feed.
* `not_resembles_of_blockMarker` — what stands between delimiters resembles no directive.
* `FileSystem.spliced_of_lineFeed_mem` — **a directive comment with a line feed in it is from a C
  file**, and each of its line feeds stands behind a backslash.

This takes grammars that know what a comment looks like (`Grammars.CommentsFit`), and nothing
else of them.
-/

namespace DirectiveLint

open Text Text.Utf8

/-! ## Lines that are read -/

/-- Every line feed stands right behind a backslash. -/
def Text.Spliced (s : List Char) : Prop :=
  ∀ front rest, s = front ++ '\n' :: rest → ['\\'] <:+ front

lemma eq_lineFeed_of_ofNat : ∀ b : UInt8, Char.ofNat b.toNat = '\n' → b = lineFeed :=
  forall_byte (by decide +kernel)

/-- Carriage returns have no part in the text of a comment. -/
def withoutReturns (s : List Char) : List Char :=
  s.filter (· != '\r')

lemma withoutReturns_append (s t : List Char) :
    withoutReturns (s ++ t) = withoutReturns s ++ withoutReturns t :=
  List.filter_append s t

/-- A line feed in the text of a comment stands where a line feed is in its bytes. -/
lemma exists_lineFeed_cut {bytes : List UInt8} {front rest : List Char}
    (h : withoutReturns (decodeLossy bytes) = front ++ '\n' :: rest) :
    ∃ before behind, bytes = before ++ lineFeed :: behind ∧
      withoutReturns (decodeLossy before) = front := by
  obtain ⟨s, t, hcut, hfront, hrest⟩ := List.filter_eq_append_iff.mp h
  obtain ⟨returns, t', rfl, hreturns, -, -⟩ := List.filter_eq_cons_iff.mp hrest
  rw [← List.append_assoc] at hcut
  obtain ⟨before, b, behind, rfl, hbefore, hb⟩ :=
    exists_cut_of_decodeLossy (by decide : ('\n' : Char).toNat < 0x80) hcut
  obtain rfl := eq_lineFeed_of_ofNat b hb
  refine ⟨before, behind, rfl, ?_⟩
  have hnone : withoutReturns returns = [] := List.filter_eq_nil_iff.mpr hreturns
  rw [hbefore, withoutReturns_append, hnone, List.append_nil]
  exact hfront

/-- A line that goes on is read with a backslash at its end. -/
lemma C.EndsSpliced.decodeLossy {bytes : List UInt8} (h : C.EndsSpliced bytes) :
    ['\\'] <:+ withoutReturns (decodeLossy bytes) := by
  rcases h with ⟨front, rfl⟩ | ⟨front, rfl⟩
  · rw [decodeLossy_append_ascii (by decide), withoutReturns_append]
    exact List.suffix_append _ _
  · rw [decodeLossy_append_ascii (by decide), withoutReturns_append]
    exact List.suffix_append _ _

/-- **What a line is read as.** -/
lemma Language.IsLine.spliced {language : Language} {bytes : List UInt8}
    (h : language.IsLine bytes) (hmem : '\n' ∈ withoutReturns (decodeLossy bytes)) :
    language = .c ∧ Text.Spliced (withoutReturns (decodeLossy bytes)) := by
  cases language with
  | go =>
    obtain ⟨front, rest, hcut⟩ := List.append_of_mem hmem
    obtain ⟨before, behind, rfl, -⟩ := exists_lineFeed_cut hcut
    exact absurd (List.mem_append_right before List.mem_cons_self) h
  | c =>
    refine ⟨rfl, fun front rest hcut => ?_⟩
    obtain ⟨before, behind, rfl, rfl⟩ := exists_lineFeed_cut hcut
    exact C.EndsSpliced.decodeLossy (h before behind rfl)

/-! ## Directive comments -/

/-- What stands between delimiters resembles no directive. -/
lemma not_resembles_of_blockMarker {bytes : List UInt8} (h : blockMarker <+: bytes) :
    Directive.resembles (withoutReturns (decodeLossy bytes)) = false := by
  obtain ⟨rest, rfl⟩ := h
  have hslash := decodeLossy_append_ascii (by decide : '/'.toUInt8 < 0x80) [] ('*'.toUInt8 :: rest)
  have hstar := decodeLossy_append_ascii (by decide : '*'.toUInt8 < 0x80) [] rest
  rw [List.nil_append] at hslash hstar
  show Directive.resembles (withoutReturns (decodeLossy ('/'.toUInt8 :: '*'.toUInt8 :: rest))) = _
  rw [hslash, hstar]
  rfl

variable [Grammars]

/-- **A line feed in a directive comment is in a C comment that goes on.** -/
lemma Language.spliced_ofNode (hfit : Grammars.CommentsFit) {language : Language}
    {source : List UInt8} {path : String} {node : SyntaxNode}
    (hnode : node ∈ (language.tree source).comments)
    (hresembles :
      Directive.resembles (Comment.ofNode source path node).text.toList = true)
    (hmem : '\n' ∈ (Comment.ofNode source path node).text.toList) :
    language = .c ∧ Text.Spliced (Comment.ofNode source path node).text.toList := by
  have htext : (Comment.ofNode source path node).text.toList =
      withoutReturns (decodeLossy (slice source node.start node.stop)) := by
    rw [Comment.text_ofNode, String.toList_ofList]
    rfl
  rw [htext] at hresembles hmem ⊢
  rcases hfit language source node hnode with hline | hblock
  · exact hline.spliced hmem
  · rw [not_resembles_of_blockMarker hblock] at hresembles
    cases hresembles

namespace FileSystem

variable {fs : FileSystem} {path : FilePath} {comment : Comment}

/-- **A directive comment with a line feed in it is from a C file**, and each of its line feeds
stands behind a backslash. -/
theorem spliced_of_lineFeed_mem (hfit : Grammars.CommentsFit) (h : comment ∈ fs.commentsOf path)
    (hresembles : Directive.resembles comment.text.toList = true)
    (hmem : '\n' ∈ comment.text.toList) :
    Language.ofPath path = .ok .c ∧ Text.Spliced comment.text.toList := by
  obtain ⟨language, source, node, hlanguage, hnode, rfl⟩ := exists_node_of_mem_commentsOf h
  obtain ⟨rfl, hspliced⟩ := Language.spliced_ofNode hfit hnode hresembles hmem
  exact ⟨hlanguage, hspliced⟩

end FileSystem

end DirectiveLint
