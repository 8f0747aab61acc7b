import DirectiveLint.Proofs.Decoding
import DirectiveLint.Proofs.Grouping
import DirectiveLint.Proofs.Recognition

/-!
# The encoding of comments

A directive is written in ASCII, its explanation apart.  This module shows that nothing else counts
of a comment's bytes: a run of bytes above ASCII may be any other run, in UTF-8 or not.

**Runs.**  `AlikeUpTo p` relates lists that are equal but for the runs of a class `p`, of which none
comes in and none goes.  What is outside the class in front of a list, or behind it, is the same in
both (`AlikeUpTo.of_append`, `AlikeUpTo.of_append_right`).

**Bytes and characters.**  The reader of UTF-8 keeps to the runs: bytes that are alike up to those
above ASCII are read as characters that are alike in this way (`AlikeUpTo.decodeLossy`).

**Comments.**  The keyword, the blanks and the names of linters are outside the class, and so is
every line end.  So comments that are alike resemble directives alike
(`Directive.resembles_of_alike`), and are laid out with the same linters
(`Directive.Layout.WellFormed.exists_alike`).  `encoding_does_not_matter` says so of the bytes of
nodes.
-/

namespace DirectiveLint

/-! ## Lists that are alike -/

variable {α : Type} {p : α → Prop} {run run' s s' t t' : List α} {a : α}

/-- **One run of a class stands in for another**: both are of the class, and if one is empty, so is
the other. -/
structure StandIn (p : α → Prop) (run run' : List α) : Prop where
  left : ∀ a ∈ run, p a
  right : ∀ a ∈ run', p a
  nil_iff : run = [] ↔ run' = []

instance [DecidablePred p] : Decidable (StandIn p run run') :=
  decidable_of_iff ((∀ a ∈ run, p a) ∧ (∀ a ∈ run', p a) ∧ (run = [] ↔ run' = []))
    ⟨fun h => ⟨h.1, h.2.1, h.2.2⟩, fun h => ⟨h.left, h.right, h.nil_iff⟩⟩

namespace StandIn

lemma nil : StandIn p [] [] :=
  ⟨fun _ ha => absurd ha List.not_mem_nil, fun _ ha => absurd ha List.not_mem_nil, Iff.rfl⟩

lemma symm (h : StandIn p run run') : StandIn p run' run :=
  ⟨h.right, h.left, h.nil_iff.symm⟩

lemma append (h : StandIn p run run') (h' : StandIn p s s') :
    StandIn p (run ++ s) (run' ++ s') where
  left := List.forall_mem_append.mpr ⟨h.left, h'.left⟩
  right := List.forall_mem_append.mpr ⟨h.right, h'.right⟩
  nil_iff := by rw [List.append_eq_nil_iff, List.append_eq_nil_iff, h.nil_iff, h'.nil_iff]

lemma reverse (h : StandIn p run run') : StandIn p run.reverse run'.reverse where
  left := fun a ha => h.left a (List.mem_reverse.mp ha)
  right := fun a ha => h.right a (List.mem_reverse.mp ha)
  nil_iff := by rw [List.reverse_eq_nil_iff, List.reverse_eq_nil_iff, h.nil_iff]

end StandIn

/-- **Two lists are alike up to a class** if they have the same elements outside of it, and the
longest runs of the class between these, in front of them and behind them stand in for each
other. -/
inductive AlikeUpTo (p : α → Prop) : List α → List α → Prop
  | last {run run' : List α} (h : StandIn p run run') : AlikeUpTo p run run'
  | run {run run' s s' : List α} {a : α} (h : StandIn p run run') (ha : ¬ p a)
      (hs : AlikeUpTo p s s') : AlikeUpTo p (run ++ a :: s) (run' ++ a :: s')

namespace AlikeUpTo

lemma cons (ha : ¬ p a) (h : AlikeUpTo p s s') : AlikeUpTo p (a :: s) (a :: s') :=
  .run .nil ha h

lemma symm (h : AlikeUpTo p s s') : AlikeUpTo p s' s := by
  induction h with
  | last h => exact .last h.symm
  | run h ha _ ih => exact .run h.symm ha ih

lemma run_append (h : StandIn p run run') (hs : AlikeUpTo p s s') :
    AlikeUpTo p (run ++ s) (run' ++ s') := by
  cases hs with
  | last h' => exact .last (h.append h')
  | run h' ha hs =>
    rw [← List.append_assoc, ← List.append_assoc]
    exact .run (h.append h') ha hs

lemma refl (p : α → Prop) (s : List α) : AlikeUpTo p s s := by
  induction s with
  | nil => exact .last .nil
  | cons a s ih =>
    by_cases ha : p a
    · have hrun : ∀ x ∈ [a], p x := List.forall_mem_singleton.mpr ha
      exact .run_append ⟨hrun, hrun, Iff.rfl⟩ ih
    · exact .cons ha ih

lemma append (hs : AlikeUpTo p s s') (ht : AlikeUpTo p t t') :
    AlikeUpTo p (s ++ t) (s' ++ t') := by
  induction hs with
  | last h => exact run_append h ht
  | run h ha _ ih =>
    rw [List.append_assoc, List.append_assoc]
    exact .run h ha ih

lemma reverse (h : AlikeUpTo p s s') : AlikeUpTo p s.reverse s'.reverse := by
  induction h with
  | last h => exact .last h.reverse
  | run h ha _ ih =>
    rw [List.reverse_append, List.reverse_append, List.reverse_cons, List.reverse_cons,
      List.append_assoc, List.append_assoc]
    exact ih.append (cons ha (.last h.reverse))

/-- Elements outside the class may be left out. -/
lemma filter {keep : α → Bool} (hkeep : ∀ a, p a → keep a = true) (h : AlikeUpTo p s s') :
    AlikeUpTo p (s.filter keep) (s'.filter keep) := by
  induction h with
  | last h =>
    rw [List.filter_eq_self.mpr fun a ha => hkeep a (h.left a ha),
      List.filter_eq_self.mpr fun a ha => hkeep a (h.right a ha)]
    exact .last h
  | @run run run' s s' a h ha _ ih =>
    rw [List.filter_append, List.filter_append,
      List.filter_eq_self.mpr fun a ha => hkeep a (h.left a ha),
      List.filter_eq_self.mpr fun a ha => hkeep a (h.right a ha)]
    refine run_append h ?_
    by_cases hk : keep a = true
    · rw [List.filter_cons_of_pos hk, List.filter_cons_of_pos hk]
      exact cons ha ih
    · rwa [List.filter_cons_of_neg hk, List.filter_cons_of_neg hk]

/-- **What is outside the class is in both lists.** -/
lemma mem (h : AlikeUpTo p s s') (ha : ¬ p a) (hmem : a ∈ s') : a ∈ s := by
  induction h with
  | last h => exact absurd (h.right a hmem) ha
  | run h _ _ ih =>
    rw [List.mem_append, List.mem_cons] at hmem ⊢
    rcases hmem with hrun | rfl | hmem
    · exact absurd (h.right a hrun) ha
    · exact Or.inr (Or.inl rfl)
    · exact Or.inr (Or.inr (ih hmem))

/-- A list begins in the class, or with the element that the other list begins with. -/
lemma head? (h : AlikeUpTo p s s') (ha : a ∈ s'.head?) : p a ∨ a ∈ s.head? := by
  cases h with
  | last h => exact Or.inl (h.right a (List.mem_of_mem_head? ha))
  | @run run run' _ _ _ h _ _ =>
    cases run' with
    | nil =>
      rw [h.nil_iff.mpr rfl]
      exact Or.inr ha
    | cons x run' =>
      obtain rfl : x = a := Option.some.inj ha
      exact Or.inl (h.right x List.mem_cons_self)

lemma eq_nil (h : AlikeUpTo p [] s') : s' = [] := by
  generalize hs : [] = s at h
  cases h with
  | last h => exact (h.nil_iff.mp hs.symm).trans hs
  | run => cases (List.append_eq_nil_iff.mp hs.symm).2

lemma of_cons (h : AlikeUpTo p (a :: s) s') (ha : ¬ p a) : ∃ t, s' = a :: t ∧ AlikeUpTo p s t := by
  generalize hs : a :: s = u at h
  cases h with
  | last h =>
    rw [← hs] at h
    exact absurd (h.left a List.mem_cons_self) ha
  | @run run run' _ t _ h _ ht =>
    cases run with
    | nil =>
      obtain ⟨rfl, rfl⟩ := List.cons.inj hs
      exact ⟨t, by rw [h.nil_iff.mp rfl, List.nil_append], ht⟩
    | cons x run =>
      obtain ⟨rfl, -⟩ := List.cons.inj hs
      exact absurd (h.left a List.mem_cons_self) ha

/-- **What is outside the class in front of one list is in front of the other.** -/
lemma of_append (h : AlikeUpTo p (s ++ t) s') (hs : ∀ a ∈ s, ¬ p a) :
    ∃ t', s' = s ++ t' ∧ AlikeUpTo p t t' := by
  induction s generalizing s' with
  | nil => exact ⟨s', rfl, h⟩
  | cons a s ih =>
    obtain ⟨ha, hs⟩ := List.forall_mem_cons.mp hs
    obtain ⟨u, rfl, hu⟩ := h.of_cons ha
    obtain ⟨t', rfl, ht⟩ := ih hu hs
    exact ⟨t', rfl, ht⟩

/-- **So is what is outside the class behind it.** -/
lemma of_append_right (h : AlikeUpTo p (s ++ t) s') (ht : ∀ a ∈ t, ¬ p a) :
    ∃ u, s' = u ++ t ∧ AlikeUpTo p s u := by
  have hrev := h.reverse
  rw [List.reverse_append] at hrev
  obtain ⟨u, hu, hsu⟩ := hrev.of_append fun a ha => ht a (List.mem_reverse.mp ha)
  refine ⟨u.reverse, ?_, ?_⟩
  · rw [← List.reverse_reverse s', hu, List.reverse_append, List.reverse_reverse]
  · rw [← List.reverse_reverse s]
    exact hsu.reverse

/-- A list outside the class is alike to itself only. -/
lemma eq_of_outside (h : AlikeUpTo p s s') (hs : ∀ a ∈ s, ¬ p a) : s' = s := by
  rw [← List.append_nil s] at h
  obtain ⟨t, rfl, ht⟩ := h.of_append hs
  rw [ht.eq_nil, List.append_nil]

end AlikeUpTo

/-! ## Bytes and characters -/

namespace Text

/-- The characters that no directive holds outside of its explanation. -/
def AboveAscii (c : Char) : Prop :=
  0x80 ≤ c.toNat

instance (c : Char) : Decidable (AboveAscii c) :=
  Nat.decLe _ _

namespace Utf8

/-- The bytes that are no characters of ASCII. -/
def AboveAscii (b : UInt8) : Prop :=
  0x80 ≤ b

instance (b : UInt8) : Decidable (AboveAscii b) :=
  UInt8.decLe _ _

lemma not_aboveAscii_ofNat {b : UInt8} (hb : b < 0x80) :
    ¬ Text.AboveAscii (Char.ofNat b.toNat) := by
  have hlt : b.toNat < 0x80 := UInt8.lt_iff_toNat_lt.mp hb
  rw [Text.AboveAscii, toNat_ofNat_of_isValidChar (Or.inl (by omega))]
  exact Nat.not_le.mpr hlt

end Utf8

end Text

open Text Utf8

/-- A run of bytes above ASCII is read as a run of characters above ASCII. -/
lemma StandIn.decodeLossy {run run' : List UInt8} (h : StandIn Utf8.AboveAscii run run') :
    StandIn Text.AboveAscii (decodeLossy run) (decodeLossy run') where
  left := fun _ hc => aboveAscii_of_mem_decodeLossy h.left hc
  right := fun _ hc => aboveAscii_of_mem_decodeLossy h.right hc
  nil_iff := by rw [decodeLossy_eq_nil_iff, decodeLossy_eq_nil_iff, h.nil_iff]

/-- **Bytes that are alike are read alike.** -/
lemma AlikeUpTo.decodeLossy {bytes bytes' : List UInt8}
    (h : AlikeUpTo Utf8.AboveAscii bytes bytes') :
    AlikeUpTo Text.AboveAscii (decodeLossy bytes) (decodeLossy bytes') := by
  induction h with
  | last h => exact .last h.decodeLossy
  | run h hb _ ih =>
    have hascii := UInt8.not_le.mp hb
    rw [decodeLossy_append_ascii hascii, decodeLossy_append_ascii hascii]
    exact .run h.decodeLossy (not_aboveAscii_ofNat hascii) ih

/-! ## Comments -/

/-- So the texts of comments are alike if the bytes of their nodes are. -/
lemma alike_ofNode {source source' : List UInt8} {node node' : SyntaxNode}
    (h : AlikeUpTo Utf8.AboveAscii (slice source node.start node.stop)
      (slice source' node'.start node'.stop)) (path path' : String) :
    AlikeUpTo Text.AboveAscii (Comment.ofNode source path node).text.toList
      (Comment.ofNode source' path' node').text.toList := by
  rw [Comment.text_ofNode, Comment.text_ofNode, String.toList_ofList, String.toList_ofList]
  refine h.decodeLossy.filter fun c hc => ?_
  rw [bne_iff_ne]
  rintro rfl
  exact absurd hc (by decide)

namespace Directive

lemma isAsciiBlank_eq_false_of_aboveAscii {c : Char} (h : Text.AboveAscii c) :
    isAsciiBlank c = false := by
  rw [Bool.eq_false_iff]
  intro hblank
  simp only [isAsciiBlank, Bool.or_eq_true, beq_iff_eq, Bool.and_eq_true,
    decide_eq_true_eq] at hblank
  rcases hblank with rfl | ⟨-, hle⟩
  · exact absurd h (by decide)
  · exact absurd (Nat.le_trans h hle) (by decide)

lemma isNameChar_eq_false_of_aboveAscii {c : Char} (h : Text.AboveAscii c) :
    isNameChar c = false := by
  rw [Bool.eq_false_iff]
  intro hname
  exact absurd (Nat.le_trans h (toNat_of_isNameChar hname).2) (by decide)

lemma not_aboveAscii_of_blank {blanks : List Char} (h : blanks.all isAsciiBlank = true) :
    ∀ c ∈ blanks, ¬ Text.AboveAscii c :=
  fun _ hc habove => not_mem_of_all h (isAsciiBlank_eq_false_of_aboveAscii habove) hc

lemma not_aboveAscii_marker : ∀ c ∈ marker, ¬ Text.AboveAscii c := by
  simp [marker, Text.AboveAscii]

lemma not_aboveAscii_keyword : ∀ c ∈ keyword, ¬ Text.AboveAscii c := by
  simp [keyword, Text.AboveAscii]

variable {text text' : List Char}

/-- **A comment that is alike to a directive resembles one too.** -/
lemma resembles_of_alike (h : AlikeUpTo Text.AboveAscii text text')
    (hresembles : resembles text = true) : resembles text' = true := by
  obtain ⟨lead, rest, hlead, rfl, hrest⟩ := resembles_iff.mp hresembles
  obtain ⟨u, rfl, hu⟩ := h.of_append not_aboveAscii_marker
  obtain ⟨v, rfl, hv⟩ := hu.of_append (not_aboveAscii_of_blank hlead)
  obtain ⟨rest', rfl, hrest'⟩ := hv.of_append not_aboveAscii_keyword
  refine resembles_iff.mpr ⟨lead, rest', hlead, rfl, fun c hc => ?_⟩
  exact (hrest'.head? hc).elim isNameChar_eq_false_of_aboveAscii (hrest c)

lemma takeWhile_of_alike (h : AlikeUpTo Text.AboveAscii text text') :
    text'.takeWhile isAsciiBlank = text.takeWhile isAsciiBlank := by
  have hblank : (text.takeWhile isAsciiBlank).all isAsciiBlank = true := List.all_takeWhile
  rw [← takeWhile_append_trimStart isAsciiBlank text] at h
  obtain ⟨rest, hrest, halike⟩ := h.of_append (not_aboveAscii_of_blank hblank)
  rw [hrest]
  refine takeWhile_run hblank fun c hc => ?_
  refine (halike.head? hc).elim isAsciiBlank_eq_false_of_aboveAscii fun hc => ?_
  have hhead := List.head?_dropWhile_not isAsciiBlank text
  rw [trimStart] at hc
  rw [hc] at hhead
  simpa using hhead

lemma leadingBlanks_of_no_marker (h : ¬ ∃ rest, text = marker ++ rest) :
    leadingBlanks text = [] := by
  rw [leadingBlanks]
  split
  · rfl
  · next rest hrest =>
    exact absurd ⟨rest, (List.isPrefixOf?_eq_some_iff_append_eq.mp hrest).symm⟩ h

/-- **The same blanks stand behind the marker**, if there is one. -/
lemma leadingBlanks_of_alike (h : AlikeUpTo Text.AboveAscii text text') :
    leadingBlanks text' = leadingBlanks text := by
  by_cases hmarker : ∃ rest, text = marker ++ rest
  · obtain ⟨rest, rfl⟩ := hmarker
    obtain ⟨rest', rfl, halike⟩ := h.of_append not_aboveAscii_marker
    rw [leadingBlanks_marker_append, leadingBlanks_marker_append, takeWhile_of_alike halike]
  · have hmarker' : ¬ ∃ rest, text' = marker ++ rest := by
      rintro ⟨rest, rfl⟩
      obtain ⟨rest', rfl, -⟩ := h.symm.of_append not_aboveAscii_marker
      exact hmarker ⟨rest', rfl⟩
    rw [leadingBlanks_of_no_marker hmarker, leadingBlanks_of_no_marker hmarker']

namespace Layout

lemma WellFormed.not_aboveAscii_front {l : Layout} (h : l.WellFormed) :
    ∀ c ∈ marker ++ l.lead ++ keyword ++ listChars l.targets ++ l.gap, ¬ Text.AboveAscii c := by
  intro c hc habove
  have hblank := isAsciiBlank_eq_false_of_aboveAscii habove
  simp only [List.mem_append] at hc
  rcases hc with (((hc | hc) | hc) | hc) | hc
  · exact not_aboveAscii_marker c hc habove
  · exact not_mem_of_all h.lead_blank hblank hc
  · exact not_aboveAscii_keyword c hc habove
  · refine not_mem_listChars hblank (isNameChar_eq_false_of_aboveAscii habove) ?_ ?_ h.targets_wf hc
    all_goals
      rintro rfl
      exact absurd habove (by decide)
  · exact not_mem_of_all h.gap_blank hblank hc

/-- **A comment that is alike to one that was laid out** can be laid out with the same linters.
Only the line of its explanation may differ. -/
lemma WellFormed.exists_alike {l : Layout} (h : l.WellFormed)
    (halike : AlikeUpTo Text.AboveAscii l.chars text') :
    ∃ l' : Layout, l'.WellFormed ∧ l'.chars = text' ∧ l'.targets = l.targets := by
  have htail := not_aboveAscii_of_blank h.tail_blank
  rcases h.explanation_line with hnil | ⟨line, hline, hlf⟩
  · refine ⟨l, h, (halike.eq_of_outside ?_).symm, rfl⟩
    rw [chars, hnil, List.append_nil]
    exact List.forall_mem_append.mpr ⟨h.not_aboveAscii_front, htail⟩
  · rw [chars, hline, List.append_assoc] at halike
    obtain ⟨u, rfl, hu⟩ := halike.of_append h.not_aboveAscii_front
    rw [List.append_assoc] at hu
    obtain ⟨v, rfl, hv⟩ := hu.of_append not_aboveAscii_marker
    obtain ⟨line', rfl, hline'⟩ := hv.of_append_right htail
    refine ⟨{ l with explanation := marker ++ line' }, ⟨h.lead_blank, h.targets_wf, h.gap_blank,
      Or.inr ⟨line', rfl, fun hmem => hlf (hline'.mem (by decide) hmem)⟩, h.tail_blank⟩, ?_, rfl⟩
    simp only [chars, List.append_assoc]

end Layout

/-- **What is read of one comment is read of the other**, as far as linters go. -/
lemma exists_read_of_alike {comment comment' : Comment}
    (h : AlikeUpTo Text.AboveAscii comment.text.toList comment'.text.toList) {d : Directive}
    (hread : read comment = .ok d) : ∃ d', read comment' = .ok d' ∧ d'.linters = d.linters := by
  obtain ⟨l, hwf, hchars, -, rfl⟩ := exists_layout_of_read hread
  rw [← hchars] at h
  obtain ⟨l', hwf', hchars', htargets⟩ := hwf.exists_alike h
  refine ⟨_, read_of_layout hwf' hchars', ?_⟩
  show l'.settled.names = l.names
  rw [Layout.names_settled, Layout.names, htargets, Layout.names]

end Directive

open Directive in
/-- **The encoding of comments does not matter.**  Take two nodes whose bytes are alike up to those
above ASCII.  Their comments resemble directives or do not, have the same blanks behind the marker,
follow the grammar or do not, and name the same linters. -/
theorem encoding_does_not_matter {source source' : List UInt8} {node node' : SyntaxNode}
    (h : AlikeUpTo Utf8.AboveAscii (slice source node.start node.stop)
      (slice source' node'.start node'.stop)) (path path' : String) :
    let comment := Comment.ofNode source path node
    let comment' := Comment.ofNode source' path' node'
    resembles comment.text.toList = resembles comment'.text.toList ∧
      leadingBlanks comment.text.toList = leadingBlanks comment'.text.toList ∧
      ((∃ d, read comment = .ok d) ↔ ∃ d', read comment' = .ok d') ∧
      ∀ d d', read comment = .ok d → read comment' = .ok d' → d.linters = d'.linters := by
  intro comment comment'
  have halike : AlikeUpTo Text.AboveAscii comment.text.toList comment'.text.toList :=
    alike_ofNode h path path'
  refine ⟨?_, (leadingBlanks_of_alike halike).symm, ⟨?_, ?_⟩, ?_⟩
  · rw [Bool.eq_iff_iff]
    exact ⟨resembles_of_alike halike, resembles_of_alike halike.symm⟩
  · rintro ⟨d, hread⟩
    obtain ⟨d', hread', -⟩ := exists_read_of_alike halike hread
    exact ⟨d', hread'⟩
  · rintro ⟨d', hread'⟩
    obtain ⟨d, hread, -⟩ := exists_read_of_alike halike.symm hread'
    exact ⟨d, hread⟩
  · intro d d' hread hread'
    obtain ⟨_, hagain, hlinters⟩ := exists_read_of_alike halike hread
    rw [hread'] at hagain
    obtain rfl := Except.ok.inj hagain
    exact hlinters.symm

/-- A directive with an explanation that breaks off inside a character twice, in front of a carriage
return and at the end. -/
def brokenOff : List UInt8 :=
  "//\tnolint:a //".toList.map Char.toUInt8 ++ [0xE2, 0x82, 0x0D, 0xED, 0xA0]

/-- The same directive with one whole character and one wrong byte instead. -/
def otherBytes : List UInt8 :=
  "//\tnolint:a //".toList.map Char.toUInt8 ++ [0xC3, 0xA9, 0x0D, 0xFF]

/-- Both are read as directives, with the same blank behind the marker and the same linter. -/
theorem brokenOff_reads_as_otherBytes :
    let comment := Comment.ofNode brokenOff "a.go" ⟨"comment", 0, 19, ⟨0, 0⟩⟩
    let comment' := Comment.ofNode otherBytes "b.c" ⟨"comment", 0, 18, ⟨0, 0⟩⟩
    AlikeUpTo Utf8.AboveAscii (slice brokenOff 0 19) (slice otherBytes 0 18) ∧
      comment.text ≠ comment'.text ∧
      Directive.leadingBlanks comment'.text.toList = ['\t'] ∧
      ∃ d d', Directive.read comment = .ok d ∧ Directive.read comment' = .ok d' ∧
        d.linters = ["a"] ∧ d'.linters = ["a"] := by
  intro comment comment'
  have hfirst : StandIn Utf8.AboveAscii [0xE2, 0x82] [0xC3, 0xA9] := by decide
  have hlast : StandIn Utf8.AboveAscii [0xED, 0xA0] [0xFF] := by decide
  have hbytes : slice brokenOff 0 19 = brokenOff ∧ slice otherBytes 0 18 = otherBytes := by decide
  have halike : AlikeUpTo Utf8.AboveAscii brokenOff otherBytes :=
    (AlikeUpTo.refl _ _).append (.run hfirst (show ¬ Utf8.AboveAscii 0x0D by decide) (.last hlast))
  rw [← hbytes.1, ← hbytes.2] at halike
  obtain ⟨-, hblanks, hread, hlinters⟩ :=
    @encoding_does_not_matter brokenOff otherBytes ⟨"comment", 0, 19, ⟨0, 0⟩⟩
      ⟨"comment", 0, 18, ⟨0, 0⟩⟩ halike "a.go" "b.c"
  have hd : Directive.read comment =
      .ok ⟨comment.text, comment.position, "\t", ["a"], "//\ufffd\ufffd\ufffd"⟩ := by
    decide +kernel
  obtain ⟨d', hd'⟩ := hread.mp ⟨_, hd⟩
  exact ⟨halike, by decide, hblanks.symm.trans (by decide), _, d', hd, hd', rfl,
    (hlinters _ d' hd hd').symm⟩

end DirectiveLint
