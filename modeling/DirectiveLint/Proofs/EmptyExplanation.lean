import DirectiveLint.Proofs.BlankTail

/-!
# Empty explanations

A directive whose explanation is empty is shown without it.  Two classes of blanks meet here: an
explanation is empty if only Unicode blanks stand behind its marker, and what is taken away are the
blanks of the grammar.

* `Layout.stripped`, `Layout.withLine` — the layout that ends behind the last word, and the one that
  ends with the line behind the second marker.
* `empty_explanation_is_stripped_or_kept` — **the directive is cut behind its last word if only
  blanks of the grammar stand behind its marker** (`BlankRemark`), and reads as before but for the
  explanation.  Otherwise the second marker stays.

`no_break_space_keeps_marker` is a short case of the second kind.
-/

namespace DirectiveLint.Directive

open Text

namespace Layout

/-! ## Up to the last word -/

/-- The layout of the comment up to its last word. -/
def stripped (l : Layout) : Layout :=
  ⟨l.lead, bared l.targets, [], [], []⟩

lemma stripped_chars (l : Layout) : l.stripped.chars = l.stem := by
  simp only [stripped, chars, stem, List.append_nil, List.append_assoc]

lemma WellFormed.stripped {l : Layout} (h : l.WellFormed) : l.stripped.WellFormed :=
  ⟨h.lead_blank, wellFormed_retrail (fun _ _ => rfl) h.targets_wf, rfl, Or.inl rfl, rfl⟩

lemma names_stripped (l : Layout) : l.stripped.names = l.names :=
  names_eq_of_map_name_eq (map_name_retrail _ l.targets)

/-- The layout whose second marker is followed by this line and by nothing else. -/
def withLine (l : Layout) (line : List Char) : Layout :=
  ⟨l.lead, l.targets, l.pad, marker ++ line, []⟩

lemma withLine_chars (l : Layout) (line : List Char) :
    (l.withLine line).chars = marker ++ (l.front ++ (marker ++ line)) := by
  simp only [withLine, chars, front, List.append_nil, List.append_assoc]

lemma WellFormed.withLine {l : Layout} (h : l.WellFormed) {line : List Char} (hlf : '\n' ∉ line) :
    (l.withLine line).WellFormed :=
  ⟨h.lead_blank, h.targets_wf, h.pad_blank, Or.inr ⟨line, rfl, hlf⟩, rfl⟩

end Layout

/-! ## The comment without its empty explanation -/

/-- The comment without its empty explanation. -/
def shortened (comment : Comment) : Comment :=
  { comment with text := String.ofList (withoutBlankTail comment.text.toList) }

lemma toList_shortened (comment : Comment) :
    (shortened comment).text.toList = withoutBlankTail comment.text.toList :=
  String.toList_ofList

lemma shortened_eq {comment : Comment} {d : Directive} (h : read comment = .ok d) :
    { comment with text := d.unexplained } = shortened comment := by
  rw [unexplained, (text_of_read h).1, shortened]

/-- **A stripped directive has no explanation**, and is otherwise what it was. -/
lemma read_shortened_of_blankRemark {comment : Comment} {d : Directive} (h : read comment = .ok d)
    (hblank : BlankRemark comment.text.toList) :
    read (shortened comment) = .ok { d with text := d.unexplained, explanation := "" } := by
  rw [unexplained, (text_of_read h).1]
  obtain ⟨l, hwf, hchars, -, rfl⟩ := exists_layout_of_read h
  have hstripped : l.stripped.chars = (shortened comment).text.toList := by
    rw [l.stripped_chars, toList_shortened, ← hchars,
      hwf.withoutBlankTail_of_blankRemark (hchars ▸ hblank)]
  rw [read_of_chars hwf.stripped hstripped rfl, l.names_stripped]
  rfl

/-- **A directive that is not stripped keeps an explanation** that says nothing. -/
lemma exists_read_shortened {comment : Comment} {d : Directive} (h : read comment = .ok d)
    (hun : Unexplained comment.text.toList) (hblank : ¬ BlankRemark comment.text.toList) :
    ∃ line c, (line ++ [c]).all isBlank = true ∧ isAsciiBlank c = false ∧
      afterSecondMarker (shortened comment).text.toList = some (line ++ [c]) ∧
      (shortened comment).text.toList = trimEnd isAsciiBlank comment.text.toList ∧
      read (shortened comment) = .ok { d with
        text := d.unexplained, explanation := String.ofList (marker ++ (line ++ [c])) } := by
  rw [unexplained, (text_of_read h).1]
  obtain ⟨l, hwf, hchars, -, rfl⟩ := exists_layout_of_read h
  rw [← hchars] at hun hblank
  obtain ⟨line, c, pad, hlf, hunicode, hc, hpad, hend⟩ := hwf.exists_kept_line hun hblank
  have hwf' : (l.withLine (line ++ [c])).WellFormed := hwf.withLine hlf
  have hkept : (l.withLine (line ++ [c])).chars
      = marker ++ (l.front ++ (marker ++ line)) ++ [c] := by
    simp only [Layout.withLine_chars, List.append_assoc]
  have hchars' : (l.withLine (line ++ [c])).chars = (shortened comment).text.toList := by
    rw [toList_shortened, ← hchars, hend, withoutBlankTail_append_blanks _ hpad,
      withoutBlankTail_concat _ hc (ne_slash_of_all_isBlank hunicode), hkept]
  have htrim : (shortened comment).text.toList = trimEnd isAsciiBlank comment.text.toList := by
    rw [← hchars', ← hchars, hend, trimEnd_append_blanks _ hpad, trimEnd_concat _ hc, hkept]
  have hafter : afterSecondMarker (shortened comment).text.toList = some (line ++ [c]) := by
    rw [← hchars', hwf'.afterSecondMarker_of_line rfl]
    exact congrArg some (List.append_nil _)
  refine ⟨line, c, hunicode, hc, hafter, htrim, ?_⟩
  rw [read_of_chars hwf' hchars' rfl]
  rfl

/-- **An empty explanation is stripped, or it is kept.**  It is stripped if only blanks of the
grammar stand behind its marker: the comment then ends right behind its last word and reads as
before, without an explanation.  If any other blank stands there, the marker is kept up to the last
one of these, and the comment reads as before with an explanation that says nothing. -/
theorem empty_explanation_is_stripped_or_kept {comment : Comment} {d : Directive}
    (hread : read comment = .ok d) (hun : d.isExplained = false) :
    (BlankRemark comment.text.toList →
      (∀ l : Layout, l.WellFormed → l.chars = comment.text.toList →
        d.unexplained.toList = l.stem) ∧
      afterSecondMarker d.unexplained.toList = none ∧
      (∀ c ∈ d.unexplained.toList.getLast?, isBlank c = false) ∧
      read { comment with text := d.unexplained } =
        .ok { d with text := d.unexplained, explanation := "" }) ∧
    (¬ BlankRemark comment.text.toList →
      d.unexplained.toList = trimEnd isAsciiBlank comment.text.toList ∧
      ∃ line c, (line ++ [c]).all isBlank = true ∧ isAsciiBlank c = false ∧
        afterSecondMarker d.unexplained.toList = some (line ++ [c]) ∧
        read { comment with text := d.unexplained } = .ok { d with
          text := d.unexplained, explanation := String.ofList (marker ++ (line ++ [c])) }) := by
  have htext : d.unexplained = (shortened comment).text :=
    congrArg Comment.text (shortened_eq hread)
  rw [shortened_eq hread]
  refine ⟨fun hblank => ?stripped, fun hblank => ?kept⟩
  case stripped =>
    have hstem : ∀ l : Layout, l.WellFormed → l.chars = comment.text.toList →
        d.unexplained.toList = l.stem := fun l hwf hchars => by
      rw [htext, toList_shortened, ← hchars,
        hwf.withoutBlankTail_of_blankRemark (hchars ▸ hblank)]
    obtain ⟨l, hwf, hchars, -, -⟩ := exists_layout_of_read hread
    refine ⟨hstem, ?_, ?_, read_shortened_of_blankRemark hread hblank⟩
    · rw [hstem l hwf hchars, ← l.stripped_chars, hwf.stripped.afterSecondMarker_of_nil rfl]
    · obtain ⟨front, c, hconcat, hc⟩ := hwf.stem_concat
      rw [hstem l hwf hchars, hconcat, List.getLast?_concat]
      rintro _ ⟨⟩
      exact isBlank_eq_false_of_isNameChar hc
  case kept =>
    obtain ⟨line, c, hunicode, hc, hafter, htrim, hkept⟩ :=
      exists_read_shortened hread ((isExplained_eq_false_iff hread).mp hun) hblank
    rw [htext]
    exact ⟨htrim, line, c, hunicode, hc, hafter, htext ▸ hkept⟩

/-- Blanks of the grammar behind the marker, on its line and on the next one, go with it. -/
theorem empty_explanation_is_stripped_behind_linter :
    let comment : Comment := { text := "//  nolint:a ,b\t//\u000c \n " }
    read comment = .ok ⟨comment.text, {}, "  ", ["a", "b"], "//\u000c "⟩ ∧
      BlankRemark comment.text.toList ∧
      read { text := "//  nolint:a ,b" } = .ok ⟨"//  nolint:a ,b", {}, "  ", ["a", "b"], ""⟩ := by
  have hread : read { text := "//  nolint:a ,b\t//\u000c \n " } =
      .ok ⟨"//  nolint:a ,b\t//\u000c \n ", {}, "  ", ["a", "b"], "//\u000c "⟩ := by decide
  have hblank : BlankRemark "//  nolint:a ,b\t//\u000c \n ".toList := by decide
  have hstripped := ((empty_explanation_is_stripped_or_kept hread (by decide)).1 hblank).2.2.2
  exact ⟨hread, hblank, hstripped⟩

/-- **A no-break space keeps the marker**: the directive is unexplained, and what is shown without
its explanation is the whole comment. -/
theorem no_break_space_keeps_marker :
    ∃ d, read { text := "//nolint // \u00a0" } = .ok d ∧ d.isExplained = false ∧
      d.unexplained = "//nolint // \u00a0" ∧
      afterSecondMarker d.unexplained.toList = some [' ', '\u00a0'] ∧
      ∃ again, read { text := d.unexplained } = .ok again ∧ again.explanation ≠ "" :=
  ⟨⟨"//nolint // \u00a0", {}, "", [], "// \u00a0"⟩, by decide, by decide, by decide, by decide,
    ⟨"//nolint // \u00a0", {}, "", [], "// \u00a0"⟩, by decide, by decide⟩

end DirectiveLint.Directive
