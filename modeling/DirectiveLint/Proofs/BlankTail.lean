import DirectiveLint.Proofs.Recognition

/-!
# Taking an empty explanation away

`withoutBlankTail` works from the end of a comment: blanks go, then one marker, then blanks again.

**On any text.**  An `IsBlankTail` is what can go: blanks of the grammar, with one marker among them
or none.  What is left is the shortest text that lacks no more than such a tail
(`longest_blank_tail_is_taken_away`), so it is the same wherever the search for the tail begins.

**On directives.**  `withoutBlankTail` knows the blanks of the grammar only, while an explanation is
empty as soon as it has no more than Unicode blanks.  So there are two outcomes for an unexplained
directive (`Layout.WellFormed.withoutBlankTail_chars`), and `BlankRemark` tells which of them it is:

* the comment ends right behind its last word (`Layout.stem`), or
* the second marker stays, with Unicode blanks behind it that the grammar does not skip
  (`Layout.WellFormed.exists_kept_line`).

Either way the rest of the directive is as it was.
-/

namespace DirectiveLint.Directive

open Text

/-! ## On any text -/

lemma withoutBlankTail_append_blanks (s : List Char) {pad : List Char}
    (hpad : pad.all isAsciiBlank = true) : withoutBlankTail (s ++ pad) = withoutBlankTail s := by
  rw [withoutBlankTail, dropWhile_reverse_append s hpad, withoutBlankTail]

/-- **A character that is neither a blank nor a slash keeps what stands in front of it.** -/
lemma withoutBlankTail_append_cons (s : List Char) {c : Char} (hblank : isAsciiBlank c = false)
    (hslash : c ≠ '/') (rest : List Char) :
    withoutBlankTail (s ++ c :: rest) = s ++ c :: withoutBlankTail rest := by
  have hrev : (s ++ c :: rest).reverse.dropWhile isAsciiBlank
      = rest.reverse.dropWhile isAsciiBlank ++ c :: s.reverse := by
    rw [← dropWhile_append_cons hblank]
    simp
  rw [withoutBlankTail, hrev, withoutBlankTail]
  -- a marker takes two characters, so what is left of `rest` is looked at down to its second one
  rcases rest.reverse.dropWhile isAsciiBlank with _ | ⟨x, _ | ⟨y, left⟩⟩
  · split
    · next h => exact absurd (List.cons.inj h).1 hslash
    · simp
  · split
    · next h => exact absurd (List.cons.inj (List.cons.inj h).2).1 hslash
    · simp
  · by_cases hmarker : x = '/' ∧ y = '/'
    · obtain ⟨rfl, rfl⟩ := hmarker
      show ((left ++ c :: s.reverse).dropWhile isAsciiBlank).reverse = _
      rw [dropWhile_append_cons hblank]
      simp
    · split
      · next h =>
        simp only [List.cons_append, List.cons.injEq] at h
        exact absurd ⟨h.1, h.2.1⟩ hmarker
      · split
        · next h =>
          simp only [List.cons.injEq] at h
          exact absurd ⟨h.1, h.2.1⟩ hmarker
        · simp

/-- A text that ends in neither a blank nor a slash stays as it is. -/
lemma withoutBlankTail_concat (s : List Char) {c : Char} (hblank : isAsciiBlank c = false)
    (hslash : c ≠ '/') : withoutBlankTail (s ++ [c]) = s ++ [c] :=
  withoutBlankTail_append_cons s hblank hslash []

/-- The tail of a comment ends behind its keyword at the latest. -/
lemma withoutBlankTail_of_keyword (lead rest : List Char) :
    withoutBlankTail (marker ++ (lead ++ (keyword ++ rest)))
      = marker ++ (lead ++ (keyword ++ withoutBlankTail rest)) := by
  have hcut := withoutBlankTail_append_cons (marker ++ (lead ++ ['n', 'o', 'l', 'i', 'n']))
    (c := 't') (by decide) (by decide) rest
  simp only [List.append_assoc] at hcut
  exact hcut

/-- One marker at the end goes, with the blanks in front of it. -/
lemma withoutBlankTail_marker (s : List Char) :
    withoutBlankTail (s ++ marker) = trimEnd isAsciiBlank s := by
  have hrev : (s ++ marker).reverse.dropWhile isAsciiBlank = '/' :: '/' :: s.reverse := by
    rw [List.reverse_append]
    rfl
  rw [withoutBlankTail, hrev]
  rfl

/-- **What is left ends where a text is trimmed**: the text itself, or what stands in front of the
marker that it ends in. -/
lemma withoutBlankTail_cases (s : List Char) :
    withoutBlankTail s = trimEnd isAsciiBlank s ∨
      ∃ front, trimEnd isAsciiBlank s = front ++ marker ∧
        withoutBlankTail s = trimEnd isAsciiBlank front := by
  rw [withoutBlankTail]
  split
  · next rest hrest =>
    refine Or.inr ⟨rest.reverse, ?_, by rw [trimEnd, List.reverse_reverse]⟩
    rw [trimEnd, hrest]
    simp [marker]
  · exact Or.inl rfl

/-- Only what stands at the end is taken away. -/
lemma prefix_of_withoutBlankTail (s : List Char) : withoutBlankTail s <+: s := by
  rcases withoutBlankTail_cases s with h | ⟨front, hfront, h⟩
  · rw [h]
    exact prefix_of_trimEnd isAsciiBlank s
  · have hmarker : front <+: trimEnd isAsciiBlank s := ⟨marker, hfront.symm⟩
    rw [h]
    exact ((prefix_of_trimEnd isAsciiBlank front).trans hmarker).trans
      (prefix_of_trimEnd isAsciiBlank s)

/-! ## What is taken away -/

/-- **A blank tail**: blanks of the grammar, with one marker among them or none. -/
inductive IsBlankTail : List Char → Prop
  | blanks {pad : List Char} (hpad : pad.all isAsciiBlank = true) : IsBlankTail pad
  | marked {before behind : List Char} (hbefore : before.all isAsciiBlank = true)
      (hbehind : behind.all isAsciiBlank = true) : IsBlankTail (before ++ (marker ++ behind))

/-- What is taken away is a blank tail. -/
lemma exists_isBlankTail (s : List Char) :
    ∃ tail, s = withoutBlankTail s ++ tail ∧ IsBlankTail tail := by
  obtain ⟨pad, hpad, hs⟩ := exists_blanks_of_trimEnd isAsciiBlank s
  rcases withoutBlankTail_cases s with h | ⟨front, hfront, h⟩
  · exact ⟨pad, by rw [h, ← hs], .blanks hpad⟩
  · obtain ⟨before, hbefore, hbare⟩ := exists_blanks_of_trimEnd isAsciiBlank front
    refine ⟨before ++ (marker ++ pad), ?_, .marked hbefore hpad⟩
    rw [h, ← List.append_assoc, ← hbare, ← List.append_assoc, ← hfront, ← hs]

/-- Nothing of a blank tail is left, wherever it begins. -/
lemma prefix_of_isBlankTail (front : List Char) {tail : List Char}
    (htail : IsBlankTail tail) : withoutBlankTail (front ++ tail) <+: front := by
  cases htail with
  | blanks hpad =>
    rw [withoutBlankTail_append_blanks front hpad]
    exact prefix_of_withoutBlankTail front
  | @marked before behind hbefore hbehind =>
    have hassoc : front ++ (before ++ (marker ++ behind)) =
        front ++ before ++ marker ++ behind := by simp only [List.append_assoc]
    rw [hassoc, withoutBlankTail_append_blanks _ hbehind, withoutBlankTail_marker,
      trimEnd_append_blanks _ hbefore]
    exact prefix_of_trimEnd isAsciiBlank front

/-- What is left does not end in a blank. -/
lemma isAsciiBlank_eq_false_of_mem_getLast? {s : List Char} {c : Char}
    (h : c ∈ (withoutBlankTail s).getLast?) : isAsciiBlank c = false := by
  rcases withoutBlankTail_cases s with hs | ⟨front, -, hs⟩
  all_goals
    rw [hs] at h
    exact eq_false_of_mem_getLast?_trimEnd h

/-- Of two markers at the end, the first one stays. -/
lemma withoutBlankTail_two_markers (front : List Char) {pad pad' : List Char}
    (hpad : pad.all isAsciiBlank = true) (hpad' : pad'.all isAsciiBlank = true) :
    withoutBlankTail (front ++ (marker ++ (pad ++ (marker ++ pad')))) = front ++ marker := by
  have hassoc : front ++ (marker ++ (pad ++ (marker ++ pad'))) =
      front ++ ['/'] ++ ['/'] ++ pad ++ marker ++ pad' := by
    simp only [marker, List.append_assoc, List.cons_append, List.nil_append]
  rw [hassoc, withoutBlankTail_append_blanks _ hpad', withoutBlankTail_marker,
    trimEnd_append_blanks _ hpad, trimEnd_concat _ (by decide), List.append_assoc]
  rfl

/-- **The longest blank tail is taken away.**  Every text is what is left of it and a blank tail,
and any other blank tail of it begins further on.  So what is left does not end in a blank; and of
several markers at the end, with blanks around them or not, only the last one goes. -/
theorem longest_blank_tail_is_taken_away (s : List Char) :
    (∃ tail, s = withoutBlankTail s ++ tail ∧ IsBlankTail tail) ∧
      (∀ front tail, s = front ++ tail → IsBlankTail tail → withoutBlankTail s <+: front) ∧
      (∀ c ∈ (withoutBlankTail s).getLast?, isAsciiBlank c = false) ∧
      ∀ front pad pad', pad.all isAsciiBlank = true → pad'.all isAsciiBlank = true →
        s = front ++ (marker ++ (pad ++ (marker ++ pad'))) →
        withoutBlankTail s = front ++ marker := by
  refine ⟨exists_isBlankTail s, ?shortest, fun _ => isAsciiBlank_eq_false_of_mem_getLast?, ?once⟩
  case shortest =>
    rintro front tail rfl htail
    exact prefix_of_isBlankTail front htail
  case once =>
    rintro front pad pad' hpad hpad' rfl
    exact withoutBlankTail_two_markers front hpad hpad'

/-- Of two markers with a tab between them, the second one goes, with the tab. -/
theorem first_marker_of_two_stays :
    let s := "//nolint //\t// ".toList
    s = "//nolint //\t".toList ++ "// ".toList ∧ IsBlankTail "// ".toList ∧
      withoutBlankTail s <+: "//nolint //\t".toList ∧
      withoutBlankTail s = "//nolint //".toList := by
  obtain ⟨-, hshortest, -, honce⟩ := longest_blank_tail_is_taken_away "//nolint //\t// ".toList
  have htail : IsBlankTail "// ".toList := @IsBlankTail.marked [] [' '] rfl rfl
  exact ⟨rfl, htail, hshortest _ _ rfl htail,
    honce "//nolint ".toList ['\t'] [' '] rfl rfl rfl⟩

/-! ## On comments that follow the grammar -/

/-- A name ends the list that has no blanks behind it. -/
lemma intercalate_bared_concat : ∀ {ts : List Target}, (∀ t ∈ ts, t.WellFormed) → ts ≠ [] →
    ∃ front c, [','].intercalate ((bared ts).map Target.chars) = front ++ [c] ∧
      isNameChar c = true
  | [], _, hne => absurd rfl hne
  | [t], hwf, _ => by
      have ht := hwf t (List.mem_singleton_self t)
      rcases List.eq_nil_or_concat' t.name with hnil | ⟨front, c, hname⟩
      · exact absurd hnil ht.name_ne_nil
      · refine ⟨t.lead ++ front, c, ?_, ?_⟩
        · simp [bared, retrail, Target.chars, hname]
        · exact List.all_eq_true.mp ht.name_chars c (by simp [hname])
  | t :: u :: ts, hwf, _ => by
      have hne : u :: ts ≠ [] := List.cons_ne_nil u ts
      obtain ⟨front, c, hchars, hc⟩ :=
        intercalate_bared_concat (fun w hw => hwf w (List.mem_cons_of_mem t hw)) hne
      have hbared : bared (u :: ts) ≠ [] := retrail_ne_nil _ hne
      refine ⟨t.chars ++ [','] ++ front, c, ?_, hc⟩
      rw [bared, retrail, ← bared, List.map_cons,
        List.intercalate_cons_of_ne_nil (by simpa using hbared), hchars]
      simp only [List.append_assoc]

/-- Nothing but blanks of the grammar stands behind the second marker, if there is one. -/
def BlankRemark (s : List Char) : Prop :=
  ∀ rest ∈ afterSecondMarker s, rest.all isAsciiBlank = true

instance (s : List Char) : Decidable (BlankRemark s) :=
  inferInstanceAs (Decidable (∀ rest ∈ afterSecondMarker s, rest.all isAsciiBlank = true))

/-- The slash is not a Unicode blank. -/
lemma ne_slash_of_all_isBlank {line : List Char} {c : Char}
    (h : (line ++ [c]).all isBlank = true) : c ≠ '/' := by
  rintro rfl
  exact not_mem_of_all h (by decide) (List.mem_append_right line (List.mem_singleton_self '/'))

namespace Layout

/-- The comment up to its last word: the last linter it names, or the keyword. -/
def stem (l : Layout) : List Char :=
  marker ++ (l.lead ++ (keyword ++ listChars (bared l.targets)))

lemma WellFormed.stem_concat {l : Layout} (h : l.WellFormed) :
    ∃ front c, l.stem = front ++ [c] ∧ isNameChar c = true := by
  by_cases hts : l.targets = []
  · refine ⟨marker ++ (l.lead ++ ['n', 'o', 'l', 'i', 'n']), 't', ?_, by decide⟩
    rw [stem, hts]
    simp [bared, retrail, listChars, keyword]
  · obtain ⟨front, c, hchars, hc⟩ := intercalate_bared_concat h.targets_wf hts
    have hbared : bared l.targets ≠ [] := retrail_ne_nil _ hts
    refine ⟨marker ++ (l.lead ++ (keyword ++ (':' :: front))), c, ?_, hc⟩
    rw [stem, listChars_of_ne_nil hbared, hchars]
    simp only [List.append_assoc, List.cons_append]

/-- What stands in front of the second marker is the stem and blanks. -/
lemma marker_append_front (l : Layout) :
    marker ++ l.front = l.stem ++ (lastTrail l.targets ++ l.pad) := by
  rw [front, stem, listChars_eq_bared_append]
  simp only [List.append_assoc]

lemma WellFormed.trail_blank {l : Layout} (h : l.WellFormed) :
    (lastTrail l.targets ++ l.pad).all isAsciiBlank = true := by
  rw [List.all_append, lastTrail_blank h.targets_wf, h.pad_blank]
  rfl

lemma WellFormed.trimEnd_front {l : Layout} (h : l.WellFormed) :
    trimEnd isAsciiBlank (marker ++ l.front) = l.stem := by
  obtain ⟨front, c, hstem, hc⟩ := h.stem_concat
  rw [marker_append_front, trimEnd_append_blanks _ h.trail_blank, hstem,
    trimEnd_concat front (isAsciiBlank_eq_false_of_isNameChar hc)]

lemma WellFormed.withoutBlankTail_front {l : Layout} (h : l.WellFormed) :
    withoutBlankTail (marker ++ l.front) = l.stem := by
  obtain ⟨front, c, hstem, hc⟩ := h.stem_concat
  have hslash : c ≠ '/' := by
    rintro rfl
    exact absurd hc (by decide)
  rw [marker_append_front, withoutBlankTail_append_blanks _ h.trail_blank, hstem,
    withoutBlankTail_concat front (isAsciiBlank_eq_false_of_isNameChar hc) hslash]

/-- **The comment is cut behind its last word** if only blanks of the grammar stand behind the
second marker. -/
lemma WellFormed.withoutBlankTail_of_blankRemark {l : Layout} (h : l.WellFormed)
    (hblank : BlankRemark l.chars) : withoutBlankTail l.chars = l.stem := by
  rcases h.remark_cases with ⟨-, hnil⟩ | ⟨line, hexpl, -, hrem⟩
  · rw [chars_eq, hnil, List.append_nil, h.withoutBlankTail_front]
  · have hafter := h.afterSecondMarker_of_line hexpl
    have hchars : l.chars = marker ++ l.front ++ marker ++ (line ++ l.tail) := by
      rw [chars_eq, hrem]
      simp only [List.append_assoc]
    rw [hchars, withoutBlankTail_append_blanks _ (hblank _ hafter), withoutBlankTail_marker,
      h.trimEnd_front]

/-- **Otherwise the second marker stays**: behind it stands a blank that the grammar does not know,
and only blanks of the grammar follow the last one of these. -/
lemma WellFormed.exists_kept_line {l : Layout} (h : l.WellFormed) (hun : Unexplained l.chars)
    (hblank : ¬ BlankRemark l.chars) :
    ∃ line c pad, '\n' ∉ line ++ [c] ∧ (line ++ [c]).all isBlank = true ∧ isAsciiBlank c = false ∧
      pad.all isAsciiBlank = true ∧
      l.chars = marker ++ (l.front ++ (marker ++ line)) ++ [c] ++ pad := by
  rcases h.remark_cases with ⟨hexpl, -⟩ | ⟨line, hexpl, hlf, hrem⟩
  · refine absurd (fun rest hrest => ?_) hblank
    rw [h.afterSecondMarker_of_nil hexpl] at hrest
    cases hrest
  · have hafter := h.afterSecondMarker_of_line hexpl
    obtain ⟨pad, hpad, hline⟩ := exists_blanks_of_trimEnd isAsciiBlank line
    have hend : (pad ++ l.tail).all isAsciiBlank = true := by
      rw [List.all_append, hpad, h.tail_blank]
      rfl
    rcases trimEnd_eq_nil_or_concat isAsciiBlank line with hnil | ⟨kept, c, hkept, hc⟩
    · refine absurd (fun rest hrest => ?_) hblank
      rw [hafter, Option.mem_some_iff] at hrest
      rwa [← hrest, hline, hnil, List.nil_append]
    · rw [hkept] at hline
      have hmem : ∀ x ∈ kept ++ [c], x ∈ line := fun x hx => hline ▸ List.mem_append_left pad hx
      refine ⟨kept, c, pad ++ l.tail, fun hmem' => hlf (hmem _ hmem'), ?_, hc, hend, ?_⟩
      · exact List.all_eq_true.mpr fun x hx =>
          List.all_eq_true.mp (hun _ hafter) x (List.mem_append_left l.tail (hmem x hx))
      · rw [chars_eq, hrem, hline]
        simp only [List.append_assoc]

/-- **What is left of an unexplained directive**: its stem; or everything up to the last blank
behind the second marker that the grammar does not know. -/
theorem WellFormed.withoutBlankTail_chars {l : Layout} (h : l.WellFormed)
    (hun : Unexplained l.chars) :
    withoutBlankTail l.chars = l.stem ∨
      ∃ line, '\n' ∉ line ∧
        withoutBlankTail l.chars = marker ++ (l.front ++ (marker ++ line)) := by
  by_cases hblank : BlankRemark l.chars
  · exact Or.inl (h.withoutBlankTail_of_blankRemark hblank)
  · obtain ⟨line, c, pad, hlf, hunicode, hc, hpad, hchars⟩ := h.exists_kept_line hun hblank
    refine Or.inr ⟨line ++ [c], hlf, ?_⟩
    rw [hchars, withoutBlankTail_append_blanks _ hpad,
      withoutBlankTail_concat _ hc (ne_slash_of_all_isBlank hunicode)]
    simp only [List.append_assoc]

end Layout

end DirectiveLint.Directive
