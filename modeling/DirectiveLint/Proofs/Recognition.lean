import DirectiveLint.Proofs.Grammar

/-!
# What the permissive tier sees

The functions of `Directive.Recognition` look at any comment.  This module says what they see, in
two groups.

**Comments that resemble a directive.**  `resembles_iff` takes such a comment apart: the marker,
blanks, the keyword, and a rest that does not go on with a name character.  The rest says all else:
the list begins at its first colon (`listed_of_keyword`), and what is `stray` in front of that gets
into the normal form (`normalForm_of_keyword`).

**Comments that follow the grammar.**  On the comment of a layout every one of these functions gives
the piece of the layout that it is after: the blanks (`leadingBlanks_chars`), the linters
(`listed_chars`) and, as only blanks are stray (`stray_rest`), the keyword alone behind at most one
space (`normalForm_chars`).  A comment that follows the grammar is never filtered out
(`resembles_chars`).
-/

namespace DirectiveLint.Directive

open Text

/-! ## Comments that resemble a directive -/

lemma isPrefixOf?_append (word rest : List Char) : word.isPrefixOf? (word ++ rest) = some rest :=
  List.isPrefixOf?_eq_some_iff_append_eq.mpr rfl

lemma leadingBlanks_marker_append (rest : List Char) :
    leadingBlanks (marker ++ rest) = rest.takeWhile isAsciiBlank := by
  rw [leadingBlanks, isPrefixOf?_append]

/-- **Taking apart what resembles a directive.** -/
theorem resembles_iff {s : List Char} :
    resembles s = true ↔ ∃ lead rest, lead.all isAsciiBlank = true ∧
      s = marker ++ (lead ++ (keyword ++ rest)) ∧ ∀ c ∈ rest.head?, isNameChar c = false := by
  constructor
  · intro h
    rw [resembles] at h
    split at h
    · cases h
    · next after hafter =>
      rw [opensDirective] at h
      have hs : marker ++ after = s := List.isPrefixOf?_eq_some_iff_append_eq.mp hafter
      have hcut := takeWhile_append_trimStart isAsciiBlank after
      refine ⟨after.takeWhile isAsciiBlank, ?_⟩
      split at h
      · cases h
      · next hkeyword =>
        rw [List.isPrefixOf?_eq_some_iff_append_eq] at hkeyword
        exact ⟨[], List.all_takeWhile, by rw [hkeyword, hcut, hs], by simp⟩
      · next c rest hkeyword =>
        rw [List.isPrefixOf?_eq_some_iff_append_eq] at hkeyword
        refine ⟨c :: rest, List.all_takeWhile, by rw [hkeyword, hcut, hs], ?_⟩
        intro x hx
        obtain rfl : c = x := Option.some.inj hx
        simpa using h
  · rintro ⟨lead, rest, hlead, rfl, hrest⟩
    rw [resembles, isPrefixOf?_append]
    dsimp only
    rw [opensDirective, trimStart, dropWhile_run hlead (head?_keyword_append (by decide) rest),
      isPrefixOf?_append]
    cases rest with
    | nil => rfl
    | cons c rest =>
        have hc := hrest c rfl
        show (!isNameChar c) = true
        rw [hc]
        rfl

/-- The blanks of such a comment are those in front of the keyword. -/
lemma leadingBlanks_of_keyword {lead : List Char} (hlead : lead.all isAsciiBlank = true)
    (rest : List Char) : leadingBlanks (marker ++ (lead ++ (keyword ++ rest))) = lead := by
  rw [leadingBlanks_marker_append, takeWhile_run hlead (head?_keyword_append (by decide) rest)]

/-- Blanks and the letters of the keyword are all that stands in front of the rest. -/
lemma not_mem_lead_keyword {lead : List Char} (hlead : lead.all isAsciiBlank = true) {c : Char}
    (hblank : isAsciiBlank c = false) (hkeyword : c ∉ keyword) : c ∉ lead ++ keyword := by
  rw [List.mem_append, not_or]
  exact ⟨not_mem_of_all hlead hblank, hkeyword⟩

lemma all_bne_colon_of_keyword {lead : List Char} (hlead : lead.all isAsciiBlank = true) :
    ∀ c ∈ lead ++ keyword, (c != ':') = true :=
  List.all_eq_true.mp (all_bne_of_not_mem (not_mem_lead_keyword hlead (by decide) (by decide)))

/-- **The body goes on behind the keyword** up to the next marker. -/
lemma body_of_keyword {lead : List Char} (hlead : lead.all isAsciiBlank = true)
    (rest : List Char) :
    body (marker ++ (lead ++ (keyword ++ rest))) = lead ++ keyword ++ (cutAtMarker rest).1 := by
  have hslash : '/' ∉ lead ++ keyword := not_mem_lead_keyword hlead (by decide) (by decide)
  rw [body, cutAtMarker_marker_append, ← List.append_assoc]
  dsimp only
  rw [cutAtMarker_append (marker_not_infix_append hslash rest)]

/-- The scan for linters does not see the blanks in front of the keyword. -/
lemma listed_of_keyword {lead : List Char} (hlead : lead.all isAsciiBlank = true)
    (rest : List Char) :
    listed (marker ++ (lead ++ (keyword ++ rest))) = listed (marker ++ (keyword ++ rest)) := by
  have hclosed : body (marker ++ (keyword ++ rest)) = [] ++ keyword ++ (cutAtMarker rest).1 :=
    @body_of_keyword [] rfl rest
  rw [listed, listed, body_of_keyword hlead, hclosed,
    List.dropWhile_append_of_pos (all_bne_colon_of_keyword hlead),
    List.dropWhile_append_of_pos (@all_bne_colon_of_keyword [] rfl)]

/-- What stands between the keyword and the next colon or marker, or the end. -/
def stray (rest : List Char) : List Char :=
  (cutAtMarker rest).1.takeWhile (· != ':')

lemma head_of_keyword {lead : List Char} (hlead : lead.all isAsciiBlank = true)
    (rest : List Char) :
    head (marker ++ (lead ++ (keyword ++ rest))) = lead ++ keyword ++ stray rest := by
  rw [head, body_of_keyword hlead, List.takeWhile_append_of_pos (all_bne_colon_of_keyword hlead),
    stray]

/-- One space stands in front of the keyword, or of the explanation, if anything stood there. -/
lemma all_one_space (lead : List Char) :
    (if lead = [] then [] else [' ']).all isAsciiBlank = true := by
  split <;> rfl

/-- **The normal form is the keyword with all that stands up to the next colon or marker**, blanks
at its end apart. -/
theorem normalForm_of_keyword {lead : List Char} (hlead : lead.all isAsciiBlank = true)
    (rest : List Char) :
    normalForm (marker ++ (lead ++ (keyword ++ rest))) = marker ++
      ((if lead = [] then [] else [' ']) ++ (keyword ++ trimEnd isBlank (stray rest))) := by
  have htrim : trim isBlank (lead ++ keyword ++ stray rest)
      = keyword ++ trimEnd isBlank (stray rest) := by
    rw [trim, List.append_assoc, trimStart, dropWhile_run (all_isBlank_of_all_isAsciiBlank hlead)
      (head?_keyword_append (by decide) (stray rest))]
    exact trimEnd_append_cons ['n', 'o', 'l', 'i', 'n'] (by decide) (stray rest)
  rw [normalForm, leadingBlanks_of_keyword hlead, head_of_keyword hlead, htrim]
  simp only [List.isEmpty_iff, List.append_assoc]

namespace Layout

/-! ## Comments that follow the grammar -/

/-- What follows the keyword in the comment of a layout. -/
def rest (l : Layout) : List Char :=
  listChars l.targets ++ l.pad ++ l.remark

lemma chars_eq_rest (l : Layout) : l.chars = marker ++ (l.lead ++ (keyword ++ l.rest)) := by
  simp only [chars_eq, front, rest, List.append_assoc]

lemma WellFormed.leadingBlanks_chars {l : Layout} (h : l.WellFormed) :
    leadingBlanks l.chars = l.lead := by
  rw [chars_eq_rest, leadingBlanks_of_keyword h.lead_blank]

/-- The keyword is followed by the colon, a blank or the second marker, or by nothing. -/
lemma WellFormed.head?_rest {l : Layout} (h : l.WellFormed) :
    ∀ c ∈ l.rest.head?, isNameChar c = false := by
  intro c hc
  rw [rest] at hc
  -- the first piece that is not empty decides: the list, the blanks, the second marker
  cases hts : l.targets with
  | cons t ts =>
      rw [hts, listChars_of_ne_nil (List.cons_ne_nil t ts)] at hc
      obtain rfl : ':' = c := Option.some.inj hc
      decide
  | nil =>
      rw [hts, listChars, List.nil_append] at hc
      cases hpad : l.pad with
      | cons b pad =>
          rw [hpad] at hc
          obtain rfl : b = c := Option.some.inj hc
          have hblank := h.pad_blank
          rw [hpad, List.all_cons, Bool.and_eq_true] at hblank
          exact isNameChar_eq_false_of_isAsciiBlank hblank.1
      | nil =>
          rw [hpad, List.nil_append] at hc
          rcases h.remark_cases with ⟨-, hnil⟩ | ⟨line, -, -, hrem⟩
          · rw [hnil] at hc
            cases hc
          · rw [hrem] at hc
            obtain rfl : '/' = c := Option.some.inj hc
            decide

/-- **Nothing that follows the grammar is filtered out.** -/
theorem WellFormed.resembles_chars {l : Layout} (h : l.WellFormed) : resembles l.chars = true :=
  resembles_iff.mpr ⟨l.lead, l.rest, h.lead_blank, l.chars_eq_rest, h.head?_rest⟩

/-- **The scan finds the linters that the layout names.** -/
theorem WellFormed.listed_chars {l : Layout} (h : l.WellFormed) :
    listed l.chars = l.targets.map Target.name := by
  rw [listed, h.body_chars, front, List.append_assoc (l.lead ++ keyword),
    List.dropWhile_append_of_pos (all_bne_colon_of_keyword h.lead_blank)]
  cases hts : l.targets with
  | nil =>
      have hnil : l.pad.dropWhile (· != ':') = [] :=
        trimStart_eq_nil_of_all (all_bne_of_not_mem (not_mem_of_all h.pad_blank (by decide)))
      rw [listChars, List.nil_append, hnil]
      rfl
  | cons t ts =>
      have hne : retrail (· ++ l.pad) (t :: ts) ≠ [] := retrail_ne_nil _ (List.cons_ne_nil t ts)
      have hwf : ∀ u ∈ retrail (· ++ l.pad) (t :: ts), u.WellFormed :=
        wellFormed_retrail_append (hts ▸ h.targets_wf) h.pad_blank
      have htrim : ((retrail (· ++ l.pad) (t :: ts)).map Target.chars).map (trim isBlank)
          = (retrail (· ++ l.pad) (t :: ts)).map Target.name := by
        rw [List.map_map]
        exact List.map_congr_left fun u hu => Target.trim_chars (hwf u hu)
      rw [listChars_append_blanks (List.cons_ne_nil t ts), listChars_of_ne_nil hne]
      show (([','].intercalate ((retrail (· ++ l.pad) (t :: ts)).map Target.chars)).splitOn
        ',').map (trim isBlank) = _
      rw [Target.splitOn_intercalate_chars hwf hne, htrim, map_name_retrail]

/-- **Nothing but blanks is stray in a comment that follows the grammar.** -/
lemma WellFormed.stray_rest {l : Layout} (h : l.WellFormed) :
    (stray l.rest).all isAsciiBlank = true := by
  have hcut : (cutAtMarker l.rest).1 = listChars l.targets ++ l.pad := by
    have hbody := body_of_keyword h.lead_blank l.rest
    rw [← l.chars_eq_rest, h.body_chars, front, List.append_assoc (l.lead ++ keyword)] at hbody
    exact (List.append_cancel_left hbody).symm
  rw [stray, hcut]
  cases hts : l.targets with
  | nil =>
      rw [listChars, List.nil_append, List.all_eq_true]
      exact fun c hc => List.all_eq_true.mp h.pad_blank c (List.takeWhile_sublist _ |>.subset hc)
  | cons t ts =>
      rw [listChars_of_ne_nil (List.cons_ne_nil t ts)]
      rfl

/-- **The normal form is the keyword** behind the marker, with a space between them if there is any
blank. -/
theorem WellFormed.normalForm_chars {l : Layout} (h : l.WellFormed) :
    normalForm l.chars = marker ++ (if l.lead.isEmpty then [] else [' ']) ++ keyword := by
  rw [chars_eq_rest, normalForm_of_keyword h.lead_blank,
    trimEnd_eq_nil_iff.mpr (all_isBlank_of_all_isAsciiBlank h.stray_rest)]
  simp only [List.isEmpty_iff, List.append_assoc, List.append_nil]

end Layout

/-- The blanks that are read are those that any comment is looked at for. -/
lemma leading_of_read {comment : Comment} {d : Directive} (h : read comment = .ok d) :
    d.leading.toList = leadingBlanks comment.text.toList := by
  obtain ⟨l, hwf, hchars, -, rfl⟩ := exists_layout_of_read h
  rw [← hchars, hwf.leadingBlanks_chars, ofLayout, String.toList_ofList]

end DirectiveLint.Directive
