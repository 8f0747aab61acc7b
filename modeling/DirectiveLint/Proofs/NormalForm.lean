import DirectiveLint.Proofs.Recognition

/-!
# The normal form

Three cuts make a normal form: the head is cut out of the comment at markers and a colon, it is
trimmed of Unicode blanks, and the blanks of the grammar behind the first marker come to one space
or none.  This module shows that no cut undoes another, so a normal form is a comment that is its
own normal form.

* `not_mem_head`, `marker_not_infix_head` — **the head holds neither a colon nor a marker**, and a
  text that does not is its own head (`head_marker_append`).
* `Text.trim_blanks_append_trim` — trimming a second time takes off the space and no more.
* `resembles_normalForm` — the keyword stays where it is.
* `normal_form_stays_as_it_is` — **a normal form is kept**, it begins with the blanks that the
  comment comes to, and for a comment that follows the grammar it is the bare keyword.
-/

namespace DirectiveLint.Text

variable {blank : Char → Bool}

/-- What is trimmed does not begin with a blank. -/
lemma eq_false_of_mem_head?_trim {s : List Char} {c : Char} (h : c ∈ (trim blank s).head?) :
    blank c = false := by
  obtain ⟨pad, hpad⟩ := prefix_of_trimEnd blank (trimStart blank s)
  have hstart : c ∈ (s.dropWhile blank).head? := by
    rw [← trimStart, ← hpad]
    exact List.mem_head?_append_of_mem_head? h
  have hhead := List.head?_dropWhile_not blank s
  rw [Option.mem_def.mp hstart] at hhead
  simpa using hhead

/-- **Trimming a second time takes off no more** than the blanks that were put in front. -/
lemma trim_blanks_append_trim {lead : List Char} (hlead : lead.all blank = true) (s : List Char) :
    trim blank (lead ++ trim blank s) = trim blank s := by
  have hstart : trimStart blank (lead ++ trim blank s) = trim blank s :=
    dropWhile_run hlead fun _ hc => eq_false_of_mem_head?_trim hc
  rw [trim, hstart]
  exact List.rdropWhile_idempotent blank (trimStart blank s)

end DirectiveLint.Text

namespace DirectiveLint.Directive

open Text

/-! ## What is a head -/

lemma colon_not_mem_head (s : List Char) : ':' ∉ head s :=
  not_mem_of_all List.all_takeWhile (by decide)

/-- No marker stands in the head, as the body ends at the next one. -/
lemma marker_not_infix_head (s : List Char) : ¬ marker <:+: head s := by
  have hbody : ¬ marker <:+: body s := by
    rw [body]
    split
    · simp [marker]
    · exact marker_not_infix_cutAtMarker _
  exact fun hmarker => hbody (hmarker.trans (List.takeWhile_prefix _).isInfix)

/-- **A text with neither a marker nor a colon is its own head** behind a marker. -/
lemma head_marker_append {s : List Char} (hmarker : ¬ marker <:+: s) (hcolon : ':' ∉ s) :
    head (marker ++ s) = s := by
  rw [head, body, cutAtMarker_marker_append]
  dsimp only
  rw [cutAtMarker_of_no_marker hmarker]
  exact List.takeWhile_eq_self_iff.mpr (List.all_eq_true.mp (all_bne_of_not_mem hcolon))

/-! ## The normal form of a normal form -/

/-- The space in front of a head makes no marker. -/
lemma marker_not_infix_space_append (lead : List Char) {s : List Char} (h : ¬ marker <:+: s) :
    ¬ marker <:+: (if lead = [] then [] else [' ']) ++ s := by
  split
  · exact h
  · intro hspace
    rcases List.infix_cons_iff.mp hspace with hfront | hrest
    · exact absurd (List.cons_prefix_cons.mp hfront).1 (by decide)
    · exact h hrest

lemma normalForm_eq (s : List Char) : normalForm s =
    marker ++ ((if leadingBlanks s = [] then [] else [' ']) ++ trim isBlank (head s)) := by
  simp only [normalForm, List.isEmpty_iff, List.append_assoc]

lemma leadingBlanks_normalForm (s : List Char) :
    leadingBlanks (normalForm s) = if leadingBlanks s = [] then [] else [' '] := by
  have hhead : ∀ c ∈ (trim isBlank (head s)).head?, isAsciiBlank c = false := by
    intro c hc
    rw [Bool.eq_false_iff]
    exact fun hblank =>
      Bool.eq_false_iff.mp (eq_false_of_mem_head?_trim hc) (isBlank_of_isAsciiBlank hblank)
  rw [normalForm_eq, leadingBlanks_marker_append, takeWhile_run (all_one_space _) hhead]

lemma head_normalForm (s : List Char) : head (normalForm s) =
    (if leadingBlanks s = [] then [] else [' ']) ++ trim isBlank (head s) := by
  have hpart := infix_of_trim isBlank (head s)
  rw [normalForm_eq]
  refine head_marker_append ?_ ?_
  · exact marker_not_infix_space_append _ fun h => marker_not_infix_head s (h.trans hpart)
  · rw [List.mem_append, not_or]
    refine ⟨not_mem_of_all (all_one_space _) (by decide), fun h => ?_⟩
    exact colon_not_mem_head s (hpart.subset h)

/-- **A normal form is its own normal form.** -/
lemma normalForm_normalForm (s : List Char) : normalForm (normalForm s) = normalForm s := by
  rw [normalForm_eq (normalForm s), leadingBlanks_normalForm, head_normalForm,
    trim_blanks_append_trim (all_isBlank_of_all_isAsciiBlank (all_one_space _)), normalForm_eq s]
  by_cases h : leadingBlanks s = [] <;> simp [h]

/-! ## Comments that resemble a directive -/

/-- What is stray stands right behind the keyword. -/
lemma prefix_of_stray (rest : List Char) : stray rest <+: rest :=
  (List.takeWhile_prefix _).trans (prefix_of_cutAtMarker rest)

/-- **The normal form of a candidate is a candidate**: the character behind the keyword is the one
that was there, or there is none. -/
lemma resembles_normalForm {s : List Char} (h : resembles s = true) :
    resembles (normalForm s) = true := by
  obtain ⟨lead, rest, hlead, rfl, hrest⟩ := resembles_iff.mp h
  obtain ⟨behind, hbehind⟩ := (prefix_of_trimEnd isBlank (stray rest)).trans (prefix_of_stray rest)
  rw [normalForm_of_keyword hlead]
  refine resembles_iff.mpr ⟨_, _, all_one_space lead, rfl, fun c hc => hrest c ?_⟩
  rw [← hbehind]
  exact List.mem_head?_append_of_mem_head? hc

/-- The normal form of what was read is the keyword. -/
lemma normalForm_of_read {comment : Comment} {d : Directive} (h : read comment = .ok d) :
    normalForm comment.text.toList =
      if d.leading = "" then "//nolint".toList else "// nolint".toList := by
  obtain ⟨l, hwf, hchars, -, rfl⟩ := exists_layout_of_read h
  rw [← hchars, hwf.normalForm_chars, ofLayout]
  by_cases hlead : l.lead = []
  · simp [hlead, marker, keyword]
  · simp [hlead, marker, keyword]

/-- **A normal form stays as it is.**  It is its own normal form, and begins with one space where
the comment has any blanks behind its marker and with none otherwise.  The normal form of a comment
that resembles a directive resembles one, and the normal form of a comment that follows the grammar
is the keyword alone. -/
theorem normal_form_stays_as_it_is (s : List Char) :
    normalForm (normalForm s) = normalForm s ∧
      leadingBlanks (normalForm s) = (if leadingBlanks s = [] then [] else [' ']) ∧
      (resembles s = true → resembles (normalForm s) = true) ∧
      ∀ comment d, comment.text.toList = s → read comment = .ok d →
        normalForm s = if d.leading = "" then "//nolint".toList else "// nolint".toList := by
  refine ⟨normalForm_normalForm s, leadingBlanks_normalForm s, resembles_normalForm, ?_⟩
  rintro comment d rfl hread
  exact normalForm_of_read hread

/-- A tab and a space come to one space, and the linter and the explanation are left out. -/
theorem normal_form_behind_tab :
    let s := "//\t nolint:a // why".toList
    resembles s = true ∧ resembles (normalForm s) = true ∧ normalForm s = "// nolint".toList := by
  obtain ⟨-, -, hresembles, hread⟩ := normal_form_stays_as_it_is "//\t nolint:a // why".toList
  exact ⟨rfl, hresembles rfl, hread { text := "//\t nolint:a // why" } _ rfl rfl⟩

/-- Trimming may leave a slash right behind the marker. -/
example : normalForm "//\u00a0/ y //z".toList = "/// y".toList := by
  decide

end DirectiveLint.Directive
