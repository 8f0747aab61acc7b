import DirectiveLint.Proofs.Classification

/-!
# The shape that is advised

A malformed comment is told what it should match: its normal form, which a list of linters and an
explanation may follow.  The normal form takes the comment from its marker up to the next colon or
marker, so what stands there besides the keyword is advised along with it.

* `stray_append` — a line that goes on behind the normal form keeps what is stray in it.
* `trimEnd_stray` — the blanks at the end apart, what is stray is in the form as it stands.
* `read_shaped`, `read_shaped_of_stray` — hence a line in the shape is read if its form is the bare
  keyword, and malformed if anything else is stray in its form.
* `read_advised`, `read_advised_of_stray` — the same for the form that an issue shows.
* `advised_shape_is_read_unless_stray` — **the advised shape follows the grammar if nothing but
  blanks is stray in the comment, and no line in it does otherwise**.

`stray_word_is_advised` is a comment whose own text is the form that it is told to match.
-/

namespace DirectiveLint

open Text

namespace Directive

/-! ## What is stray -/

/-- A line goes on with what is stray in it, as long as it ends in no half of a marker. -/
lemma stray_append {s t : List Char} (hmarker : ¬ marker <:+: s ++ t.take 1) (hcolon : ':' ∉ s) :
    stray (s ++ t) = s ++ stray t := by
  rw [stray, cutAtMarker_append hmarker,
    List.takeWhile_append_of_pos (List.all_eq_true.mp (all_bne_of_not_mem hcolon)), stray]

/-- What is stray holds neither a colon nor a marker, and what is left of it without the blanks at
its end does not, either. -/
lemma trimEnd_stray (rest : List Char) :
    ':' ∉ trimEnd isBlank (stray rest) ∧ ¬ marker <:+: trimEnd isBlank (stray rest) := by
  obtain ⟨pad, -, hpad⟩ := exists_blanks_of_trimEnd isBlank (stray rest)
  have hpart : trimEnd isBlank (stray rest) <+: stray rest := ⟨pad, hpad.symm⟩
  refine ⟨fun hmem => ?_, fun hmarker => ?_⟩
  · exact not_mem_of_all (p := (· != ':')) List.all_takeWhile (by decide) (hpart.subset hmem)
  · exact marker_not_infix_cutAtMarker rest
      ((hmarker.trans hpart.isInfix).trans (List.takeWhile_prefix _).isInfix)

/-- Only blanks are taken off the end, so what is left tells whether anything else is stray. -/
lemma all_isBlank_of_trimEnd {s : List Char}
    (h : (trimEnd isBlank s).all isAsciiBlank = true) : s.all isBlank = true := by
  obtain ⟨pad, hpad, hs⟩ := exists_blanks_of_trimEnd isBlank s
  rw [hs, List.all_append, all_isBlank_of_all_isAsciiBlank h, hpad]
  rfl

/-! ## Lines in the shape -/

/-- What may follow the form in the advised shape: a list of linters, and behind a space an
explanation.  Either of the two may be missing. -/
def options (ts : List Target) (explanation : List Char) : List Char :=
  Layout.listChars ts ++ if explanation = [] then [] else ' ' :: explanation

lemma head?_options (ts : List Target) (explanation : List Char) :
    ∀ c ∈ (options ts explanation).head?, c ≠ '/' := by
  intro c hc
  rw [options] at hc
  cases ts with
  | cons t ts =>
      obtain rfl : ':' = c := Option.some.inj hc
      decide
  | nil =>
      rw [Layout.listChars, List.nil_append] at hc
      split at hc
      · cases hc
      · obtain rfl : ' ' = c := Option.some.inj hc
        decide

/-- **A line in the shape is read** if its form is the keyword behind blanks. -/
lemma read_shaped {comment : Comment} {lead : List Char} {ts : List Target}
    {explanation : List Char} (hlead : lead.all isAsciiBlank = true)
    (hts : ∀ t ∈ ts, t.WellFormed) (hexplanation : Layout.IsExplanation explanation)
    (htext : comment.text.toList = marker ++ (lead ++ keyword) ++ options ts explanation) :
    ∃ d, read comment = .ok d ∧ d.linters = ts.map (fun t => String.ofList t.name) ∧
      d.explanation = String.ofList explanation := by
  have hwf : (⟨lead, ts, if explanation = [] then [] else [' '], explanation, []⟩ :
      Layout).WellFormed := ⟨hlead, hts, all_one_space explanation, hexplanation, rfl⟩
  refine ⟨_, read_of_chars hwf ?_ rfl, rfl, rfl⟩
  rw [htext, options, Layout.chars]
  by_cases hnil : explanation = []
  · simp [hnil]
  · simp [hnil]

/-- **It is not read if anything else is stray in it**, whatever follows its form. -/
lemma read_shaped_of_stray {comment : Comment} {lead stray' : List Char} {ts : List Target}
    {explanation : List Char} (hlead : lead.all isAsciiBlank = true) (hcolon : ':' ∉ stray')
    (hmarker : ¬ marker <:+: stray') (hstray : ¬ stray'.all isAsciiBlank = true)
    (htext : comment.text.toList =
      marker ++ (lead ++ (keyword ++ stray')) ++ options ts explanation) :
    read comment = .error ⟨comment.text⟩ := by
  refine read_of_no_layout ?_
  rintro ⟨l, hwf, hchars⟩
  have hsplit : l.chars = marker ++ (lead ++ (keyword ++ (stray' ++ options ts explanation))) := by
    rw [hchars, htext]
    simp only [List.append_assoc]
  have hl : l.lead = lead := by
    rw [← hwf.leadingBlanks_chars, hsplit, leadingBlanks_of_keyword hlead]
  rw [l.chars_eq_rest, hl] at hsplit
  have hrest := List.append_cancel_left (List.append_cancel_left (List.append_cancel_left hsplit))
  have hblank := hwf.stray_rest
  rw [hrest, stray_append (marker_not_infix_append_of_head? hmarker (head?_options _ _)) hcolon,
    List.all_append, Bool.and_eq_true] at hblank
  exact hstray hblank.1

end Directive

open Directive

/-! ## What is advised -/

/-- A line in the shape that the issue advises. -/
def Issue.advised (issue : Issue) (ts : List Target) (explanation : List Char) : String :=
  issue.canonical ++ String.ofList (options ts explanation)

lemma Issue.advised_nil (issue : Issue) : issue.advised [] [] = issue.canonical :=
  String.append_empty

section Advised

variable {comment : Comment} {lead rest : List Char} (finding : Finding)
  (hlead : lead.all isAsciiBlank = true)
  (htext : comment.text.toList = marker ++ (lead ++ (keyword ++ rest)))
include hlead htext

/-- The form in front of the line is the keyword with what is stray behind it. -/
lemma toList_advised (ts : List Target) (explanation : List Char) :
    ((Issue.about comment finding).advised ts explanation).toList =
      marker ++ ((if lead = [] then [] else [' ']) ++ (keyword ++ trimEnd isBlank (stray rest))) ++
        options ts explanation := by
  rw [Issue.advised, Issue.about, String.toList_append, String.toList_ofList, String.toList_ofList,
    htext, normalForm_of_keyword hlead]

lemma canonical_of_blank_stray (hblank : (stray rest).all isBlank = true) :
    (Issue.about comment finding).canonical = if lead = [] then "//nolint" else "// nolint" := by
  rw [← String.toList_inj, ← Issue.advised_nil, toList_advised finding hlead htext,
    trimEnd_eq_nil_iff.mpr hblank]
  split <;> rfl

lemma read_advised (hblank : (stray rest).all isBlank = true) {ts : List Target}
    {explanation : List Char} (hts : ∀ t ∈ ts, t.WellFormed)
    (hexplanation : Layout.IsExplanation explanation) :
    ∃ d, read { comment with text := (Issue.about comment finding).advised ts explanation } =
        .ok d ∧
      d.linters = ts.map (fun t => String.ofList t.name) ∧
      d.explanation = String.ofList explanation := by
  refine read_shaped (all_one_space lead) hts hexplanation ?_
  rw [toList_advised finding hlead htext, trimEnd_eq_nil_iff.mpr hblank, List.append_nil]

lemma read_advised_of_stray (hstray : ¬ (stray rest).all isBlank = true) (ts : List Target)
    (explanation : List Char) :
    read { comment with text := (Issue.about comment finding).advised ts explanation } =
      .error ⟨(Issue.about comment finding).advised ts explanation⟩ :=
  read_shaped_of_stray (all_one_space lead) (trimEnd_stray rest).1 (trimEnd_stray rest).2
    (fun hblank => hstray (all_isBlank_of_trimEnd hblank))
    (toList_advised finding hlead htext ts explanation)

end Advised

/-- **The advised shape is read unless anything is stray in the comment.**  The message of a
malformed comment shows the normal form, and behind it what may follow.  If nothing but blanks
stands between the keyword and the next colon or marker, the form is the keyword with at most one
space in front, and every line in the shape is read as it is meant, the form itself included.  If
anything else stands there, the form holds it too, and no line in the shape is read. -/
theorem advised_shape_is_read_unless_stray {config : RuleConfig} {comment : Comment} {issue : Issue}
    (hissue : issue ∈ review config comment) (hfinding : issue.finding = .malformed) :
    issue.details = "directive " ++ Issue.code comment.text ++ " should match " ++
      Issue.code (issue.canonical ++ "[:<comma-separated-linters>] [// <explanation>]") ∧
    (∃ lead rest, lead.all isAsciiBlank = true ∧
      comment.text.toList = marker ++ (lead ++ (keyword ++ rest))) ∧
    ∀ lead rest, lead.all isAsciiBlank = true →
      comment.text.toList = marker ++ (lead ++ (keyword ++ rest)) →
      ((∃ d, read { comment with text := issue.canonical } = .ok d) ↔
        (stray rest).all isBlank = true) ∧
      ((stray rest).all isBlank = true →
        issue.canonical = (if lead = [] then "//nolint" else "// nolint") ∧
        ∀ ts explanation, (∀ t ∈ ts, t.WellFormed) → Layout.IsExplanation explanation →
          ∃ d, read { comment with text := issue.advised ts explanation } = .ok d ∧
            d.linters = ts.map (fun t => String.ofList t.name) ∧
            d.explanation = String.ofList explanation) ∧
      (¬ (stray rest).all isBlank = true → ∀ ts explanation,
        ∃ e, read { comment with text := issue.advised ts explanation } = .error e) := by
  obtain ⟨finding, hmem, rfl⟩ := List.mem_map.mp hissue
  obtain rfl : finding = .malformed := hfinding
  refine ⟨by simp [Issue.details, Issue.about, String.append_assoc], ?resembling,
    fun lead rest hlead htext => ⟨⟨?only, ?form⟩, ?blank, ?stray⟩⟩
  case resembling =>
    obtain ⟨lead, rest, hlead, htext, -⟩ := resembles_iff.mp (mem_findings_cases hmem).1
    exact ⟨lead, rest, hlead, htext⟩
  case only =>
    rintro ⟨d, hd⟩
    by_contra hstray
    have herror := read_advised_of_stray .malformed hlead htext hstray [] []
    rw [Issue.advised_nil, hd] at herror
    cases herror
  case form =>
    intro hblank
    obtain ⟨d, hd, -⟩ :=
      read_advised .malformed hlead htext hblank (List.forall_mem_nil _) (Or.inl rfl)
    rw [Issue.advised_nil] at hd
    exact ⟨d, hd⟩
  case blank =>
    intro hblank
    exact ⟨canonical_of_blank_stray .malformed hlead htext hblank, fun ts explanation =>
      read_advised .malformed hlead htext hblank⟩
  case stray =>
    intro hstray ts explanation
    exact ⟨_, read_advised_of_stray .malformed hlead htext hstray ts explanation⟩

/-- Where a list of linters lacks a comma, a line in the shape that is advised has none to miss. -/
theorem advised_shape_is_read_behind_tab :
    let comment : Comment := { text := "//\tnolint: a b" }
    Issue.about comment .malformed ∈ review {} comment ∧
      (Issue.about comment .malformed).details = "directive `//\tnolint: a b` should match " ++
        "`// nolint[:<comma-separated-linters>] [// <explanation>]`" ∧
      ∃ d, read { text := "// nolint:a // why" } = .ok d ∧ d.linters = ["a"] ∧
        d.explanation = "// why" := by
  have hissue : Issue.about { text := "//\tnolint: a b" } .malformed ∈
      review {} { text := "//\tnolint: a b" } := by decide
  have hwf : ∀ t ∈ [(⟨[], ['a'], []⟩ : Target)], t.WellFormed :=
    List.forall_mem_singleton.mpr ⟨rfl, List.cons_ne_nil _ _, rfl, rfl⟩
  have hexplanation : Layout.IsExplanation "// why".toList :=
    Or.inr ⟨" why".toList, by decide, by decide⟩
  obtain ⟨-, -, hshape⟩ := advised_shape_is_read_unless_stray hissue rfl
  obtain ⟨-, hread, -⟩ := hshape ['\t'] ": a b".toList rfl (by decide)
  refine ⟨hissue, by decide, ?_⟩
  exact (hread (by decide)).2 _ _ hwf hexplanation

/-- **A stray word is advised**: the comment is malformed, and its form is the comment itself. -/
theorem stray_word_is_advised :
    Issue.about { text := "//nolint foo" } .malformed ∈ review {} { text := "//nolint foo" } ∧
      (Issue.about { text := "//nolint foo" } .malformed).canonical = "//nolint foo" ∧
      (Issue.about { text := "//nolint foo" } .malformed).details =
        "directive `//nolint foo` should match " ++
          "`//nolint foo[:<comma-separated-linters>] [// <explanation>]`" ∧
      read { text := "//nolint foo" } = .error ⟨"//nolint foo"⟩ := by
  decide

end DirectiveLint
