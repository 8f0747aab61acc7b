import DirectiveLint.Proofs.Classification
import Mathlib.Tactic.TFAE

/-!
# The permissive tier

The permissive tier keeps ordinary comments away from the strict one.  This module says which
comments it lets through, and how far into a comment it looks.

**What it lets through.**  `Permits` is the test as a pattern: the marker, blanks and the keyword,
no hyphen, a list of linters or none, and the edge of a word.  The list never decides: a colon ends
the keyword's word already, so the pattern fits with a list if it fits without one
(`Permits.stands_alone`, `permits_nil`).  What is left of the pattern is that no name character
follows the keyword, and every comment that is read is of this form
(`resembles_exactly`).

**How far it looks.**  All five functions of the tier stop at the second marker.  The scan for
linters, the head and the normal form read the body, which ends there (`HasTwoMarkers.body_append`);
the blanks and the test for the keyword end at a slash at the latest
(`HasTwoMarkers.leadingBlanks_append`, `HasTwoMarkers.resembles_append`).  So whatever stands behind
two markers, and an explanation above all, has no influence
(`nothing_behind_second_marker_is_read`).
-/

namespace DirectiveLint.Directive

open Text

/-! ## What the tier lets through -/

/-- The characters of words: ASCII letters and digits, and the underscore. -/
def isWordChar (c : Char) : Bool :=
  c.isAlphanum || c == '_'

lemma isNameChar_eq_false_iff {c : Char} :
    isNameChar c = false ↔ c ≠ '-' ∧ isWordChar c = false := by
  rw [isNameChar, ← isWordChar, Bool.or_eq_false_iff, beq_eq_false_iff_ne, and_comm]

/-- A word begins or ends where two texts meet: one of the two characters there belongs to a word,
and the other one does not or is missing. -/
def WordEdge (before after : List Char) : Prop :=
  before.getLast?.any isWordChar ≠ after.head?.any isWordChar

/-- **The permissive pattern**, with the pieces that it cuts a comment into.  The pattern may leave
the list out, and it may end in front of further characters. -/
structure Permits (s lead : List Char) (targets : List Target) (rest : List Char) : Prop where
  lead_blank : lead.all isAsciiBlank = true
  targets_wf : ∀ t ∈ targets, t.WellFormed
  chars : s = marker ++ (lead ++ (keyword ++ (Layout.listChars targets ++ rest)))
  no_hyphen : ∀ c ∈ (Layout.listChars targets ++ rest).head?, c ≠ '-'
  word_edge : WordEdge (marker ++ lead ++ keyword ++ Layout.listChars targets) rest

/-- Behind the keyword a word has ended exactly if none goes on. -/
lemma wordEdge_keyword_iff (front rest : List Char) :
    WordEdge (front ++ keyword) rest ↔ ∀ c ∈ rest.head?, isWordChar c = false := by
  have hlast : (front ++ keyword).getLast?.any isWordChar = true := by
    rw [List.getLast?_append_of_ne_nil _ (by decide)]
    decide
  rw [WordEdge, hlast]
  cases rest with
  | nil => simp
  | cons c rest => simp

/-- **The list does not decide.**  With a list or without one, no name character follows the
keyword. -/
lemma Permits.stands_alone {s lead : List Char} {targets : List Target} {rest : List Char}
    (h : Permits s lead targets rest) :
    ∀ c ∈ (Layout.listChars targets ++ rest).head?, isNameChar c = false := by
  intro c hc
  refine isNameChar_eq_false_iff.mpr ⟨h.no_hyphen c hc, ?_⟩
  cases targets with
  | nil =>
    have hedge := h.word_edge
    rw [Layout.listChars, List.append_nil, wordEdge_keyword_iff] at hedge
    exact hedge c hc
  | cons t ts =>
    rw [Layout.listChars_of_ne_nil (List.cons_ne_nil t ts)] at hc
    obtain rfl : ':' = c := Option.some.inj hc
    decide

/-- Where no name character follows the keyword the pattern fits without a list. -/
lemma permits_nil {s lead rest : List Char} (hlead : lead.all isAsciiBlank = true)
    (hs : s = marker ++ (lead ++ (keyword ++ rest)))
    (hrest : ∀ c ∈ rest.head?, isNameChar c = false) : Permits s lead [] rest where
  lead_blank := hlead
  targets_wf := fun _ ht => absurd ht List.not_mem_nil
  chars := hs
  no_hyphen := fun c hc => (isNameChar_eq_false_iff.mp (hrest c hc)).1
  word_edge := by
    rw [Layout.listChars, List.append_nil, wordEdge_keyword_iff]
    exact fun c hc => (isNameChar_eq_false_iff.mp (hrest c hc)).2

/-- **The permissive test, exactly.**  A comment passes if and only if it is the marker, blanks and
the keyword, and then ends or goes on with a character that is neither a hyphen nor of a word; that
is, if it fits the pattern, whether or not the pattern may take a list of linters along.  Every
comment that is read as a directive passes. -/
theorem resembles_exactly (s : List Char) :
    [resembles s = true,
      ∃ lead rest, lead.all isAsciiBlank = true ∧ s = marker ++ (lead ++ (keyword ++ rest)) ∧
        ∀ c ∈ rest.head?, c ≠ '-' ∧ isWordChar c = false,
      ∃ lead rest, Permits s lead [] rest,
      ∃ lead targets rest, Permits s lead targets rest].TFAE ∧
    ∀ comment : Comment, comment.text.toList = s → (∃ d, read comment = .ok d) →
      resembles s = true := by
  constructor
  · tfae_have 1 → 2 := by
      intro h
      obtain ⟨lead, rest, hlead, hs, hrest⟩ := resembles_iff.mp h
      exact ⟨lead, rest, hlead, hs, fun c hc => isNameChar_eq_false_iff.mp (hrest c hc)⟩
    tfae_have 2 → 3 := by
      rintro ⟨lead, rest, hlead, hs, hrest⟩
      exact ⟨lead, rest,
        permits_nil hlead hs fun c hc => isNameChar_eq_false_iff.mpr (hrest c hc)⟩
    tfae_have 3 → 4 := by
      rintro ⟨lead, rest, h⟩
      exact ⟨lead, [], rest, h⟩
    tfae_have 4 → 1 := by
      rintro ⟨lead, targets, rest, h⟩
      exact resembles_iff.mpr ⟨lead, _, h.lead_blank, h.chars, h.stands_alone⟩
    tfae_finish
  · rintro comment rfl ⟨d, hread⟩
    exact resembles_of_read hread

/-! ## How far the tier looks -/

/-- Two markers stand in a text, one behind the other. -/
def HasTwoMarkers (s : List Char) : Prop :=
  ∃ a b c, s = a ++ (marker ++ (b ++ (marker ++ c)))

/-- **Two markers are found from the left** wherever they stand. -/
lemma HasTwoMarkers.exists_cuts {s : List Char} (h : HasTwoMarkers s) :
    ∃ rest behind, (cutAtMarker s).2 = some rest ∧ (cutAtMarker rest).2 = some behind := by
  obtain ⟨a, b, c, rfl⟩ := h
  obtain ⟨t, hrest⟩ := exists_cutAtMarker a (b ++ (marker ++ c))
  rw [← List.append_assoc t] at hrest
  obtain ⟨u, hbehind⟩ := exists_cutAtMarker (t ++ b) c
  exact ⟨_, _, hrest, hbehind⟩

/-- **The body ends at the second marker.** -/
lemma HasTwoMarkers.body_append {s : List Char} (h : HasTwoMarkers s) (t : List Char) :
    body (s ++ t) = body s := by
  obtain ⟨rest, behind, hrest, hbehind⟩ := h.exists_cuts
  rw [body, body, cutAtMarker_append_of_some hrest, hrest]
  dsimp only
  rw [cutAtMarker_append_of_some hbehind]

lemma HasTwoMarkers.head_append {s : List Char} (h : HasTwoMarkers s) (t : List Char) :
    head (s ++ t) = head s := by
  rw [head, head, h.body_append]

lemma HasTwoMarkers.targets_append {s : List Char} (h : HasTwoMarkers s) (t name : List Char) :
    targets (s ++ t) name = targets s name := by
  rw [targets, targets, listed, listed, h.body_append]

/-- Whether a text goes on with a word is settled once it is no part of that word. -/
lemma isPrefixOf?_append_of_not_part {word s : List Char} (h : ¬ s <+: word) (t : List Char) :
    word.isPrefixOf? (s ++ t) = (word.isPrefixOf? s).map (· ++ t) := by
  induction word generalizing s with
  | nil => cases s <;> rfl
  | cons w word ih =>
    cases s with
    | nil => exact absurd List.nil_prefix h
    | cons c s =>
      by_cases hc : w = c
      · subst hc
        have hs : ¬ s <+: word := fun hs => h (List.cons_prefix_cons.mpr ⟨rfl, hs⟩)
        simpa [List.isPrefixOf?] using ih hs
      · simp [List.isPrefixOf?, hc]

/-- **The test for the keyword ends at a slash**, for the keyword has none. -/
lemma opensDirective_append {s : List Char} (h : '/' ∈ s) (t : List Char) :
    opensDirective (s ++ t) = opensDirective s := by
  obtain ⟨a, b, rfl⟩ := List.append_of_mem h
  have hskip : ∀ u, trimStart isAsciiBlank (a ++ '/' :: u)
      = a.dropWhile isAsciiBlank ++ '/' :: u := dropWhile_append_cons (by decide) a
  have hpart : ¬ a.dropWhile isAsciiBlank ++ '/' :: b <+: keyword := fun hword =>
    absurd (hword.subset (List.mem_append_right _ List.mem_cons_self)) (by decide)
  rw [opensDirective, opensDirective, List.append_assoc, List.cons_append, hskip, hskip,
    ← List.cons_append, ← List.append_assoc, isPrefixOf?_append_of_not_part hpart]
  cases hkeyword : keyword.isPrefixOf? (a.dropWhile isAsciiBlank ++ '/' :: b) with
  | none => rfl
  | some rest =>
    cases rest with
    | nil =>
      rw [List.isPrefixOf?_eq_some_iff_append_eq, List.append_nil] at hkeyword
      exact absurd (hkeyword ▸ List.prefix_rfl) hpart
    | cons c rest => rfl

lemma HasTwoMarkers.four_le_count {s : List Char} (h : HasTwoMarkers s) : 4 ≤ s.count '/' := by
  obtain ⟨a, b, c, rfl⟩ := h
  simp only [List.count_append, marker, List.count_cons_self, List.count_nil]
  omega

/-- What follows two markers does not decide whether the first of them opens the text. -/
lemma HasTwoMarkers.isPrefixOf?_append {s : List Char} (h : HasTwoMarkers s) (t : List Char) :
    marker.isPrefixOf? (s ++ t) = (marker.isPrefixOf? s).map (· ++ t) :=
  isPrefixOf?_append_of_not_part
    (fun hs => absurd (h.four_le_count.trans (hs.sublist.count_le '/')) (by decide)) t

/-- Behind the marker that opens the text, if one does, there are slashes left. -/
lemma HasTwoMarkers.slash_mem {s rest : List Char} (h : HasTwoMarkers s)
    (hrest : marker.isPrefixOf? s = some rest) : '/' ∈ rest := by
  rw [List.isPrefixOf?_eq_some_iff_append_eq] at hrest
  have hcount := h.four_le_count
  rw [← hrest, List.count_append, show marker.count '/' = 2 from rfl] at hcount
  exact List.count_pos_iff.mp (by omega)

lemma HasTwoMarkers.leadingBlanks_append {s : List Char} (h : HasTwoMarkers s) (t : List Char) :
    leadingBlanks (s ++ t) = leadingBlanks s := by
  rw [leadingBlanks, leadingBlanks, h.isPrefixOf?_append]
  cases hrest : marker.isPrefixOf? s with
  | none => rfl
  | some rest =>
    obtain ⟨a, b, rfl⟩ := List.append_of_mem (h.slash_mem hrest)
    simp only [Option.map_some, List.append_assoc, List.cons_append,
      takeWhile_append_cons (show isAsciiBlank '/' = false by decide)]

lemma HasTwoMarkers.resembles_append {s : List Char} (h : HasTwoMarkers s) (t : List Char) :
    resembles (s ++ t) = resembles s := by
  rw [resembles, resembles, h.isPrefixOf?_append]
  cases hrest : marker.isPrefixOf? s with
  | none => rfl
  | some rest => exact opensDirective_append (h.slash_mem hrest) t

lemma HasTwoMarkers.normalForm_append {s : List Char} (h : HasTwoMarkers s) (t : List Char) :
    normalForm (s ++ t) = normalForm s := by
  rw [normalForm, normalForm, h.leadingBlanks_append, h.head_append]

/-- **Nothing behind the second marker is read.**  What follows a text with two markers, an
explanation or anything else, changes no answer of the permissive tier. -/
theorem nothing_behind_second_marker_is_read {s : List Char} (h : HasTwoMarkers s)
    (t u : List Char) :
    resembles (s ++ t) = resembles (s ++ u) ∧
      leadingBlanks (s ++ t) = leadingBlanks (s ++ u) ∧
      head (s ++ t) = head (s ++ u) ∧
      normalForm (s ++ t) = normalForm (s ++ u) ∧
      ∀ name, targets (s ++ t) name = targets (s ++ u) name := by
  refine ⟨?_, ?_, ?_, ?_, fun name => ?_⟩
  · rw [h.resembles_append, h.resembles_append]
  · rw [h.leadingBlanks_append, h.leadingBlanks_append]
  · rw [h.head_append, h.head_append]
  · rw [h.normalForm_append, h.normalForm_append]
  · rw [h.targets_append, h.targets_append]

/-- Three slashes behind a list hold a marker and one slash that is left over.  Neither a list nor a
further marker behind them is seen. -/
theorem nothing_behind_three_slashes_is_read :
    let s := "// nolint:a///".toList
    HasTwoMarkers s ∧ normalForm s = "// nolint".toList ∧
      normalForm (s ++ "nolint:b".toList) = normalForm (s ++ "/, c //".toList) ∧
      targets (s ++ ", b".toList) "b".toList = targets (s ++ "// x".toList) "b".toList ∧
      targets (s ++ ", b".toList) "b".toList = false := by
  have h : HasTwoMarkers "// nolint:a///".toList :=
    ⟨[], " nolint:a".toList, ['/'], by decide⟩
  obtain ⟨-, -, -, hnormal, -⟩ :=
    nothing_behind_second_marker_is_read h "nolint:b".toList "/, c //".toList
  obtain ⟨-, -, -, -, htargets⟩ :=
    nothing_behind_second_marker_is_read h ", b".toList "// x".toList
  exact ⟨h, by decide, hnormal, htargets "b".toList, by decide⟩

end DirectiveLint.Directive
