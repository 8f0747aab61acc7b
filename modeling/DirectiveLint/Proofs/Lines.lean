import DirectiveLint.Listing
import DirectiveLint.Proofs.Grammar
import DirectiveLint.Text.ControlSequence

/-!
# The lines of a listing

A listing gives each directive a line of its own.  A comment between delimiters may be a directive
and hold line feeds, and whatever is printed loses its control sequences, so it takes an argument
for each piece of an entry to say what its line looks like.

* `Text.Visible` — a text of characters that show as themselves: numbers, names, and whatever stands
  between quotation marks (`visible_quote`).  It has no line feed and no control sequence.
* `Text.plain_append_cons` — no control sequence reaches over a colon or a line feed, so the name of a
  file takes nothing away from what stands behind it, and line feeds stay (`Text.mem_plain_iff`).
* `Comment.line_of_error`, `Comment.line_of_read` — **the line about a comment**, which is a single
  one unless the name of its file has a line feed (`Comment.lineFeed_not_mem_line`).
-/

namespace DirectiveLint

open Text

/-! ## Characters that show as themselves -/

namespace Text

/-- Every character shows as itself. -/
def Visible (s : List Char) : Prop :=
  ∀ c ∈ s, isPrintable c = true

lemma visible_append {s t : List Char} : Visible (s ++ t) ↔ Visible s ∧ Visible t :=
  List.forall_mem_append

lemma visible_cons {c : Char} {s : List Char} :
    Visible (c :: s) ↔ isPrintable c = true ∧ Visible s :=
  List.forall_mem_cons

lemma Visible.not_mem {s : List Char} (h : Visible s) {c : Char} (hc : isPrintable c = false) :
    c ∉ s := by
  intro hmem
  rw [h c hmem] at hc
  exact Bool.noConfusion hc

lemma Visible.lineFeed_not_mem {s : List Char} (h : Visible s) : '\n' ∉ s :=
  h.not_mem (by decide +kernel)

/-- There are no control sequences in it. -/
lemma Visible.plain_append {s : List Char} (h : Visible s) (t : List Char) :
    plain (s ++ t) = s ++ plain t :=
  plain_append_of_not_mem (h.not_mem (by decide +kernel)) t

lemma Visible.plain {s : List Char} (h : Visible s) : plain s = s := by
  simpa using h.plain_append []

lemma isPrintable_of_ascii {c : Char} (hlo : 32 ≤ c.toNat) (hhi : c.toNat ≤ 126) :
    isPrintable c = true := by
  have houtside : ∀ range ∈ unprintableRanges, range.2 < 32 ∨ 126 < range.1 := by decide +kernel
  rw [isPrintable, Bool.not_eq_true', List.any_eq_false]
  intro range hrange
  have hrange := houtside range hrange
  simp only [Bool.and_eq_true, decide_eq_true_eq]
  omega

lemma visible_of_ascii {s : List Char}
    (h : (s.all fun c => 32 ≤ c.toNat && c.toNat ≤ 126) = true) : Visible s := by
  intro c hc
  have hascii := List.all_eq_true.mp h c hc
  rw [Bool.and_eq_true, decide_eq_true_eq, decide_eq_true_eq] at hascii
  exact isPrintable_of_ascii hascii.1 hascii.2

lemma visible_toDigits {base : Nat} (hbase : 1 < base) (hle : base ≤ 16) (n : Nat) :
    Visible (Nat.toDigits base n) := by
  have hdigit : ∀ d < 16, Visible [Nat.digitChar d] := by
    intro d hd
    refine visible_of_ascii ?_
    revert d
    decide
  induction n using Nat.strong_induction_on with
  | _ n ih =>
    rw [Nat.toDigits_eq_if hbase]
    split
    · exact hdigit n (by omega)
    · have hmod : n % base < base := Nat.mod_lt n (by omega)
      exact visible_append.mpr
        ⟨ih (n / base) (Nat.div_lt_self (by omega) hbase), hdigit _ (by omega)⟩

lemma visible_natToString (n : Nat) : Visible (toString n).toList := by
  rw [Nat.toString_eq_ofList_toDigits, String.toList_ofList]
  exact visible_toDigits (by decide) (by decide) n

lemma visible_intToString (n : Int) : Visible (toString n).toList := by
  cases n with
  | ofNat n => exact visible_natToString n
  | negSucc n =>
    show Visible ("-" ++ toString (n + 1)).toList
    rw [String.toList_append, visible_append]
    exact ⟨visible_of_ascii (by decide), visible_natToString (n + 1)⟩

/-! ## Quoted text -/

namespace Quoted

lemma isPrintable_mark (s : List Char) : isPrintable (mark s) = true := by
  unfold mark
  split <;> exact isPrintable_of_ascii (by decide) (by decide)

lemma visible_hexDigits (width n : Nat) : Visible (hexDigits width n) := by
  rw [hexDigits, visible_append]
  refine ⟨fun c hc => ?_, visible_toDigits (by decide) (by decide) n⟩
  rw [List.eq_of_mem_replicate hc]
  exact isPrintable_of_ascii (by decide) (by decide)

lemma visible_codePoint (c : Char) : Visible (codePoint c) := by
  have hform : ∀ {letter : Char} (width : Nat), Visible ['\\', letter] →
      Visible ('\\' :: letter :: hexDigits width c.toNat) :=
    fun width h => visible_append.mpr ⟨h, visible_hexDigits width c.toNat⟩
  unfold codePoint
  split_ifs
  · exact hform 2 (visible_of_ascii (by decide))
  · exact hform 4 (visible_of_ascii (by decide))
  · exact hform 8 (visible_of_ascii (by decide))

/-- A character is written by characters that show as themselves, even if it does not. -/
lemma visible_escape {m : Char} (hm : isPrintable m = true) (c : Char) : Visible (escape m c) := by
  have hbackslash : isPrintable '\\' = true := isPrintable_of_ascii (by decide) (by decide)
  unfold escape
  split_ifs with hmark hfeed hreturn htab hprintable
  · have hc : isPrintable c = true := by
      rcases Bool.or_eq_true_iff.mp hmark with h | h
      · exact (beq_iff_eq.mp h).symm ▸ hm
      · exact (beq_iff_eq.mp h).symm ▸ hbackslash
    exact visible_cons.mpr ⟨hbackslash, List.forall_mem_singleton.mpr hc⟩
  · exact visible_of_ascii (by decide)
  · exact visible_of_ascii (by decide)
  · exact visible_of_ascii (by decide)
  · exact List.forall_mem_singleton.mpr hprintable
  · exact visible_codePoint c

/-- **Quoted text shows as it is.** -/
theorem visible_quote (s : String) : Visible (quote s).toList := by
  have hmark := isPrintable_mark s.toList
  rw [quote, String.toList_ofList, List.cons_append, visible_cons, visible_append]
  refine ⟨hmark, fun c hc => ?_, List.forall_mem_singleton.mpr hmark⟩
  obtain ⟨d, -, hd⟩ := List.mem_flatMap.mp hc
  exact visible_escape hmark d c hd

end Quoted

/-! ## What control sequences do not reach over -/

namespace ControlSequence

/-- The characters of a sequence. -/
def IsSequence (s : List Char) : Prop :=
  ∃ parameters c, (∀ p ∈ parameters, isParameter p = true) ∧ c.isAlpha = true ∧
    s = escape :: '[' :: (parameters ++ [c])

lemma IsSequence.span_append {s : List Char} (h : IsSequence s) (rest : List Char) :
    span (s ++ rest) = s.length := by
  obtain ⟨parameters, c, hp, hc, rfl⟩ := h
  have hsequence := span_sequence hp hc rest
  simpa using hsequence

/-- A text begins with a sequence, or it does not. -/
lemma span_eq_zero_or (s : List Char) :
    span s = 0 ∨ ∃ sequence rest, IsSequence sequence ∧ s = sequence ++ rest := by
  unfold span
  split
  · next rest =>
    split
    · exact Or.inl rfl
    · next c behind hbehind =>
      split
      · next hc =>
        refine Or.inr ⟨escape :: '[' :: (rest.takeWhile isParameter ++ [c]), behind,
          ⟨rest.takeWhile isParameter, c, fun p hp => List.mem_takeWhile_imp hp, hc, rfl⟩, ?_⟩
        have hrest := List.takeWhile_append_dropWhile (p := isParameter) (l := rest)
        rw [hbehind] at hrest
        simp [hrest, escape]
      · exact Or.inl rfl
  · exact Or.inl rfl

/-- A character that has no part in any sequence. -/
def Apart (c : Char) : Prop :=
  c ≠ escape ∧ c ≠ '[' ∧ isParameter c = false ∧ c.isAlpha = false

instance (c : Char) : Decidable (Apart c) :=
  inferInstanceAs (Decidable (_ ∧ _))

lemma apart_colon : Apart ':' := by decide

lemma apart_lineFeed : Apart '\n' := by decide

lemma IsSequence.not_mem {s : List Char} (h : IsSequence s) {c : Char} (hc : Apart c) : c ∉ s := by
  obtain ⟨parameters, letter, hp, hletter, rfl⟩ := h
  obtain ⟨hescape, hbracket, hparameter, halpha⟩ := hc
  have hparameters : c ∉ parameters := by
    intro hmem
    rw [hp c hmem] at hparameter
    cases hparameter
  have hne : c ≠ letter := by
    rintro rfl
    rw [hletter] at halpha
    cases halpha
  simp [hescape, hbracket, hparameters, hne]

/-- A sequence that starts in front of such a character ends there. -/
lemma span_append_cons {c : Char} (hc : Apart c) (s t : List Char) : span (s ++ c :: t) = span s := by
  rcases span_eq_zero_or (s ++ c :: t) with hzero | ⟨sequence, rest, hsequence, heq⟩
  · rcases span_eq_zero_or s with hs | ⟨sequence, rest, hsequence, rfl⟩
    · rw [hzero, hs]
    · rw [List.append_assoc, hsequence.span_append, hsequence.span_append]
  · rw [heq, hsequence.span_append]
    rcases List.append_eq_append_iff.mp heq with ⟨more, hmore, htail⟩ | ⟨more, hmore, -⟩
    · cases more with
      | nil =>
        rw [List.append_nil] at hmore
        have hspan := hsequence.span_append []
        rw [List.append_nil] at hspan
        rw [← hmore, hspan]
      | cons x more =>
        obtain rfl := (List.cons.inj htail).1
        exact absurd (hmore ▸ List.mem_append_right s List.mem_cons_self) (hsequence.not_mem hc)
    · rw [hmore, hsequence.span_append]

lemma span_le_length (s : List Char) : span s ≤ s.length := by
  rcases span_eq_zero_or s with hs | ⟨sequence, rest, hsequence, rfl⟩
  · rw [hs]
    exact Nat.zero_le _
  · rw [hsequence.span_append, List.length_append]
    exact Nat.le_add_right _ _

end ControlSequence

lemma plainBehind_append_cons {c : Char} (hc : ControlSequence.Apart c) {skip : Nat}
    {s : List Char} (hskip : skip ≤ s.length) (t : List Char) :
    plainBehind skip (s ++ c :: t) = plainBehind skip s ++ c :: plain t := by
  induction s generalizing skip with
  | nil =>
    obtain rfl := Nat.le_zero.mp hskip
    have hescape : ControlSequence.escape ∉ [c] := fun hmem =>
      hc.1 (List.mem_singleton.mp hmem).symm
    exact plain_append_of_not_mem hescape t
  | cons x s ih =>
    cases skip with
    | succ skip => exact ih (Nat.le_of_succ_le_succ hskip)
    | zero =>
      have hspan := ControlSequence.span_append_cons hc (x :: s) t
      rw [List.cons_append] at hspan
      rw [List.cons_append, plainBehind, plainBehind, hspan]
      cases hlength : ControlSequence.span (x :: s) with
      | zero => exact congrArg (x :: ·) (ih (Nat.zero_le _))
      | succ skip =>
        have hle := ControlSequence.span_le_length (x :: s)
        rw [hlength] at hle
        exact ih (Nat.le_of_succ_le_succ hle)

/-- **No control sequence reaches over a character that has no part in any.** -/
theorem plain_append_cons {c : Char} (hc : ControlSequence.Apart c) (s t : List Char) :
    plain (s ++ c :: t) = plain s ++ c :: plain t :=
  plainBehind_append_cons hc (Nat.zero_le _) t

/-- Nor is such a character left out. -/
lemma mem_plain_iff {c : Char} (hc : ControlSequence.Apart c) {s : List Char} :
    c ∈ plain s ↔ c ∈ s := by
  constructor
  · exact fun h => (plainBehind_sublist 0 s).subset h
  · intro h
    obtain ⟨front, rest, rfl⟩ := List.append_of_mem h
    rw [plain_append_cons hc]
    exact List.mem_append_right _ List.mem_cons_self

end Text

/-! ## The pieces of an entry -/

lemma Position.lineFeed_not_mem_render {p : Position} (h : '\n' ∉ p.filename.toList) :
    '\n' ∉ p.render.toList := by
  have hplace : '\n' ∉ p.renderPlace.toList := by
    rw [renderPlace, String.toList_append, List.mem_append, not_or]
    refine ⟨(visible_intToString p.line).lineFeed_not_mem, ?_⟩
    split
    · decide
    · rw [String.toList_append, List.mem_append, not_or]
      exact ⟨by decide, (visible_intToString p.column).lineFeed_not_mem⟩
  unfold render
  split_ifs
  · exact hplace
  · simp [h, hplace]
  · decide
  · exact h

/-- Trimming only takes characters away. -/
lemma Text.trim_sublist (blank : Char → Bool) (s : List Char) : (trim blank s).Sublist s :=
  (infix_of_trim blank s).sublist

namespace Directive

variable {comment : Comment} {d : Directive}

lemma isPrintable_of_isNameChar {c : Char} (h : isNameChar c = true) : isPrintable c = true := by
  obtain ⟨hlo, hhi⟩ := toNat_of_isNameChar h
  exact isPrintable_of_ascii (by omega) (by omega)

/-- The linters of a directive have names of name characters. -/
lemma all_isNameChar_of_mem_linters (h : read comment = .ok d) {name : String}
    (hname : name ∈ d.linters) : name.toList.all isNameChar = true := by
  obtain ⟨l, hwf, -, -, rfl⟩ := exists_layout_of_read h
  obtain ⟨t, ht, rfl⟩ := List.mem_map.mp hname
  rw [String.toList_ofList]
  exact (hwf.targets_wf t ht).name_chars

/-- What separates no linters and is no name character is not in the list of linters. -/
lemma not_mem_linterText (h : read comment = .ok d) {c : Char} (hname : isNameChar c = false)
    (hcomma : c ≠ ',') : c ∉ d.linterText.toList := by
  unfold linterText
  split
  · intro hmem
    obtain rfl := List.mem_singleton.mp hmem
    exact absurd hname (by decide)
  · rw [String.toList_intercalate]
    refine not_mem_intercalate (fun hmem => hcomma (List.mem_singleton.mp hmem)) fun s hs => ?_
    obtain ⟨name, hmem, rfl⟩ := List.mem_map.mp hs
    exact not_mem_of_all (all_isNameChar_of_mem_linters h hmem) hname

lemma visible_linterText (h : read comment = .ok d) : Visible d.linterText.toList := by
  intro c hc
  by_contra hprintable
  rw [Bool.not_eq_true] at hprintable
  refine not_mem_linterText h ?_ ?_ hc
  · rw [Bool.eq_false_iff]
    intro hname
    rw [isPrintable_of_isNameChar hname] at hprintable
    cases hprintable
  · rintro rfl
    exact absurd hprintable (by decide +kernel)

lemma lineFeed_not_mem_explanation (h : read comment = .ok d) :
    '\n' ∉ d.explanation.toList := by
  obtain ⟨l, hwf, -, -, rfl⟩ := exists_layout_of_read h
  rw [ofLayout, String.toList_ofList]
  rcases hwf.explanation_line with hnil | ⟨line, hline, hlf⟩
  · rw [hnil]
    exact List.not_mem_nil
  · rw [hline, List.mem_append, not_or]
    exact ⟨by decide, hlf⟩

lemma lineFeed_not_mem_explanationText (h : read comment = .ok d) :
    '\n' ∉ d.explanationText.toList := by
  unfold explanationText
  split
  · rw [String.toList_ofList]
    exact fun hmem => lineFeed_not_mem_explanation h ((trim_sublist isBlank _).subset hmem)
  · decide

end Directive

/-! ## Printed lines -/

namespace Comment

/-- The place of a comment, as it is printed. -/
def place (comment : Comment) : String :=
  String.ofList (plain comment.position.render.toList)

/-- **The line about a comment**, as it is printed. -/
def line (comment : Comment) : String :=
  String.ofList (plain comment.entry.toList)

/-- The line about a comment that does not follow the grammar. -/
def malformedLine (comment : Comment) : String :=
  comment.place ++ ": " ++ Quoted.quote comment.text ++ " (malformed)"

variable {comment : Comment} {d : Directive}

/-- The place of a comment ends where the colon behind it stands. -/
lemma ofList_plain_place_append (comment : Comment) (rest : String) :
    String.ofList (plain (comment.position.render ++ ":" ++ rest).toList) =
      comment.place ++ ":" ++ String.ofList (plain rest.toList) := by
  rw [← String.toList_inj]
  simp [place, plain_append_cons ControlSequence.apart_colon]

/-- A malformed comment is shown in full, whatever it holds. -/
lemma line_of_error {fault : Directive.Malformed} (h : Directive.read comment = .error fault) :
    comment.line = comment.malformedLine := by
  have htext : fault.text = comment.text := by
    rw [Directive.read] at h
    split at h
    · cases h
    · rw [← Except.error.inj h]
  have hentry : comment.entry =
      comment.position.render ++ ":" ++ (" " ++ Quoted.quote comment.text ++ " (malformed)") := by
    rw [entry, h, ← htext, ← String.toList_inj]
    simp
  have hvisible : Visible (" " ++ Quoted.quote comment.text ++ " (malformed)").toList := by
    rw [String.toList_append, String.toList_append, visible_append, visible_append]
    exact ⟨⟨visible_of_ascii (by decide), Quoted.visible_quote comment.text⟩,
      visible_of_ascii (by decide)⟩
  rw [line, hentry, ofList_plain_place_append, hvisible.plain, String.ofList_toList, malformedLine,
    ← String.toList_inj]
  simp

lemma line_of_read (h : Directive.read comment = .ok d) :
    comment.line = comment.place ++ ": space=" ++ toString d.leadingWidth ++ " linters=" ++
      d.linterText ++ " explanation=" ++ String.ofList (plain d.explanationText.toList) := by
  have hentry : comment.entry = comment.position.render ++ ":" ++
      (" space=" ++ toString d.leadingWidth ++ " linters=" ++ d.linterText ++ " explanation=" ++
        d.explanationText) := by
    rw [entry, h, ← (Directive.text_of_read h).2, ← String.toList_inj]
    simp [Directive.entry]
  have hvisible : Visible (" space=" ++ toString d.leadingWidth ++ " linters=" ++ d.linterText ++
      " explanation=").toList := by
    simp only [String.toList_append, visible_append]
    exact ⟨⟨⟨⟨visible_of_ascii (by decide), visible_natToString _⟩, visible_of_ascii (by decide)⟩,
      Directive.visible_linterText h⟩, visible_of_ascii (by decide)⟩
  rw [line, hentry, ofList_plain_place_append, String.toList_append, hvisible.plain_append,
    ← String.toList_inj]
  simp

/-- **A directive is never listed like a malformed comment**: the number of its blanks stands where
the quotation mark would. -/
lemma line_eq_malformedLine_iff (comment : Comment) :
    comment.line = comment.malformedLine ↔ ∃ fault, Directive.read comment = .error fault := by
  cases hread : Directive.read comment with
  | error fault => exact iff_of_true (line_of_error hread) ⟨fault, rfl⟩
  | ok d =>
    refine iff_of_false (fun hline => ?_) (by rintro ⟨fault, ⟨⟩⟩)
    have hmark : Quoted.mark comment.text.toList ≠ 's' := by
      unfold Quoted.mark
      split <;> decide
    rw [line_of_read hread, malformedLine] at hline
    have hlist := congrArg String.toList hline
    simp only [Quoted.quote, String.toList_append, String.toList_ofList, List.append_assoc,
      List.append_cancel_left_eq] at hlist
    -- the third character behind the position
    have hthird := congrArg (fun s => s[2]?) hlist
    exact hmark (Option.some.inj hthird).symm

/-- **The line about a comment is a single one.** -/
theorem lineFeed_not_mem_line (h : '\n' ∉ comment.position.filename.toList) :
    '\n' ∉ comment.line.toList := by
  have hplain : ∀ {s : List Char}, '\n' ∉ s → '\n' ∉ plain s :=
    fun hs hmem => hs ((mem_plain_iff ControlSequence.apart_lineFeed).mp hmem)
  have hplace : '\n' ∉ comment.place.toList := by
    rw [place, String.toList_ofList]
    exact hplain (Position.lineFeed_not_mem_render h)
  cases hread : Directive.read comment with
  | error fault =>
    have hquote := (Quoted.visible_quote comment.text).lineFeed_not_mem
    rw [line_of_error hread, malformedLine]
    simp [hplace, hquote]
  | ok d =>
    have hwidth := (visible_natToString d.leadingWidth).lineFeed_not_mem
    have hlinters := (Directive.visible_linterText hread).lineFeed_not_mem
    have hexplanation := hplain (Directive.lineFeed_not_mem_explanationText hread)
    rw [line_of_read hread]
    simp only [String.toList_append, String.toList_ofList, List.mem_append, not_or]
    exact ⟨⟨⟨⟨⟨⟨hplace, by decide⟩, hwidth⟩, by decide⟩, hlinters⟩, by decide⟩, hexplanation⟩

end Comment

end DirectiveLint
