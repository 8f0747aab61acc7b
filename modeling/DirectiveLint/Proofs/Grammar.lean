import DirectiveLint.Proofs.Layouts

/-!
# The strict grammar

`Directive.read` follows the strict grammar exactly: a comment is read if and only if it can be laid
out, and what is read says the same whichever layout is taken.

The pieces of a directive come from the comment alone.  The blanks in front of the keyword and the
names are those of every layout (`Layout.ofChars?_chars` settles blanks behind them only), and the
explanation is the second marker with the rest of its line (`Layout.WellFormed.remarkLine_chars`),
however a layout divides it from the blanks behind it.

* `Layout.names` — the linters that a layout names.
* `read_of_layout`, `exists_layout_of_read` — reading, in terms of any layout.
* `read_follows_grammar` — the statement as a whole.
* `isExplained_eq_false_iff` — a directive is unexplained exactly if nothing but blanks stands
  behind its second marker.
-/

namespace DirectiveLint.Directive

open Text

namespace Layout

/-- The linters that a layout names, in order, repetitions kept. -/
def names (l : Layout) : List String :=
  l.targets.map fun t => String.ofList t.name

lemma names_eq_of_map_name_eq {l l' : Layout}
    (h : l.targets.map Target.name = l'.targets.map Target.name) : l.names = l'.names := by
  have hnames := congrArg (List.map String.ofList) h
  simpa only [names, List.map_map, Function.comp_def] using hnames

lemma names_settled (l : Layout) : l.settled.names = l.names :=
  names_eq_of_map_name_eq l.settled_names

/-- **The explanation that is read is the second marker with the rest of its line.** -/
lemma WellFormed.remarkLine_chars {l : Layout} (h : l.WellFormed) :
    remarkLine l.chars = l.settled.explanation := by
  rw [remarkLine, h.afterSecondMarker_chars, settled]
  rcases h.explanation_line with hnil | ⟨line, hline, hlf⟩
  · rw [hnil]
    rfl
  · have hall : ∀ c ∈ line, (c != '\n') = true := List.all_eq_true.mp (all_bne_of_not_mem hlf)
    rw [hline]
    show marker ++ (line ++ l.tail).takeWhile (· != '\n')
      = marker ++ line ++ l.tail.takeWhile (· != '\n')
    rw [List.takeWhile_append_of_pos hall, List.append_assoc]

end Layout

/-- **Any layout of a comment tells how it is read.** -/
theorem read_of_layout {comment : Comment} {l : Layout} (hwf : l.WellFormed)
    (hchars : l.chars = comment.text.toList) :
    read comment = .ok (ofLayout comment l.settled) := by
  rw [read, ← hchars, Layout.ofChars?_chars hwf]

/-- A layout that ends with its explanation says what it is made of. -/
lemma read_of_chars {comment : Comment} {l : Layout} (hwf : l.WellFormed)
    (hchars : l.chars = comment.text.toList) (htail : l.tail = []) :
    read comment = .ok ⟨comment.text, comment.position, String.ofList l.lead, l.names,
      String.ofList l.explanation⟩ := by
  have hexplanation : l.settled.explanation = l.explanation := by
    rw [Layout.settled, htail]
    simp
  rw [read_of_layout hwf hchars, ofLayout, hexplanation, ← l.names_settled]
  rfl

/-- A directive that was read has a layout, and a settled one. -/
theorem exists_layout_of_read {comment : Comment} {d : Directive} (h : read comment = .ok d) :
    ∃ l : Layout, l.WellFormed ∧ l.chars = comment.text.toList ∧ l.settled = l ∧
      d = ofLayout comment l := by
  rw [read] at h
  cases hl : Layout.ofChars? comment.text.toList with
  | none =>
      rw [hl] at h
      cases h
  | some l =>
      rw [hl] at h
      obtain ⟨hwf, hchars, hsettled⟩ := Layout.ofChars?_eq_some_iff.mp hl
      exact ⟨l, hwf, hchars, hsettled, (Except.ok.inj h).symm⟩

/-- A comment without a layout is malformed. -/
theorem read_of_no_layout {comment : Comment}
    (h : ¬ ∃ l : Layout, l.WellFormed ∧ l.chars = comment.text.toList) :
    read comment = .error ⟨comment.text⟩ := by
  rw [read, Layout.ofChars?_eq_none_iff.mpr h]

/-! ## The grammar as a whole -/

/-- **The strict grammar, exactly.**  A comment is read if and only if it has a layout; every layout
tells the blanks in front of the keyword and the linters, and the explanation is the second marker
with the rest of its line; a comment without a layout is malformed. -/
theorem read_follows_grammar (comment : Comment) :
    ((∃ d, read comment = .ok d) ↔
      ∃ l : Layout, l.WellFormed ∧ l.chars = comment.text.toList) ∧
    (∀ l : Layout, l.WellFormed → l.chars = comment.text.toList →
      read comment = .ok
        { text := comment.text
          position := comment.position
          leading := String.ofList l.lead
          linters := l.names
          explanation := String.ofList (remarkLine comment.text.toList) }) ∧
    ((¬ ∃ l : Layout, l.WellFormed ∧ l.chars = comment.text.toList) →
      read comment = .error ⟨comment.text⟩) := by
  refine ⟨⟨?_, ?_⟩, ?_, read_of_no_layout⟩
  · rintro ⟨d, hd⟩
    obtain ⟨l, hwf, hchars, -⟩ := exists_layout_of_read hd
    exact ⟨l, hwf, hchars⟩
  · rintro ⟨l, hwf, hchars⟩
    exact ⟨_, read_of_layout hwf hchars⟩
  · intro l hwf hchars
    rw [read_of_layout hwf hchars, ofLayout, ← hchars, hwf.remarkLine_chars, ← Layout.names_settled]
    rfl

/-! ## Explanations -/

/-- Nothing but blanks stands behind the second marker, if there is one. -/
def Unexplained (s : List Char) : Prop :=
  ∀ rest ∈ afterSecondMarker s, rest.all isBlank = true

instance (s : List Char) : Decidable (Unexplained s) :=
  inferInstanceAs (Decidable (∀ rest ∈ afterSecondMarker s, rest.all isBlank = true))

/-- A marker with blanks behind it trims to the marker, and no other line that begins with one. -/
lemma trim_marker_append_iff (line : List Char) :
    trim isBlank (marker ++ line) = marker ↔ line.all isBlank = true := by
  have hstart : trim isBlank (marker ++ line) = trimEnd isBlank (marker ++ line) := rfl
  rw [hstart]
  constructor
  · intro h
    obtain ⟨pad, hpad, hline⟩ := exists_blanks_of_trimEnd isBlank (marker ++ line)
    rw [h] at hline
    rwa [List.append_cancel_left hline]
  · intro h
    rw [trimEnd_append_blanks marker h]
    rfl

/-- **A directive is unexplained if only blanks stand behind its second marker**, and only then. -/
theorem isExplained_eq_false_iff {comment : Comment} {d : Directive}
    (h : read comment = .ok d) : d.isExplained = false ↔ Unexplained comment.text.toList := by
  obtain ⟨l, hwf, hchars, -, rfl⟩ := exists_layout_of_read h
  rw [Unexplained, ← hchars, hwf.afterSecondMarker_chars]
  rcases hwf.explanation_line with hnil | ⟨line, hline, -⟩
  · simp [isExplained, ofLayout, hnil]
  · have htail := all_isBlank_of_all_isAsciiBlank hwf.tail_blank
    have hne : l.explanation.isEmpty = false := by rw [hline]; rfl
    have hdrop : l.explanation.drop 2 = line := by rw [hline]; rfl
    have hempty : (ofLayout comment l).explanation.isEmpty = false := by
      rw [Bool.eq_false_iff, Ne, String.isEmpty_iff]
      intro hs
      have hlist := congrArg String.toList hs
      rw [ofLayout, String.toList_ofList, hline] at hlist
      cases hlist
    have hexpl : (ofLayout comment l).explanation.toList = marker ++ line := by
      rw [ofLayout, String.toList_ofList, hline]
    -- the tail is blank either way, so only the line counts
    have hall : (line ++ l.tail).all isBlank = line.all isBlank := by
      rw [List.all_append, htail, Bool.and_true]
    rw [isExplained, hempty, hexpl, hne, hdrop]
    simp only [Bool.not_false, Bool.true_and, bne_eq_false_iff_eq, trim_marker_append_iff,
      Bool.false_eq_true, if_false, Option.mem_some_iff, forall_eq', hall]

end DirectiveLint.Directive
