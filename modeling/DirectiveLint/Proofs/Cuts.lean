import DirectiveLint.Directive.Recognition
import Mathlib.Data.List.DropRight
import Mathlib.Data.List.TakeWhile
import Mathlib.Tactic.Lemma

/-!
# Where the cuts fall

Everything that reads a directive cuts it: at the end of a run of blanks, at a marker, at a blank
end.  Here is what each cut gives on a text that is put together from known pieces.

**Runs.**  `takeWhile_run` and `dropWhile_run`: a run of a class in front of a character outside it
is cut off exactly, and no cut goes past such a character (`dropWhile_append_cons`).

**Trimming.**  `trim_of_forall` takes the blanks off on both sides of a piece without blanks;
`trimEnd_append_blanks`, `trimEnd_append_cons` and `trimEnd_eq_nil_iff` say how far trimming at the
end goes.  What is trimmed is a piece of the text (`infix_of_trim`).

**Markers.**  No marker stands in front of the cut (`marker_not_infix_cutAtMarker`), and a text in
which none begins goes in front of it whatever follows (`cutAtMarker_append`): so the first marker
behind a text without a slash is where the cut falls.  `afterSecondMarker` is what a comment says
behind its second marker.
-/

namespace DirectiveLint.Text

/-! ## Runs -/

lemma not_mem_of_all {p : Char → Bool} {s : List Char} {c : Char} (hs : s.all p = true)
    (hc : p c = false) : c ∉ s := by
  intro hmem
  have hp : p c = true := List.all_eq_true.mp hs c hmem
  rw [hc] at hp
  exact Bool.noConfusion hp

lemma all_bne_of_not_mem {s : List Char} {c : Char} (h : c ∉ s) : s.all (· != c) = true := by
  rw [List.all_eq_true]
  intro x hx
  rw [bne_iff_ne]
  rintro rfl
  exact h hx

/-- What is in no piece and not in what joins them is not in the pieces joined. -/
lemma not_mem_intercalate {c : Char} {sep : List Char} (hsep : c ∉ sep) :
    ∀ {ss : List (List Char)}, (∀ s ∈ ss, c ∉ s) → c ∉ sep.intercalate ss
  | [], _ => by simp
  | [s], h => by simpa using h s (List.mem_singleton_self s)
  | s :: t :: ss, h => by
      have ih := not_mem_intercalate hsep fun u hu => h u (List.mem_cons_of_mem s hu)
      rw [List.intercalate_cons_cons, List.mem_append, List.mem_append, not_or, not_or]
      exact ⟨⟨h s List.mem_cons_self, hsep⟩, ih⟩

/-- A run ends where the first character outside its class stands. -/
lemma takeWhile_run {p : Char → Bool} {run rest : List Char} (hrun : run.all p = true)
    (hrest : ∀ c ∈ rest.head?, p c = false) : (run ++ rest).takeWhile p = run := by
  rw [List.takeWhile_append_of_pos (List.all_eq_true.mp hrun)]
  cases rest with
  | nil => simp
  | cons c rest => simp [hrest c rfl]

/-- Behind the run the rest is left. -/
lemma dropWhile_run {p : Char → Bool} {run rest : List Char} (hrun : run.all p = true)
    (hrest : ∀ c ∈ rest.head?, p c = false) : (run ++ rest).dropWhile p = rest := by
  rw [List.dropWhile_append_of_pos (List.all_eq_true.mp hrun)]
  cases rest with
  | nil => rfl
  | cons c rest => simp [hrest c rfl]

/-- Dropping a run stops at a character outside its class at the latest. -/
lemma dropWhile_append_cons {p : Char → Bool} {c : Char} (hc : p c = false) (s rest : List Char) :
    (s ++ c :: rest).dropWhile p = s.dropWhile p ++ c :: rest := by
  rw [List.dropWhile_append]
  cases hs : s.dropWhile p with
  | nil => simp [hc]
  | cons x xs => rfl

/-- Nor does a run that is taken go past such a character. -/
lemma takeWhile_append_cons {p : Char → Bool} {c : Char} (hc : p c = false) (s rest : List Char) :
    (s ++ c :: rest).takeWhile p = s.takeWhile p := by
  rw [List.takeWhile_append, List.takeWhile_cons_of_neg (by rw [hc]; decide), List.append_nil]
  split
  · next hlength => exact ((List.takeWhile_sublist p).eq_of_length hlength).symm
  · rfl

/-! ## Trimming -/

variable {blank : Char → Bool}

/-- Read from its end, a text with blanks behind it begins where it ended without them. -/
lemma dropWhile_reverse_append (s : List Char) {pad : List Char} (hpad : pad.all blank = true) :
    (s ++ pad).reverse.dropWhile blank = s.reverse.dropWhile blank := by
  have hrev : ∀ c ∈ pad.reverse, blank c = true := fun c hc =>
    List.all_eq_true.mp hpad c (List.mem_reverse.mp hc)
  rw [List.reverse_append, List.dropWhile_append_of_pos hrev]

lemma trimEnd_append_blanks (s : List Char) {pad : List Char} (hpad : pad.all blank = true) :
    trimEnd blank (s ++ pad) = trimEnd blank s := by
  rw [trimEnd, dropWhile_reverse_append s hpad, trimEnd]

lemma trimEnd_concat (s : List Char) {c : Char} (hc : blank c = false) :
    trimEnd blank (s ++ [c]) = s ++ [c] :=
  List.rdropWhile_concat_neg blank s c (by rw [hc]; decide)

/-- **Trimming at the end stops at a character that is no blank**, wherever it stands. -/
lemma trimEnd_append_cons (s : List Char) {c : Char} (hc : blank c = false) (rest : List Char) :
    trimEnd blank (s ++ c :: rest) = s ++ c :: trimEnd blank rest := by
  have hrev : (s ++ c :: rest).reverse = rest.reverse ++ c :: s.reverse := by simp
  rw [trimEnd, hrev, dropWhile_append_cons hc, trimEnd]
  simp

lemma exists_blanks_of_trimEnd (blank : Char → Bool) (s : List Char) :
    ∃ pad, pad.all blank = true ∧ s = trimEnd blank s ++ pad := by
  refine ⟨s.rtakeWhile blank, ?_, List.rdropWhile_append_rtakeWhile.symm⟩
  rw [List.all_eq_true]
  exact fun c hc => List.mem_rtakeWhile_imp hc

lemma trimEnd_eq_nil_or_concat (blank : Char → Bool) (s : List Char) :
    trimEnd blank s = [] ∨ ∃ front c, trimEnd blank s = front ++ [c] ∧ blank c = false := by
  rcases List.eq_nil_or_concat' (trimEnd blank s) with h | ⟨front, c, h⟩
  · exact Or.inl h
  · refine Or.inr ⟨front, c, h, ?_⟩
    have hlast : ∀ hl : trimEnd blank s ≠ [], ¬ blank ((trimEnd blank s).getLast hl) :=
      List.rdropWhile_last_not blank s
    rw [h] at hlast
    simpa using hlast

lemma prefix_of_trimEnd (blank : Char → Bool) (s : List Char) : trimEnd blank s <+: s :=
  List.rdropWhile_prefix blank s

lemma infix_of_trim (blank : Char → Bool) (s : List Char) : trim blank s <:+: s :=
  (prefix_of_trimEnd blank (trimStart blank s)).isInfix.trans (List.dropWhile_suffix blank).isInfix

/-- What is trimmed at the end has no blank there. -/
lemma eq_false_of_mem_getLast?_trimEnd {s : List Char} {c : Char}
    (h : c ∈ (trimEnd blank s).getLast?) : blank c = false := by
  rcases trimEnd_eq_nil_or_concat blank s with hnil | ⟨front, last, hconcat, hlast⟩
  · rw [hnil] at h
    cases h
  · rw [hconcat, List.getLast?_concat] at h
    obtain rfl := Option.some.inj h
    exact hlast

lemma trimEnd_eq_nil_iff {s : List Char} : trimEnd blank s = [] ↔ s.all blank = true := by
  rw [List.all_eq_true]
  exact List.rdropWhile_eq_nil_iff

/-- **A piece without blanks is trimmed out of the blanks around it.** -/
lemma trim_of_forall {lead core trail : List Char} (hlead : lead.all blank = true)
    (hcore : ∀ c ∈ core, blank c = false) (htrail : trail.all blank = true) :
    trim blank (lead ++ core ++ trail) = core := by
  rw [List.append_assoc, trim, trimStart,
    List.dropWhile_append_of_pos (List.all_eq_true.mp hlead)]
  rcases List.eq_nil_or_concat' core with rfl | ⟨front, c, rfl⟩
  · have hnil : trail.dropWhile blank = [] := trimStart_eq_nil_of_all htrail
    rw [List.nil_append, hnil, trimEnd_nil]
  · have hhead : ∀ x ∈ (front ++ [c] ++ trail).head?, blank x = false := by
      intro x hx
      refine hcore x ?_
      cases front with
      | nil => simpa using hx.symm
      | cons y front => simp at hx; simp [hx]
    have hstart : (front ++ [c] ++ trail).dropWhile blank = front ++ [c] ++ trail :=
      @dropWhile_run blank [] _ rfl hhead
    rw [hstart, trimEnd_append_blanks _ htrail, trimEnd_concat front (hcore c (by simp))]

end DirectiveLint.Text

namespace DirectiveLint.Directive

open Text

/-! ## Characters

The cuts of a directive go by the classes of its characters, and these are apart: no character of a
linter name is a blank, not even a Unicode blank.
-/

/-- The characters of linter names lie between the hyphen and the letter `z`. -/
lemma toNat_of_isNameChar {c : Char} (h : isNameChar c = true) :
    45 ≤ c.toNat ∧ c.toNat ≤ 122 := by
  delta isNameChar Char.isAlphanum Char.isAlpha Char.isUpper Char.isLower Char.isDigit at h
  simp only [Bool.or_eq_true, Bool.and_eq_true, decide_eq_true_eq, beq_iff_eq, ge_iff_le,
    UInt32.le_iff_toNat_le, Char.toNat_val] at h
  -- capital letters, small letters, digits, the underscore, the hyphen
  rcases h with (((⟨hlo, hhi⟩ | ⟨hlo, hhi⟩) | ⟨hlo, hhi⟩) | rfl) | rfl
  · exact ⟨le_trans (by decide) hlo, le_trans hhi (by decide)⟩
  · exact ⟨le_trans (by decide) hlo, le_trans hhi (by decide)⟩
  · exact ⟨le_trans (by decide) hlo, le_trans hhi (by decide)⟩
  · decide
  · decide

lemma isBlank_eq_false_of_isNameChar {c : Char} (h : isNameChar c = true) :
    isBlank c = false := by
  obtain ⟨hlo, hhi⟩ := toNat_of_isNameChar h
  -- no range of blanks reaches into these code points
  have houtside : ∀ range ∈ blankRanges, range.2 < 45 ∨ 122 < range.1 := by decide
  rw [isBlank, List.any_eq_false]
  intro range hrange
  have hrange := houtside range hrange
  simp only [Bool.and_eq_true, decide_eq_true_eq]
  omega

lemma isNameChar_eq_false_of_isAsciiBlank {c : Char} (h : isAsciiBlank c = true) :
    isNameChar c = false := by
  rw [Bool.eq_false_iff]
  intro hn
  rw [isAsciiBlank_eq_false_of_isNameChar hn] at h
  exact Bool.noConfusion h

lemma all_isBlank_of_all_isAsciiBlank {s : List Char} (h : s.all isAsciiBlank = true) :
    s.all isBlank = true := by
  rw [List.all_eq_true] at h ⊢
  exact fun c hc => isBlank_of_isAsciiBlank (h c hc)

/-- The keyword ends every run of blanks in front of it, whichever class they are of. -/
lemma head?_keyword_append {blank : Char → Bool} (hn : blank 'n' = false) (rest : List Char) :
    ∀ c ∈ (keyword ++ rest).head?, blank c = false := by
  intro c hc
  obtain rfl : 'n' = c := Option.some.inj hc
  exact hn

/-! ## Markers -/

/-- Where no marker begins, the cut falls further on. -/
lemma cutAtMarker_cons {c : Char} {s : List Char} (h : ¬ marker <+: c :: s) :
    cutAtMarker (c :: s) = (c :: (cutAtMarker s).1, (cutAtMarker s).2) := by
  rw [cutAtMarker]
  rintro rest rfl rfl
  exact h (List.prefix_append marker rest)

/-- **A text in which no marker begins goes in front of the cut**, whatever follows it. -/
lemma cutAtMarker_append {s t : List Char} (h : ¬ marker <:+: s ++ t.take 1) :
    cutAtMarker (s ++ t) = (s ++ (cutAtMarker t).1, (cutAtMarker t).2) := by
  induction s with
  | nil => rfl
  | cons c s ih =>
      have hs : ¬ marker <:+: s ++ t.take 1 := fun hs => h (List.infix_cons hs)
      have hc : ¬ marker <+: c :: (s ++ t) := by
        intro hc
        -- the marker is no longer than the first character and what is looked at behind it
        have htake : (c :: (s ++ t)).take 2 <+: c :: (s ++ t.take 1) := by
          cases s with
          | nil => exact List.prefix_rfl
          | cons x s => exact List.prefix_append _ (s ++ t.take 1)
        exact h ((List.prefix_take_iff.mpr ⟨hc, le_rfl⟩).trans htake).isInfix
      rw [List.cons_append, cutAtMarker_cons hc, ih hs]
      rfl

/-- **A cut that has been made stays where it is**, whatever is written behind the text. -/
lemma cutAtMarker_append_of_some {s rest : List Char} (h : (cutAtMarker s).2 = some rest)
    (t : List Char) : cutAtMarker (s ++ t) = ((cutAtMarker s).1, some (rest ++ t)) := by
  fun_induction cutAtMarker s with
  | case1 => cases h
  | case2 after =>
    obtain rfl : after = rest := Option.some.inj h
    exact cutAtMarker_marker_append (after ++ t)
  | case3 c s hne before after hcut ih =>
    rw [hcut] at ih
    rw [List.cons_append, cutAtMarker, ih h]
    -- a marker at the front would already be one of the text itself
    intro tail hc htail
    cases s with
    | nil => cases hcut; cases h
    | cons x s =>
      obtain ⟨rfl, -⟩ := List.cons.inj htail
      exact hne s hc rfl

/-- A marker is found, and nothing behind it is lost. -/
lemma exists_cutAtMarker (s rest : List Char) :
    ∃ t, (cutAtMarker (s ++ (marker ++ rest))).2 = some (t ++ rest) := by
  induction s with
  | nil => exact ⟨[], rfl⟩
  | cons c s ih =>
    by_cases hmarker : marker <+: c :: (s ++ (marker ++ rest))
    · obtain ⟨rfl, hslash⟩ := List.cons_prefix_cons.mp hmarker
      -- an earlier marker may overlap with the one that is known, or stand in front of it
      cases s with
      | nil => exact ⟨['/'], rfl⟩
      | cons x s =>
        obtain ⟨rfl, -⟩ := List.cons_prefix_cons.mp hslash
        exact ⟨s ++ marker, congrArg some (List.append_assoc s marker rest).symm⟩
    · obtain ⟨t, ht⟩ := ih
      exact ⟨t, by rw [List.cons_append, cutAtMarker_cons hmarker, ht]⟩

/-- A marker takes two slashes. -/
lemma marker_not_infix_append {s : List Char} (h : '/' ∉ s) (t : List Char) :
    ¬ marker <:+: s ++ t.take 1 := by
  intro hpart
  have hcount := hpart.sublist.count_le '/'
  have htake : (t.take 1).count '/' ≤ 1 := List.count_le_length.trans (List.length_take_le 1 t)
  rw [List.count_append, List.count_eq_zero.mpr h, Nat.zero_add] at hcount
  exact absurd (le_trans hcount htake) (by decide)

/-- No marker begins at the end of a text if no slash follows it. -/
lemma marker_not_infix_append_of_head? {s t : List Char} (h : ¬ marker <:+: s)
    (ht : ∀ c ∈ t.head?, c ≠ '/') : ¬ marker <:+: s ++ t.take 1 := by
  cases t with
  | nil => rwa [List.take_nil, List.append_nil]
  | cons c t =>
      rw [List.take_succ_cons, List.take_zero, List.infix_concat_iff, not_or]
      refine ⟨?_, h⟩
      rintro ⟨front, hfront⟩
      have hlast : front ++ ['/'] ++ ['/'] = s ++ [c] := by rw [List.append_assoc]; exact hfront
      exact ht c rfl (List.cons.inj (List.append_inj' hlast rfl).2).1.symm

/-- Without a marker there is nothing to cut. -/
lemma cutAtMarker_of_no_marker {s : List Char} (h : ¬ marker <:+: s) :
    cutAtMarker s = (s, none) := by
  have hcut : cutAtMarker (s ++ []) = (s ++ (cutAtMarker []).1, (cutAtMarker []).2) :=
    cutAtMarker_append (by rwa [List.take_nil, List.append_nil])
  simpa only [cutAtMarker, List.append_nil] using hcut

lemma cutAtMarker_of_not_mem {s : List Char} (h : '/' ∉ s) : cutAtMarker s = (s, none) :=
  cutAtMarker_of_no_marker fun hmarker => h (hmarker.subset List.mem_cons_self)

/-- The first marker behind a text without a slash is where the cut falls. -/
lemma cutAtMarker_append_marker {s : List Char} (h : '/' ∉ s) (rest : List Char) :
    cutAtMarker (s ++ (marker ++ rest)) = (s, some rest) := by
  rw [cutAtMarker_append (marker_not_infix_append h _), cutAtMarker_marker_append, List.append_nil]

lemma prefix_of_cutAtMarker (s : List Char) : (cutAtMarker s).1 <+: s :=
  ⟨_, (cutAtMarker_spec s).symm⟩

/-- **No marker stands in front of the cut.** -/
lemma marker_not_infix_cutAtMarker (s : List Char) : ¬ marker <:+: (cutAtMarker s).1 := by
  fun_induction cutAtMarker s with
  | case1 => simp [marker]
  | case2 rest => simp [marker]
  | case3 c rest hne before after hcut ih =>
    rw [hcut] at ih
    rw [List.infix_cons_iff, not_or]
    refine ⟨?_, ih⟩
    -- a marker at the front would be one of the text that was cut
    rintro ⟨tail, htail⟩
    obtain ⟨rfl, rfl⟩ := List.cons.inj htail
    have hspec := cutAtMarker_spec rest
    rw [hcut] at hspec
    exact hne _ rfl hspec

/-- What a comment says behind its second marker, if it has two. -/
def afterSecondMarker (s : List Char) : Option (List Char) :=
  (cutAtMarker s).2.bind fun rest => (cutAtMarker rest).2

/-- The second marker with the rest of its line; empty if the comment has no second marker. -/
def remarkLine (s : List Char) : List Char :=
  match afterSecondMarker s with
  | none => []
  | some rest => marker ++ rest.takeWhile (· != '\n')

end DirectiveLint.Directive
