import DirectiveLint.Directive.Basic
import DirectiveLint.Proofs.Cuts

/-!
# Reading what was laid out

A comment can be laid out along the strict grammar in several ways: the blanks behind a linter's
name may count as the linter's or as the gap behind the list, and blanks at the end may count as
part of an explanation.  The reader picks one layout.  This module shows that the choice never
matters.

* `retrail`, `lastTrail` — the list of linters with the blanks behind its last name changed.
* `Layout.pad`, `Layout.remark` — a comment in front of its second marker ends in `pad`; from the
  second marker on it is `remark`.
* `Layout.settled` — the layout that the reader picks: blanks in front of the second marker belong
  to the last linter, and blanks on the line of an explanation belong to the explanation.
* `Layout.ofChars?_chars` — **whatever the layout, its comment is read as the settled one.**
* `Layout.ofChars?_eq_some_iff` — a layout is read exactly from the comments it stands for.

The argument is that no piece in front of the second marker holds a slash, and no linter holds a
comma; so the two cuts of the reader fall where the pieces meet.
-/

namespace DirectiveLint.Directive

open Text

/-! ## One linter -/

lemma isAsciiBlank_eq_false_of_mem_name {t : Target} (h : t.WellFormed) :
    ∀ c ∈ t.name, isAsciiBlank c = false :=
  fun _ hc => isAsciiBlank_eq_false_of_isNameChar (List.all_eq_true.mp h.name_chars _ hc)

lemma Target.not_mem_chars {t : Target} (h : t.WellFormed) {c : Char}
    (hblank : isAsciiBlank c = false) (hname : isNameChar c = false) : c ∉ t.chars := by
  simp only [chars, List.mem_append, not_or]
  exact ⟨⟨not_mem_of_all h.lead_blank hblank, not_mem_of_all h.name_chars hname⟩,
    not_mem_of_all h.trail_blank hblank⟩

/-- Linters with commas between them are cut where the commas are. -/
lemma Target.splitOn_intercalate_chars {ts : List Target} (h : ∀ t ∈ ts, t.WellFormed)
    (hne : ts ≠ []) : ([','].intercalate (ts.map chars)).splitOn ',' = ts.map chars := by
  refine List.splitOn_intercalate ',' ?_ (by simpa using hne)
  intro s hs
  obtain ⟨t, ht, rfl⟩ := List.mem_map.mp hs
  exact not_mem_chars (h t ht) (by decide) (by decide)

/-- **A linter is read as it was written.** -/
theorem Target.ofChars?_chars {t : Target} (h : t.WellFormed) : ofChars? t.chars = some t := by
  have hname : ∀ c ∈ (t.name ++ t.trail).head?, isAsciiBlank c = false := by
    intro c hc
    cases hn : t.name with
    | nil => exact absurd hn h.name_ne_nil
    | cons x xs =>
        refine isAsciiBlank_eq_false_of_mem_name h c ?_
        rw [hn] at hc ⊢
        simp at hc
        simp [hc]
  have htrail : ∀ c ∈ t.trail.head?, isNameChar c = false := by
    intro c hc
    refine isNameChar_eq_false_of_isAsciiBlank (List.all_eq_true.mp h.trail_blank c ?_)
    exact List.mem_of_mem_head? hc
  have hlead : t.chars.takeWhile isAsciiBlank = t.lead := by
    rw [chars, List.append_assoc, takeWhile_run h.lead_blank hname]
  have hrest : t.chars.dropWhile isAsciiBlank = t.name ++ t.trail := by
    rw [chars, List.append_assoc, dropWhile_run h.lead_blank hname]
  have hnil : t.name.isEmpty = false := by
    rw [List.isEmpty_eq_false_iff]
    exact h.name_ne_nil
  simp only [ofChars?, hlead, hrest, takeWhile_run h.name_chars htrail,
    dropWhile_run h.name_chars htrail, hnil, h.trail_blank]
  rfl

/-- The name is what trimming leaves of a linter, even if it trims Unicode blanks. -/
lemma Target.trim_chars {t : Target} (h : t.WellFormed) : trim isBlank t.chars = t.name :=
  trim_of_forall (all_isBlank_of_all_isAsciiBlank h.lead_blank)
    (fun _ hc => isBlank_eq_false_of_isNameChar (List.all_eq_true.mp h.name_chars _ hc))
    (all_isBlank_of_all_isAsciiBlank h.trail_blank)

/-- Linters in a row are read as they were written. -/
lemma Target.mapM_ofChars?_chars {ts : List Target} (h : ∀ t ∈ ts, t.WellFormed) :
    (ts.map chars).mapM ofChars? = some ts := by
  induction ts with
  | nil => rfl
  | cons t ts ih =>
      rw [List.map_cons, List.mapM_cons, ofChars?_chars (h t List.mem_cons_self),
        ih fun u hu => h u (List.mem_cons_of_mem t hu)]
      rfl

/-- Linters read in a row are what they were read from, and are well formed. -/
lemma Target.of_mapM_ofChars? {ss : List (List Char)} {ts : List Target}
    (h : ss.mapM ofChars? = some ts) : ts.map chars = ss ∧ ∀ t ∈ ts, t.WellFormed := by
  induction ss generalizing ts with
  | nil =>
      obtain rfl : [] = ts := Option.some.inj h
      exact ⟨rfl, by simp⟩
  | cons s ss ih =>
      rw [List.mapM_cons] at h
      obtain ⟨t, ht, h⟩ := Option.bind_eq_some_iff.mp h
      obtain ⟨us, hus, h⟩ := Option.bind_eq_some_iff.mp h
      obtain rfl : t :: us = ts := Option.some.inj h
      obtain ⟨hchars, hwf⟩ := ih hus
      refine ⟨by rw [List.map_cons, chars_of_ofChars? ht, hchars], ?_⟩
      rintro u hu
      rcases List.mem_cons.mp hu with rfl | hu
      · exact wellFormed_of_ofChars? ht
      · exact hwf u hu

/-! ## The list of linters

A list is changed at one place only, behind its last name.  `retrail f` changes the blanks that
stand there by `f`, and `bared` takes them away.
-/

/-- The list with the blanks behind its last name changed. -/
def retrail (f : List Char → List Char) : List Target → List Target
  | [] => []
  | [t] => [{ t with trail := f t.trail }]
  | t :: u :: ts => t :: retrail f (u :: ts)

/-- The blanks behind the last name. -/
def lastTrail : List Target → List Char
  | [] => []
  | [t] => t.trail
  | _ :: u :: ts => lastTrail (u :: ts)

/-- The list without the blanks behind its last name. -/
def bared (ts : List Target) : List Target :=
  retrail (fun _ => []) ts

@[simp] lemma map_name_retrail (f : List Char → List Char) :
    ∀ ts : List Target, (retrail f ts).map Target.name = ts.map Target.name
  | [] => rfl
  | [_] => rfl
  | t :: u :: ts => by
      rw [retrail, List.map_cons, map_name_retrail f (u :: ts)]
      rfl

lemma retrail_ne_nil (f : List Char → List Char) {ts : List Target} (h : ts ≠ []) :
    retrail f ts ≠ [] := by
  intro hnil
  have hmap := map_name_retrail f ts
  rw [hnil] at hmap
  exact h (List.map_eq_nil_iff.mp hmap.symm)

lemma wellFormed_retrail {f : List Char → List Char}
    (hf : ∀ s, s.all isAsciiBlank = true → (f s).all isAsciiBlank = true) :
    ∀ {ts : List Target}, (∀ t ∈ ts, t.WellFormed) → ∀ t ∈ retrail f ts, t.WellFormed
  | [], _ => by simp [retrail]
  | [t], h => by
      obtain ⟨hlead, hne, hname, htrail⟩ := h t (List.mem_singleton_self t)
      intro u hu
      rw [retrail, List.mem_singleton] at hu
      subst hu
      exact ⟨hlead, hne, hname, hf _ htrail⟩
  | t :: u :: ts, h => by
      intro v hv
      rw [retrail, List.mem_cons] at hv
      rcases hv with rfl | hv
      · exact h v List.mem_cons_self
      · exact wellFormed_retrail hf (fun w hw => h w (List.mem_cons_of_mem t hw)) v hv

lemma wellFormed_retrail_append {ts : List Target} (h : ∀ t ∈ ts, t.WellFormed)
    {pad : List Char} (hpad : pad.all isAsciiBlank = true) :
    ∀ t ∈ retrail (· ++ pad) ts, t.WellFormed :=
  wellFormed_retrail (fun s hs => by rw [List.all_append, hs, hpad]; rfl) h

lemma lastTrail_blank : ∀ {ts : List Target}, (∀ t ∈ ts, t.WellFormed) →
    (lastTrail ts).all isAsciiBlank = true
  | [], _ => rfl
  | [t], h => (h t (List.mem_singleton_self t)).trail_blank
  | t :: u :: ts, h => by
      rw [lastTrail]
      exact lastTrail_blank fun w hw => h w (List.mem_cons_of_mem t hw)

lemma Layout.listChars_of_ne_nil {ts : List Target} (h : ts ≠ []) :
    Layout.listChars ts = ':' :: [','].intercalate (ts.map Target.chars) := by
  cases ts with
  | nil => exact absurd rfl h
  | cons t ts => rfl

/-- The comment of a list ends in the blanks behind its last name. -/
lemma intercalate_retrail (f : List Char → List Char) : ∀ {ts : List Target}, ts ≠ [] →
    [','].intercalate ((retrail f ts).map Target.chars)
      = [','].intercalate ((bared ts).map Target.chars) ++ f (lastTrail ts)
  | [], h => absurd rfl h
  | [t], _ => by simp [retrail, bared, lastTrail, Target.chars]
  | t :: u :: ts, _ => by
      have hne : u :: ts ≠ [] := List.cons_ne_nil u ts
      have ih := intercalate_retrail f hne
      have hf := retrail_ne_nil f hne
      have hbared := retrail_ne_nil (fun _ => []) hne
      rw [bared] at ih ⊢
      rw [retrail, List.map_cons, List.intercalate_cons_of_ne_nil (by simpa using hf), ih, retrail,
        List.map_cons, List.intercalate_cons_of_ne_nil (by simpa using hbared), lastTrail]
      simp only [List.append_assoc]

lemma Layout.listChars_retrail (f : List Char → List Char) {ts : List Target} (h : ts ≠ []) :
    Layout.listChars (retrail f ts) = Layout.listChars (bared ts) ++ f (lastTrail ts) := by
  have hbared : bared ts ≠ [] := retrail_ne_nil _ h
  rw [listChars_of_ne_nil (retrail_ne_nil f h), intercalate_retrail f h,
    listChars_of_ne_nil hbared, List.cons_append]

lemma retrail_id : ∀ ts : List Target, retrail (fun s => s) ts = ts
  | [] => rfl
  | [_] => rfl
  | t :: u :: ts => by rw [retrail, retrail_id (u :: ts)]

/-- **The list ends in the blanks behind its last name**, and they can be cut off. -/
lemma Layout.listChars_eq_bared_append (ts : List Target) :
    Layout.listChars ts = Layout.listChars (bared ts) ++ lastTrail ts := by
  cases ts with
  | nil => rfl
  | cons t ts =>
      have hne : t :: ts ≠ [] := List.cons_ne_nil t ts
      have h := listChars_retrail (fun s => s) hne
      rwa [retrail_id] at h

/-- **Blanks behind the list can be counted as its last linter's.** -/
lemma Layout.listChars_append_blanks {ts : List Target} (h : ts ≠ []) (pad : List Char) :
    Layout.listChars ts ++ pad = Layout.listChars (retrail (· ++ pad) ts) := by
  rw [listChars_retrail (· ++ pad) h, listChars_eq_bared_append, List.append_assoc]

lemma not_mem_intercalate_chars {c : Char} (hblank : isAsciiBlank c = false)
    (hname : isNameChar c = false) (hcomma : c ≠ ',') {ts : List Target}
    (h : ∀ t ∈ ts, t.WellFormed) : c ∉ [','].intercalate (ts.map Target.chars) := by
  refine not_mem_intercalate (by rwa [List.mem_singleton]) ?_
  intro s hs
  obtain ⟨t, ht, rfl⟩ := List.mem_map.mp hs
  exact Target.not_mem_chars (h t ht) hblank hname

/-- A list holds blanks, names, its colon and its commas, and no other character. -/
lemma Layout.not_mem_listChars {c : Char} (hblank : isAsciiBlank c = false)
    (hname : isNameChar c = false) (hcolon : c ≠ ':') (hcomma : c ≠ ',') {ts : List Target}
    (h : ∀ t ∈ ts, t.WellFormed) : c ∉ listChars ts := by
  cases ts with
  | nil => simp [listChars]
  | cons t ts =>
      rw [listChars_of_ne_nil (List.cons_ne_nil t ts), List.mem_cons, not_or]
      exact ⟨hcolon, not_mem_intercalate_chars hblank hname hcomma h⟩

namespace Layout

/-! ## The comment around its second marker -/

/-- The blanks that end the part of the comment in front of its second marker; without such a marker
everything behind the list. -/
def pad (l : Layout) : List Char :=
  if l.explanation.isEmpty then l.gap ++ l.tail else l.gap

/-- The comment from its second marker on; empty if it has none. -/
def remark (l : Layout) : List Char :=
  if l.explanation.isEmpty then [] else l.explanation ++ l.tail

/-- The part of the comment between its first two markers. -/
def front (l : Layout) : List Char :=
  l.lead ++ keyword ++ listChars l.targets ++ l.pad

lemma chars_eq (l : Layout) : l.chars = marker ++ (l.front ++ l.remark) := by
  cases hexpl : l.explanation.isEmpty with
  | true =>
      rw [List.isEmpty_iff] at hexpl
      simp [chars, front, pad, remark, hexpl]
  | false => simp [chars, front, pad, remark, hexpl]

lemma WellFormed.pad_blank {l : Layout} (h : l.WellFormed) : l.pad.all isAsciiBlank = true := by
  rw [pad]
  split
  · rw [List.all_append, h.gap_blank, h.tail_blank]
    rfl
  · exact h.gap_blank

/-- No slash stands between the first two markers. -/
lemma WellFormed.slash_not_mem_front {l : Layout} (h : l.WellFormed) : '/' ∉ l.front := by
  simp only [front, List.mem_append, not_or]
  refine ⟨⟨⟨not_mem_of_all h.lead_blank (by decide), by decide⟩, ?_⟩,
    not_mem_of_all h.pad_blank (by decide)⟩
  exact not_mem_listChars (by decide) (by decide) (by decide) (by decide) h.targets_wf

/-- What stands from the second marker on is empty, or a marker with the rest of its line and the
blanks behind it. -/
lemma WellFormed.remark_cases {l : Layout} (h : l.WellFormed) :
    (l.explanation = [] ∧ l.remark = []) ∨
      ∃ line, l.explanation = marker ++ line ∧ '\n' ∉ line ∧
        l.remark = marker ++ (line ++ l.tail) := by
  rcases h.explanation_line with hnil | ⟨line, hline, hlf⟩
  · exact Or.inl ⟨hnil, by simp [remark, hnil]⟩
  · exact Or.inr ⟨line, hline, hlf, by simp [remark, hline, marker]⟩

/-- **The first cut falls behind the front.** -/
lemma WellFormed.body_chars {l : Layout} (h : l.WellFormed) : body l.chars = l.front := by
  have hbody : body l.chars = (cutAtMarker (l.front ++ l.remark)).1 := by
    rw [chars_eq]
    rfl
  rw [hbody]
  rcases h.remark_cases with ⟨-, hnil⟩ | ⟨line, -, -, hrem⟩
  · rw [hnil, List.append_nil, cutAtMarker_of_not_mem h.slash_not_mem_front]
  · rw [hrem, cutAtMarker_append_marker h.slash_not_mem_front]

/-- **And the second marker is the explanation's.** -/
lemma WellFormed.afterSecondMarker_chars {l : Layout} (h : l.WellFormed) :
    afterSecondMarker l.chars =
      if l.explanation.isEmpty then none else some (l.explanation.drop 2 ++ l.tail) := by
  have hcut : afterSecondMarker l.chars = (cutAtMarker (l.front ++ l.remark)).2 := by
    rw [chars_eq]
    rfl
  rw [hcut]
  rcases h.remark_cases with ⟨hexpl, hnil⟩ | ⟨line, hexpl, -, hrem⟩
  · rw [hnil, List.append_nil, cutAtMarker_of_not_mem h.slash_not_mem_front, hexpl]
    rfl
  · rw [hrem, cutAtMarker_append_marker h.slash_not_mem_front, hexpl]
    rfl

lemma WellFormed.afterSecondMarker_of_nil {l : Layout} (h : l.WellFormed)
    (hnil : l.explanation = []) : afterSecondMarker l.chars = none := by
  rw [h.afterSecondMarker_chars, hnil]
  rfl

lemma WellFormed.afterSecondMarker_of_line {l : Layout} (h : l.WellFormed) {line : List Char}
    (hline : l.explanation = marker ++ line) :
    afterSecondMarker l.chars = some (line ++ l.tail) := by
  rw [h.afterSecondMarker_chars, hline]
  rfl

/-! ## The settled layout -/

/-- The layout that the reader picks for the comment of `l`. -/
def settled (l : Layout) : Layout where
  lead := l.lead
  targets := retrail (· ++ l.pad) l.targets
  gap := if l.targets.isEmpty then l.pad else []
  explanation :=
    if l.explanation.isEmpty then [] else l.explanation ++ l.tail.takeWhile (· != '\n')
  tail := if l.explanation.isEmpty then [] else l.tail.dropWhile (· != '\n')

/-- The linters of a list with blanks behind it are read with these blanks. -/
lemma list?_listChars {ts : List Target} (hts : ∀ t ∈ ts, t.WellFormed) {pad : List Char}
    (hpad : pad.all isAsciiBlank = true) :
    list? (listChars ts ++ pad)
      = some (retrail (· ++ pad) ts, if ts.isEmpty then pad else []) := by
  cases ts with
  | nil =>
      have hcolon : ':' ∉ pad := not_mem_of_all hpad (by decide)
      cases pad with
      | nil => rfl
      | cons c pad =>
          have hne : c ≠ ':' := fun hc => hcolon (by simp [hc])
          simp [listChars, list?, hne, hpad, retrail]
  | cons t ts =>
      have hne : retrail (· ++ pad) (t :: ts) ≠ [] := retrail_ne_nil _ (List.cons_ne_nil t ts)
      have hwf : ∀ u ∈ retrail (· ++ pad) (t :: ts), u.WellFormed :=
        wellFormed_retrail_append hts hpad
      rw [listChars_append_blanks (List.cons_ne_nil t ts), listChars_of_ne_nil hne, list?,
        Target.splitOn_intercalate_chars hwf hne, Target.mapM_ofChars?_chars hwf]
      rfl

/-- The explanation is read up to the end of its line. -/
lemma WellFormed.explanation?_remark {l : Layout} (h : l.WellFormed) :
    explanation? l.remark = some (l.settled.explanation, l.settled.tail) := by
  rcases h.remark_cases with ⟨hexpl, hnil⟩ | ⟨line, hexpl, hlf, hrem⟩
  · rw [hnil, settled, hexpl]
    rfl
  · have hline : ∀ c ∈ line, (c != '\n') = true :=
      List.all_eq_true.mp (all_bne_of_not_mem hlf)
    have htail : (l.tail.dropWhile (· != '\n')).all isAsciiBlank = true := by
      rw [List.all_eq_true]
      exact fun c hc => List.all_eq_true.mp h.tail_blank c ((List.dropWhile_sublist _).subset hc)
    rw [hrem, settled, hexpl]
    simp only [marker, List.cons_append, List.nil_append, explanation?,
      List.dropWhile_append_of_pos hline, List.takeWhile_append_of_pos hline, htail]
    rfl

/-- **Whatever the layout, its comment is read as the settled one.** -/
theorem ofChars?_chars {l : Layout} (h : l.WellFormed) : ofChars? l.chars = some l.settled := by
  have hkeyword : ∀ c ∈ (keyword ++ (listChars l.targets ++ l.pad ++ l.remark)).head?,
      isAsciiBlank c = false := head?_keyword_append (by decide) _
  have hslash : (listChars l.targets ++ l.pad).all (· != '/') = true := by
    refine all_bne_of_not_mem fun hmem => h.slash_not_mem_front ?_
    rw [front, List.append_assoc, List.mem_append]
    exact Or.inr hmem
  have hremark : ∀ c ∈ l.remark.head?, (c != '/') = false := by
    intro c hc
    rcases h.remark_cases with ⟨-, hnil⟩ | ⟨line, -, -, hrem⟩
    · rw [hnil] at hc
      exact absurd hc (by simp)
    · rw [hrem] at hc
      obtain rfl : '/' = c := Option.some.inj hc
      decide
  have hchars : l.chars
      = marker ++ (l.lead ++ (keyword ++ (listChars l.targets ++ l.pad ++ l.remark))) := by
    simp only [chars_eq, front, List.append_assoc]
  have hafter : keyword.isPrefixOf? (keyword ++ (listChars l.targets ++ l.pad ++ l.remark))
      = some (listChars l.targets ++ l.pad ++ l.remark) :=
    List.isPrefixOf?_eq_some_iff_append_eq.mpr rfl
  -- the cuts of the reader, in its order: marker, blanks, keyword, first slash, list, explanation
  rw [hchars, ofChars?, List.isPrefixOf?_eq_some_iff_append_eq.mpr rfl]
  simp only [Option.bind_eq_bind, Option.bind_some, takeWhile_run h.lead_blank hkeyword,
    dropWhile_run h.lead_blank hkeyword, hafter, takeWhile_run hslash hremark,
    dropWhile_run hslash hremark, list?_listChars h.targets_wf h.pad_blank, h.explanation?_remark]
  rfl

@[simp] lemma settled_names (l : Layout) :
    l.settled.targets.map Target.name = l.targets.map Target.name :=
  map_name_retrail _ l.targets

/-! ## What is read is well formed -/

lemma of_list? {s gap : List Char} {ts : List Target} (h : list? s = some (ts, gap)) :
    listChars ts ++ gap = s ∧ (∀ t ∈ ts, t.WellFormed) ∧ gap.all isAsciiBlank = true := by
  unfold list? at h
  split at h
  · next list =>
    obtain ⟨us, hus, h⟩ := Option.map_eq_some_iff.mp h
    obtain ⟨rfl, rfl⟩ := Prod.mk.inj h
    obtain ⟨hchars, hwf⟩ := Target.of_mapM_ofChars? hus
    have hne : us ≠ [] := by
      rintro rfl
      exact List.splitOn_ne_nil ',' list hchars.symm
    refine ⟨?_, hwf, rfl⟩
    rw [List.append_nil, listChars_of_ne_nil hne, hchars, List.intercalate_splitOn]
  · split at h
    · next hblank =>
      obtain ⟨rfl, rfl⟩ := Prod.mk.inj (Option.some.inj h)
      exact ⟨rfl, by simp, hblank⟩
    · cases h

lemma of_explanation? {s explanation tail : List Char}
    (h : explanation? s = some (explanation, tail)) :
    explanation ++ tail = s ∧ IsExplanation explanation ∧ tail.all isAsciiBlank = true := by
  unfold explanation? at h
  split at h
  · obtain ⟨rfl, rfl⟩ := Prod.mk.inj (Option.some.inj h)
    exact ⟨rfl, Or.inl rfl, rfl⟩
  · next rest =>
    dsimp only at h
    split at h
    · next hblank =>
      obtain ⟨rfl, rfl⟩ := Prod.mk.inj (Option.some.inj h)
      refine ⟨?_, Or.inr ⟨_, rfl, ?_⟩, hblank⟩
      · rw [List.append_assoc, List.takeWhile_append_dropWhile]
        rfl
      · exact not_mem_of_all List.all_takeWhile (by decide)
    · cases h
  · cases h

/-- **A layout that was read is well formed and stands for the comment.** -/
theorem of_ofChars? {s : List Char} {l : Layout} (h : ofChars? s = some l) :
    l.WellFormed ∧ l.chars = s := by
  unfold ofChars? at h
  obtain ⟨rest, hrest, h⟩ := Option.bind_eq_some_iff.mp h
  obtain ⟨after, hafter, h⟩ := Option.bind_eq_some_iff.mp h
  obtain ⟨⟨ts, gap⟩, hlist, h⟩ := Option.bind_eq_some_iff.mp h
  obtain ⟨⟨explanation, tail⟩, hexpl, h⟩ := Option.bind_eq_some_iff.mp h
  obtain rfl := Option.some.inj h
  -- each cut gives back what it was made of, so the pieces add up to the comment
  obtain ⟨hfront, htargets, hgap⟩ := of_list? hlist
  obtain ⟨hremark, hline, htail⟩ := of_explanation? hexpl
  refine ⟨⟨List.all_takeWhile, htargets, hgap, hline, htail⟩, ?_⟩
  rw [List.isPrefixOf?_eq_some_iff_append_eq] at hrest hafter
  calc marker ++ rest.takeWhile isAsciiBlank ++ keyword ++ listChars ts ++ gap ++ explanation
        ++ tail
      = marker ++ (rest.takeWhile isAsciiBlank
          ++ (keyword ++ ((listChars ts ++ gap) ++ (explanation ++ tail)))) := by
        simp only [List.append_assoc]
    _ = marker ++ (rest.takeWhile isAsciiBlank ++ (keyword ++ after)) := by
        rw [hfront, hremark, List.takeWhile_append_dropWhile]
    _ = s := by rw [hafter, List.takeWhile_append_dropWhile, hrest]

/-- **A layout is read exactly from the comment it stands for** if it is well formed and settled. -/
theorem ofChars?_eq_some_iff {s : List Char} {l : Layout} :
    ofChars? s = some l ↔ l.WellFormed ∧ l.chars = s ∧ l.settled = l := by
  constructor
  · intro h
    obtain ⟨hwf, rfl⟩ := of_ofChars? h
    rw [ofChars?_chars hwf] at h
    exact ⟨hwf, rfl, Option.some.inj h⟩
  · rintro ⟨hwf, rfl, hsettled⟩
    rw [ofChars?_chars hwf, hsettled]

/-- A comment has no layout exactly when none is read from it. -/
theorem ofChars?_eq_none_iff {s : List Char} :
    ofChars? s = none ↔ ¬ ∃ l : Layout, l.WellFormed ∧ l.chars = s := by
  constructor
  · rintro hnone ⟨l, hwf, rfl⟩
    rw [ofChars?_chars hwf] at hnone
    cases hnone
  · intro h
    cases hl : ofChars? s with
    | none => rfl
    | some l => exact absurd ⟨l, of_ofChars? hl⟩ h

end Layout

end DirectiveLint.Directive
