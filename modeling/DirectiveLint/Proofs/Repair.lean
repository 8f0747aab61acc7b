import DirectiveLint.Proofs.BlankTail
import DirectiveLint.Proofs.Classification

/-!
# Following the suggestions

Some issues come with a suggestion, and a repair puts the suggestion of one of them in place of the
comment.  A repair may undo another one: the suggestion to name a linter throws the explanation
away.  Even so, repairs come to an end.

* `read_closeUp`, `read_specified`, `read_explained` — how each of the three suggestions is read.
* `Repairs`, `RepairRun` — one repair, and repairs one after the other.
* `repairsLeft` — a bound on the repairs to come, which every repair lowers
  (`repairsLeft_lt_of_repairs`).
* `repairs_come_to_an_end` — **after at most four repairs nothing is left to suggest**, whichever
  suggestions are followed.

The bound counts two repairs for a directive that names no linter: one that names it, and one that
explains the directive anew.
-/

namespace DirectiveLint

open Text

namespace Directive

/-! ## Without leading blanks -/

/-- The blanks in front of the keyword are Unicode blanks, and the keyword ends them. -/
lemma toList_closeUp {full : String} {lead rest : List Char}
    (hlead : lead.all isAsciiBlank = true)
    (hfull : full.toList = marker ++ (lead ++ (keyword ++ rest))) :
    (Issue.closeUp full).toList = marker ++ (keyword ++ rest) := by
  have hkeyword : ∀ c ∈ (keyword ++ rest).head?, isBlank c = false :=
    head?_keyword_append (by decide) rest
  rw [Issue.closeUp, String.toList_ofList, hfull]
  show marker ++ (lead ++ (keyword ++ rest)).dropWhile isBlank = marker ++ (keyword ++ rest)
  rw [dropWhile_run (all_isBlank_of_all_isAsciiBlank hlead) hkeyword]

/-- Other blanks in front of the keyword fit the grammar as well. -/
lemma Layout.WellFormed.with_lead {l : Layout} (h : l.WellFormed) {lead : List Char}
    (hlead : lead.all isAsciiBlank = true) : ({ l with lead := lead } : Layout).WellFormed :=
  ⟨hlead, h.targets_wf, h.gap_blank, h.explanation_line, h.tail_blank⟩

/-- The comment without its leading blanks. -/
def closedUp (comment : Comment) : Comment :=
  { comment with text := Issue.closeUp comment.text }

lemma leadingBlanks_closedUp {comment : Comment} (h : resembles comment.text.toList = true) :
    leadingBlanks (closedUp comment).text.toList = [] := by
  obtain ⟨lead, rest, hlead, hs, -⟩ := resembles_iff.mp h
  rw [closedUp, toList_closeUp hlead hs]
  exact @leadingBlanks_of_keyword [] rfl rest

/-- **Without leading blanks a directive says what it said.** -/
theorem read_closeUp {comment : Comment} {d : Directive} (h : read comment = .ok d) :
    read (closedUp comment)
      = .ok { d with text := (closedUp comment).text, leading := "" } := by
  obtain ⟨l, hwf, hchars, hsettled, rfl⟩ := exists_layout_of_read h
  have hclosed : ({ l with lead := [] } : Layout).WellFormed := hwf.with_lead rfl
  have htext : ({ l with lead := [] } : Layout).chars = (closedUp comment).text.toList := by
    rw [closedUp, toList_closeUp hwf.lead_blank (hchars ▸ l.chars_eq_rest), Layout.chars_eq_rest]
    rfl
  have hrest : ({ l with lead := [] } : Layout).settled = { l.settled with lead := [] } := rfl
  rw [read_of_layout hclosed htext, hrest, hsettled]
  rfl

/-- **And a malformed comment stays malformed.** -/
theorem read_closeUp_error {comment : Comment} {e : Malformed}
    (hresembles : resembles comment.text.toList = true) (h : read comment = .error e) :
    read (closedUp comment) = .error ⟨(closedUp comment).text⟩ := by
  refine read_of_no_layout ?_
  rintro ⟨l, hwf, hchars⟩
  -- a layout without the blanks would be one with them, and the comment has none
  obtain ⟨lead, rest, hlead, hs, -⟩ := resembles_iff.mp hresembles
  have hnil : l.lead = [] := by
    rw [← hwf.leadingBlanks_chars, hchars, leadingBlanks_closedUp hresembles]
  have hrest : l.rest = rest := by
    have htext : l.chars = marker ++ (keyword ++ rest) := by
      rw [hchars, closedUp, toList_closeUp hlead hs]
    rw [l.chars_eq_rest, hnil] at htext
    exact List.append_cancel_left (List.append_cancel_left htext)
  have hopen : ({ l with lead := lead } : Layout).WellFormed := hwf.with_lead hlead
  have htext : ({ l with lead := lead } : Layout).chars = comment.text.toList := by
    rw [Layout.chars_eq_rest, hs, ← hrest]
    rfl
  rw [read_of_layout hopen htext] at h
  cases h

/-! ## With a linter named -/

/-- The normal form of the comment with a linter named. -/
def specified (comment : Comment) : Comment :=
  { comment with text := String.ofList (normalForm comment.text.toList) ++ ":my-linter" }

/-- **With a linter named, a directive keeps one leading blank at most** and says nothing more. -/
theorem read_specified {comment : Comment} {d : Directive} (h : read comment = .ok d) :
    read (specified comment) = .ok
      { text := (specified comment).text
        position := comment.position
        leading := if d.leading = "" then "" else " "
        linters := ["my-linter"]
        explanation := "" } := by
  obtain ⟨l, hwf, hchars, -, rfl⟩ := exists_layout_of_read h
  have hlead : (ofLayout comment l).leading = "" ↔ l.lead = [] := by
    rw [ofLayout, ← String.toList_inj, String.toList_ofList]
    rfl
  have htext : (specified comment).text.toList
      = marker ++ (if l.lead = [] then [] else [' ']) ++ keyword ++ ":my-linter".toList := by
    rw [specified, String.toList_append, String.toList_ofList, ← hchars, hwf.normalForm_chars]
    simp only [List.isEmpty_iff]
  rw [read, htext, specified]
  by_cases hnil : l.lead = []
  · rw [if_pos hnil, if_pos (hlead.mpr hnil)]
    rfl
  · rw [if_neg hnil, if_neg (hlead.not.mpr hnil)]
    rfl

/-! ## With an explanation -/

/-- The comment with an explanation in place of the empty one. -/
def explained (comment : Comment) : Comment :=
  { comment with
    text := String.ofList (withoutBlankTail comment.text.toList) ++ " // this is why" }

/-- An explanation that says something, in a layout that ends with it. -/
lemma Layout.not_unexplained_chars {l : Layout} (hwf : l.WellFormed) {line : List Char}
    (hline : l.explanation = marker ++ (line ++ "this is why".toList)) :
    ¬ Unexplained l.chars := by
  intro hun
  have hafter := hwf.afterSecondMarker_of_line hline
  have hall := List.all_eq_true.mp (hun _ hafter) 'w' (by simp)
  exact absurd hall (by decide)

/-- **The explanation can be laid out** behind what is left of the directive. -/
lemma Layout.WellFormed.exists_explained {l : Layout} (hwf : l.WellFormed)
    (hun : Unexplained l.chars) :
    ∃ l' : Layout, l'.WellFormed ∧
      l'.chars = withoutBlankTail l.chars ++ " // this is why".toList ∧
      l'.lead = l.lead ∧ l'.names = l.names ∧ ¬ Unexplained l'.chars := by
  rcases hwf.withoutBlankTail_chars hun with hstem | ⟨line, hlf, htail⟩
  · have hwf' : (⟨l.lead, bared l.targets, [' '], "// this is why".toList, []⟩ :
        Layout).WellFormed :=
      ⟨hwf.lead_blank, wellFormed_retrail (fun _ _ => rfl) hwf.targets_wf, rfl,
        Or.inr ⟨" this is why".toList, rfl, by decide⟩, rfl⟩
    refine ⟨_, hwf', ?_, rfl, ?_, @Layout.not_unexplained_chars _ hwf' [' '] rfl⟩
    · rw [hstem, Layout.stem, Layout.chars, List.append_nil]
      simp only [List.append_assoc]
      rfl
    · exact Layout.names_eq_of_map_name_eq (map_name_retrail _ l.targets)
  · have hwf' : (⟨l.lead, l.targets, l.pad, marker ++ (line ++ " // this is why".toList), []⟩ :
        Layout).WellFormed := by
      refine ⟨hwf.lead_blank, hwf.targets_wf, hwf.pad_blank, Or.inr ⟨_, rfl, ?_⟩, rfl⟩
      rw [List.mem_append, not_or]
      exact ⟨hlf, by decide⟩
    have hexpl : marker ++ (line ++ " // this is why".toList)
        = marker ++ ((line ++ " // ".toList) ++ "this is why".toList) := by
      rw [List.append_assoc line]
      rfl
    refine ⟨_, hwf', ?_, rfl, rfl, Layout.not_unexplained_chars hwf' hexpl⟩
    rw [htail, Layout.chars, Layout.front, List.append_nil]
    simp only [List.append_assoc]

/-- **With an explanation a directive is explained**, and says what it said otherwise. -/
theorem read_explained {comment : Comment} {d : Directive} (h : read comment = .ok d)
    (hun : d.isExplained = false) :
    ∃ d', read (explained comment) = .ok d' ∧ d'.leading = d.leading ∧ d'.linters = d.linters ∧
      d'.isExplained = true := by
  have hcomment := (isExplained_eq_false_iff h).mp hun
  obtain ⟨l, hwf, hchars, -, rfl⟩ := exists_layout_of_read h
  obtain ⟨l', hwf', hchars', hlead, hnames, hexplained⟩ :=
    hwf.exists_explained (hchars.symm ▸ hcomment)
  have htext : l'.chars = (explained comment).text.toList := by
    rw [hchars', hchars, explained, String.toList_append,
      @String.toList_ofList (withoutBlankTail comment.text.toList)]
  have hread := read_of_layout hwf' htext
  refine ⟨_, hread, ?_, ?_, ?_⟩
  · show String.ofList l'.lead = String.ofList l.lead
    rw [hlead]
  · show l'.settled.names = l.names
    rw [Layout.names_settled, hnames]
  · rw [← Bool.not_eq_false, isExplained_eq_false_iff hread, ← htext]
    exact hexplained

end Directive

/-! ## One repair -/

open Directive

/-- The suggestion of one of a comment's issues is put in the comment's place. -/
def Repairs (config : RuleConfig) (before after : Comment) : Prop :=
  ∃ issue ∈ review config before, ∃ text, issue.suggestion = some text ∧
    after = { before with text := text }

/-- **What a repair can do**: take the leading blanks away, name a linter where none is named, or
explain what is unexplained. -/
theorem repairs_cases {config : RuleConfig} {before after : Comment}
    (h : Repairs config before after) :
    (resembles before.text.toList = true ∧ leadingBlanks before.text.toList ≠ [] ∧
        after = closedUp before) ∨
      (∃ d, read before = .ok d ∧ d.linters = [] ∧ after = specified before) ∨
      ∃ d, read before = .ok d ∧ d.isExplained = false ∧ after = explained before := by
  obtain ⟨issue, hissue, text, htext, rfl⟩ := h
  obtain ⟨finding, hfinding, rfl⟩ := List.mem_map.mp hissue
  obtain ⟨hresembles, hspacing | ⟨_, -, rfl⟩ | ⟨d, hread, hd⟩⟩ := mem_findings_cases hfinding
  · obtain ⟨rfl | rfl, hblanks⟩ := leadingBlanks_of_mem_spacing hspacing
    · cases htext
    · obtain rfl := Option.some.inj htext
      exact Or.inl ⟨hresembles, hblanks, rfl⟩
  · cases htext
  · rcases d.mem_findings_cases hd with ⟨rfl, hlinters⟩ | ⟨linter, rfl⟩ | ⟨rfl, hexplained⟩
    · obtain rfl := Option.some.inj htext
      exact Or.inr (Or.inl ⟨d, hread, hlinters, rfl⟩)
    · cases htext
    · obtain rfl := Option.some.inj htext
      refine Or.inr (Or.inr ⟨d, hread, hexplained, ?_⟩)
      rw [explained, unexplained, (text_of_read hread).1]

/-! ## Repairs get fewer

The blanks go once and for all.  Naming a linter may cost the explanation, so it has to count for
more than explaining does.
-/

/-- A bound on the repairs that a directive can still go through. -/
def Directive.repairsLeft (d : Directive) : ℕ :=
  (if d.leading = "" then 0 else 1) + (if d.linters = [] then 2 else 0) +
    (if d.isExplained then 0 else 1)

/-- A bound on the repairs that a comment can still go through. -/
def repairsLeft (comment : Comment) : ℕ :=
  match read comment with
  | .ok d => d.repairsLeft
  | .error _ => if leadingBlanks comment.text.toList = [] then 0 else 1

lemma repairsLeft_of_read {comment : Comment} {d : Directive} (h : read comment = .ok d) :
    repairsLeft comment = d.repairsLeft := by
  rw [repairsLeft, h]

lemma repairsLeft_of_error {comment : Comment} {e : Malformed} (h : read comment = .error e) :
    repairsLeft comment = if leadingBlanks comment.text.toList = [] then 0 else 1 := by
  rw [repairsLeft, h]

lemma repairsLeft_le (comment : Comment) : repairsLeft comment ≤ 4 := by
  cases h : read comment with
  | ok d =>
      rw [repairsLeft_of_read h, Directive.repairsLeft]
      split_ifs <;> omega
  | error e =>
      rw [repairsLeft_of_error h]
      split_ifs <;> omega

lemma repairsLeft_closedUp_lt {comment : Comment}
    (hresembles : resembles comment.text.toList = true)
    (hblanks : leadingBlanks comment.text.toList ≠ []) :
    repairsLeft (closedUp comment) < repairsLeft comment := by
  cases h : read comment with
  | ok d =>
      have hleading : d.leading ≠ "" := by
        rintro hnil
        rw [← leading_of_read h, hnil] at hblanks
        exact hblanks rfl
      rw [repairsLeft_of_read h, repairsLeft_of_read (read_closeUp h), Directive.repairsLeft,
        Directive.repairsLeft, if_neg hleading, if_pos rfl]
      show 0 + (if d.linters = [] then 2 else 0) + (if d.isExplained then 0 else 1)
        < 1 + (if d.linters = [] then 2 else 0) + (if d.isExplained then 0 else 1)
      omega
  | error e =>
      rw [repairsLeft_of_error h, repairsLeft_of_error (read_closeUp_error hresembles h),
        if_pos (leadingBlanks_closedUp hresembles), if_neg hblanks]
      exact Nat.one_pos

lemma repairsLeft_specified_lt {comment : Comment} {d : Directive} (h : read comment = .ok d)
    (hlinters : d.linters = []) : repairsLeft (specified comment) < repairsLeft comment := by
  rw [repairsLeft_of_read h, repairsLeft_of_read (read_specified h), Directive.repairsLeft,
    Directive.repairsLeft, if_pos hlinters, if_neg (List.cons_ne_nil _ _)]
  -- one blank is left where there was any, so the first part of the bound stays
  have hleading : (if (if d.leading = "" then "" else " ") = "" then 0 else 1)
      = if d.leading = "" then 0 else 1 := by
    by_cases hnil : d.leading = ""
    · rw [if_pos hnil, if_pos hnil, if_pos rfl]
    · rw [if_neg hnil, if_neg hnil, if_neg (by decide)]
  rw [hleading]
  split_ifs <;> omega

lemma repairsLeft_explained_lt {comment : Comment} {d : Directive} (h : read comment = .ok d)
    (hun : d.isExplained = false) : repairsLeft (explained comment) < repairsLeft comment := by
  obtain ⟨d', hread, hleading, hlinters, hexplained⟩ := read_explained h hun
  rw [repairsLeft_of_read h, repairsLeft_of_read hread, Directive.repairsLeft,
    Directive.repairsLeft, hleading, hlinters, hexplained, hun]
  simp

/-- **Every repair lowers the bound.** -/
theorem repairsLeft_lt_of_repairs {config : RuleConfig} {before after : Comment}
    (h : Repairs config before after) : repairsLeft after < repairsLeft before := by
  rcases repairs_cases h with ⟨hresembles, hblanks, rfl⟩ | ⟨d, hread, hlinters, rfl⟩ |
    ⟨d, hread, hun, rfl⟩
  · exact repairsLeft_closedUp_lt hresembles hblanks
  · exact repairsLeft_specified_lt hread hlinters
  · exact repairsLeft_explained_lt hread hun

/-- **A repair changes nothing about whether a comment follows the grammar.** -/
theorem follows_grammar_iff_of_repairs {config : RuleConfig} {before after : Comment}
    (h : Repairs config before after) :
    (∃ d, read after = .ok d) ↔ ∃ d, read before = .ok d := by
  rcases repairs_cases h with ⟨hresembles, -, rfl⟩ | ⟨d, hread, -, rfl⟩ | ⟨d, hread, hun, rfl⟩
  · cases hread : read before with
    | ok d => exact ⟨fun _ => ⟨d, rfl⟩, fun _ => ⟨_, read_closeUp hread⟩⟩
    | error e =>
        rw [read_closeUp_error hresembles hread]
        exact ⟨fun ⟨_, hd⟩ => (by cases hd), fun ⟨_, hd⟩ => (by cases hd)⟩
  · exact ⟨fun _ => ⟨d, hread⟩, fun _ => ⟨_, read_specified hread⟩⟩
  · obtain ⟨d', hread', -⟩ := read_explained hread hun
    exact ⟨fun _ => ⟨d, hread⟩, fun _ => ⟨d', hread'⟩⟩

/-! ## Repairs one after the other -/

/-- Repairs one after the other: the comments they give, in order, and the last comment. -/
inductive RepairRun (config : RuleConfig) : Comment → List Comment → Comment → Prop
  | done (comment : Comment) : RepairRun config comment [] comment
  | step {before next last : Comment} {later : List Comment} :
      Repairs config before next → RepairRun config next later last →
        RepairRun config before (next :: later) last

/-- No issue of the comment asks for a repair. -/
def NeedsNoRepair (config : RuleConfig) (comment : Comment) : Prop :=
  ∀ issue ∈ review config comment, issue.finding ≠ .notMachineReadable ∧
    issue.finding ≠ .notSpecific ∧ ∀ bare, issue.finding ≠ .noExplanation bare

lemma RepairRun.length_add_repairsLeft_le {config : RuleConfig} {first last : Comment}
    {later : List Comment} (h : RepairRun config first later last) :
    later.length + repairsLeft last ≤ repairsLeft first := by
  induction h with
  | done comment => simp
  | step hstep _ ih =>
      have hlt := repairsLeft_lt_of_repairs hstep
      rw [List.length_cons]
      omega

lemma RepairRun.follows_grammar_iff {config : RuleConfig} {first last : Comment}
    {later : List Comment} (h : RepairRun config first later last) :
    ∀ comment ∈ later, (∃ d, read comment = .ok d) ↔ ∃ d, read first = .ok d := by
  induction h with
  | done comment => exact fun _ h => absurd h List.not_mem_nil
  | step hstep _ ih =>
      have hiff := follows_grammar_iff_of_repairs hstep
      intro comment hcomment
      rcases List.mem_cons.mp hcomment with rfl | hcomment
      · exact hiff
      · exact (ih comment hcomment).trans hiff

/-- Repairs can be continued until there is none left. -/
lemma exists_finished_run (config : RuleConfig) (comment : Comment) :
    ∃ later last, RepairRun config comment later last ∧ ∀ next, ¬ Repairs config last next := by
  -- on the bound, not on a run: no run is given yet
  induction hn : repairsLeft comment using Nat.strong_induction_on generalizing comment with
  | _ n ih =>
      by_cases h : ∃ next, Repairs config comment next
      · obtain ⟨next, hnext⟩ := h
        obtain ⟨later, last, hrun, hdone⟩ :=
          ih _ (hn ▸ repairsLeft_lt_of_repairs hnext) next rfl
        exact ⟨next :: later, last, .step hnext hrun, hdone⟩
      · exact ⟨[], comment, .done comment, fun next hnext => h ⟨next, hnext⟩⟩

/-- The three kinds of issues that ask for a repair are those with a suggestion. -/
lemma Issue.suggestion_eq_none_iff {issue : Issue} :
    issue.suggestion = none ↔ issue.finding ≠ .notMachineReadable ∧
      issue.finding ≠ .notSpecific ∧ ∀ bare, issue.finding ≠ .noExplanation bare := by
  obtain ⟨finding, full, canonical, position⟩ := issue
  cases finding <;> simp [suggestion]

lemma needsNoRepair_iff {config : RuleConfig} {comment : Comment} :
    NeedsNoRepair config comment ↔ ∀ next, ¬ Repairs config comment next := by
  constructor
  · rintro h next ⟨issue, hissue, text, htext, -⟩
    rw [Issue.suggestion_eq_none_iff.mpr (h issue hissue)] at htext
    cases htext
  · intro h issue hissue
    rw [← Issue.suggestion_eq_none_iff]
    cases htext : issue.suggestion with
    | none => rfl
    | some text => exact absurd ⟨issue, hissue, text, htext, rfl⟩ (h _)

/-- **Repairs come to an end.**  Whichever suggestions are followed, there are four repairs at most;
where no further repair is possible, and only there, no issue asks for one; every run can be
continued to such an end; and on the way a comment that follows the grammar keeps following it, and
a malformed one stays malformed. -/
theorem repairs_come_to_an_end {config : RuleConfig} {first last : Comment} {later : List Comment}
    (h : RepairRun config first later last) :
    later.length ≤ 4 ∧
    (NeedsNoRepair config last ↔ ∀ next, ¬ Repairs config last next) ∧
    (∃ more final, RepairRun config last more final ∧ NeedsNoRepair config final ∧
      later.length + more.length ≤ 4) ∧
    ∀ comment ∈ later, (∃ d, read comment = .ok d) ↔ ∃ d, read first = .ok d := by
  have hlength := h.length_add_repairsLeft_le
  have hfour := repairsLeft_le first
  obtain ⟨more, final, hrun, hdone⟩ := exists_finished_run config last
  have hmore := hrun.length_add_repairsLeft_le
  refine ⟨by omega, needsNoRepair_iff, ⟨more, final, hrun, needsNoRepair_iff.mpr hdone, ?_⟩,
    h.follows_grammar_iff⟩
  omega

/-- The four repairs of a directive with a leading blank, no linter and no explanation, if the
explanation is given first. -/
theorem repairs_come_to_an_end_after_four :
    RepairRun {} ⟨"// nolint", {}⟩
      [⟨"// nolint // this is why", {}⟩, ⟨"// nolint:my-linter", {}⟩, ⟨"//nolint:my-linter", {}⟩,
        ⟨"//nolint:my-linter // this is why", {}⟩]
      ⟨"//nolint:my-linter // this is why", {}⟩ ∧
    ∃ more final, RepairRun {} ⟨"//nolint:my-linter // this is why", {}⟩ more final ∧
      NeedsNoRepair {} final ∧ 4 + more.length ≤ 4 := by
  have hrun : RepairRun {} ⟨"// nolint", {}⟩
      [⟨"// nolint // this is why", {}⟩, ⟨"// nolint:my-linter", {}⟩, ⟨"//nolint:my-linter", {}⟩,
        ⟨"//nolint:my-linter // this is why", {}⟩]
      ⟨"//nolint:my-linter // this is why", {}⟩ := by
    refine .step ⟨Issue.about ⟨"// nolint", {}⟩ (.noExplanation "// nolint"), by decide, _, rfl,
      rfl⟩ ?_
    refine .step ⟨Issue.about ⟨"// nolint // this is why", {}⟩ .notSpecific, by decide, _, rfl,
      rfl⟩ ?_
    refine .step ⟨Issue.about ⟨"// nolint:my-linter", {}⟩ .notMachineReadable, by decide, _, rfl,
      rfl⟩ ?_
    refine .step ⟨Issue.about ⟨"//nolint:my-linter", {}⟩ (.noExplanation "//nolint:my-linter"),
      by decide, _, rfl, rfl⟩ ?_
    exact .done _
  exact ⟨hrun, (repairs_come_to_an_end hrun).2.2.1⟩

end DirectiveLint
