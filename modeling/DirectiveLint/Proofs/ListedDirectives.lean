import DirectiveLint.Command
import DirectiveLint.Configuration.Words
import DirectiveLint.Language.Scanners
import DirectiveLint.Proofs.Lines

/-!
# What a listing tells apart

The line about a directive shows how many blanks stand in front of its keyword, its linters and its
explanation.  Two directives at one place may have the same line, and this module says when.

* `Comment.line_eq_line_iff` — lines are equal field by field: a field ends at the first blank that
  cannot be part of it (`Text.append_cons_eq_iff`).
* `Directive.linterText_eq_iff` — the commas cut the list of linters into their names again.  A
  hyphen takes the place of an empty list, and might be a name.
* `Directive.plain_explanationText_eq_iff` — an explanation begins with a marker, so it is never
  taken for the hyphen that takes the place of a missing one.
* `ListedAlike` — what two directives with equal lines have in common.
* `line_tells_directive` — **a line tells its directive** up to that.

Two things are not told apart: a directive for a linter named by a hyphen alone from one that names
none, and explanations that differ in control sequences, since these are left out when a line is
printed.
-/

namespace DirectiveLint

open Text

/-! ## Fields -/

namespace Text

/-- Two texts that are cut at a character, which neither of them has in front of the cut, are equal
if the pieces are. -/
lemma append_cons_eq_iff {c : Char} {s s' : List Char} (hs : c ∉ s) (hs' : c ∉ s')
    {t t' : List Char} : s ++ c :: t = s' ++ c :: t' ↔ s = s' ∧ t = t' := by
  have hcut : ∀ {u : List Char}, c ∉ u → ∀ v, (u ++ c :: v).takeWhile (· != c) = u := by
    intro u hu v
    exact takeWhile_run (all_bne_of_not_mem hu) (by simp)
  constructor
  · intro h
    have hfront := congrArg (List.takeWhile (· != c)) h
    rw [hcut hs, hcut hs'] at hfront
    subst hfront
    exact ⟨rfl, (List.cons.inj (List.append_cancel_left h)).2⟩
  · rintro ⟨rfl, rfl⟩
    rfl

lemma not_mem_natToString {c : Char} (hc : c.isDigit = false) (n : Nat) :
    c ∉ (toString n).toList := by
  rw [Nat.toString_eq_ofList_toDigits, String.toList_ofList]
  intro hmem
  rw [Nat.isDigit_of_mem_toDigits (by decide) (by decide) hmem] at hc
  cases hc

/-- Numbers are told apart by their digits. -/
lemma natToString_eq_iff {m n : Nat} : (toString m).toList = (toString n).toList ↔ m = n := by
  constructor
  · intro h
    have hvalue := congrArg (fun digits => Nat.ofDigitChars 10 digits 0) h
    simpa [Nat.toString_eq_ofList_toDigits] using hvalue
  · rintro rfl
    rfl

end Text

variable {comment comment' : Comment} {d d' : Directive}

/-- **Lines are equal field by field.** -/
lemma Comment.line_eq_line_iff (h : Directive.read comment = .ok d)
    (h' : Directive.read comment' = .ok d') (hposition : comment.position = comment'.position) :
    comment.line = comment'.line ↔ d.leadingWidth = d'.leadingWidth ∧
      d.linterText = d'.linterText ∧
        plain d.explanationText.toList = plain d'.explanationText.toList := by
  have hplace : comment.place = comment'.place := by rw [place, hposition, place]
  have hfields : ∀ width linters explanation : String,
      (comment'.place ++ ": space=" ++ width ++ " linters=" ++ linters ++ " explanation=" ++
          explanation).toList =
        (comment'.place ++ ": space=").toList ++ (width.toList ++ ' ' :: ("linters=".toList ++
          (linters.toList ++ ' ' :: ("explanation=".toList ++ explanation.toList)))) := by
    intro width linters explanation
    simp
  have hspace : ∀ n : Nat, ' ' ∉ (toString n).toList := not_mem_natToString (by decide)
  have hnames : ∀ {comment d}, Directive.read comment = .ok d → ' ' ∉ d.linterText.toList :=
    fun hread => Directive.not_mem_linterText hread (by decide) (by decide)
  rw [line_of_read h, line_of_read h', hplace, ← String.toList_inj, hfields, hfields,
    List.append_cancel_left_eq, append_cons_eq_iff (hspace _) (hspace _), natToString_eq_iff,
    List.append_cancel_left_eq, append_cons_eq_iff (hnames h) (hnames h'), String.toList_inj,
    List.append_cancel_left_eq, String.toList_ofList, String.toList_ofList]

namespace Directive

/-! ## Linters -/

/-- The names that a line shows, the hyphen for an empty list among them. -/
def shownLinters (d : Directive) : List String :=
  if d.linters.isEmpty then ["-"] else d.linters

lemma linterText_eq_intercalate (d : Directive) :
    d.linterText = ",".intercalate d.shownLinters := by
  unfold linterText shownLinters
  split <;> rfl

lemma shownLinters_ne_nil (d : Directive) : d.shownLinters ≠ [] := by
  unfold shownLinters
  split
  · exact List.cons_ne_nil _ _
  · next hne => simpa using hne

lemma comma_not_mem_of_mem_shownLinters (h : read comment = .ok d) {name : String}
    (hname : name ∈ d.shownLinters) : ',' ∉ name.toList := by
  unfold shownLinters at hname
  split at hname
  · obtain rfl := List.mem_singleton.mp hname
    decide
  · exact not_mem_of_all (all_isNameChar_of_mem_linters h hname) (by decide)

/-- The commas cut the list into its names. -/
lemma splitOn_linterText (h : read comment = .ok d) :
    d.linterText.toList.splitOn ',' = d.shownLinters.map String.toList := by
  rw [linterText_eq_intercalate, String.toList_intercalate]
  refine List.splitOn_intercalate ',' (fun s hs => ?_) (by simpa using d.shownLinters_ne_nil)
  obtain ⟨name, hname, rfl⟩ := List.mem_map.mp hs
  exact comma_not_mem_of_mem_shownLinters h hname

/-- **The linters are told apart**, but for the hyphen. -/
lemma linterText_eq_iff (h : read comment = .ok d) (h' : read comment' = .ok d') :
    d.linterText = d'.linterText ↔ d.linters = d'.linters ∨
      d.linters = [] ∧ d'.linters = ["-"] ∨ d.linters = ["-"] ∧ d'.linters = [] := by
  have hshown : d.linterText = d'.linterText ↔ d.shownLinters = d'.shownLinters := by
    constructor
    · intro htext
      have hsplit := splitOn_linterText h
      rw [htext, splitOn_linterText h'] at hsplit
      exact (List.map_injective_iff.mpr (fun _ _ => String.toList_inj.mp) hsplit).symm
    · intro hlinters
      rw [linterText_eq_intercalate, hlinters, linterText_eq_intercalate]
  rw [hshown, shownLinters, shownLinters]
  cases d.linters with
  | nil =>
    cases d'.linters with
    | nil => simp
    | cons name names => simp [eq_comm]
  | cons name names =>
    cases d'.linters with
    | nil => simp
    | cons name' names' => simp

/-! ## Explanations -/

/-- Trimming leaves the marker in front of an explanation. -/
lemma exists_trim_explanation (h : read comment = .ok d) (hexplained : d.isExplained = true) :
    ∃ rest, trim isBlank d.explanation.toList = '/' :: rest := by
  obtain ⟨l, hwf, -, -, rfl⟩ := exists_layout_of_read h
  rw [ofLayout, String.toList_ofList]
  rcases hwf.explanation_line with hnil | ⟨line, hline, -⟩
  · rw [isExplained, ofLayout, hnil] at hexplained
    cases hexplained
  · rw [hline]
    exact ⟨_, trimEnd_append_cons [] (by decide) ('/' :: line)⟩

/-- **The explanation is told apart** from every other one and from none, but for the control
sequences in it. -/
lemma plain_explanationText_eq_iff (h : read comment = .ok d) (h' : read comment' = .ok d') :
    plain d.explanationText.toList = plain d'.explanationText.toList ↔
      d.isExplained = d'.isExplained ∧ (d.isExplained = true →
        plain (trim isBlank d.explanation.toList) = plain (trim isBlank d'.explanation.toList)) := by
  have hmarker : ∀ {comment d}, read comment = .ok d → d.isExplained = true →
      plain (trim isBlank d.explanation.toList) ≠ plain "-".toList := by
    intro comment d hread hexplained hhyphen
    obtain ⟨rest, hrest⟩ := exists_trim_explanation hread hexplained
    have hslash : plain ('/' :: rest) = '/' :: plain rest :=
      plain_append_of_not_mem (by decide : ControlSequence.escape ∉ ['/']) rest
    rw [hrest, hslash] at hhyphen
    exact absurd (List.cons.inj hhyphen).1 (by decide)
  unfold explanationText
  cases hexplained : d.isExplained with
  | true =>
    cases hexplained' : d'.isExplained with
    | true => simp
    | false => simpa using hmarker h hexplained
  | false =>
    cases hexplained' : d'.isExplained with
    | true => simpa using (hmarker h' hexplained').symm
    | false => simp

end Directive

/-! ## The line as a whole -/

/-- **Directives that are listed alike.** -/
structure ListedAlike (d d' : Directive) : Prop where
  leadingWidth : d.leadingWidth = d'.leadingWidth
  linters : d.linters = d'.linters ∨
    d.linters = [] ∧ d'.linters = ["-"] ∨ d.linters = ["-"] ∧ d'.linters = []
  isExplained : d.isExplained = d'.isExplained
  explanation : d.isExplained = true →
    plain (trim isBlank d.explanation.toList) = plain (trim isBlank d'.explanation.toList)

lemma line_eq_line_iff_listedAlike (h : Directive.read comment = .ok d)
    (h' : Directive.read comment' = .ok d') (hposition : comment.position = comment'.position) :
    comment.line = comment'.line ↔ ListedAlike d d' := by
  rw [Comment.line_eq_line_iff h h' hposition, Directive.linterText_eq_iff h h',
    Directive.plain_explanationText_eq_iff h h']
  constructor
  · rintro ⟨hwidth, hlinters, hexplained, hexplanation⟩
    exact ⟨hwidth, hlinters, hexplained, hexplanation⟩
  · rintro ⟨hwidth, hlinters, hexplained, hexplanation⟩
    exact ⟨hwidth, hlinters, hexplained, hexplanation⟩

/-- **A line tells its directive.**  Two directives at one position have the same line exactly if
they are listed alike; and if no escape character is in their explanations, these are then equal
once they are trimmed. -/
theorem line_tells_directive (h : Directive.read comment = .ok d)
    (h' : Directive.read comment' = .ok d') (hposition : comment.position = comment'.position) :
    (comment.line = comment'.line ↔ ListedAlike d d') ∧
      (comment.line = comment'.line → d.isExplained = true →
        ControlSequence.escape ∉ d.explanation.toList →
        ControlSequence.escape ∉ d'.explanation.toList →
        trim isBlank d.explanation.toList = trim isBlank d'.explanation.toList) := by
  refine ⟨line_eq_line_iff_listedAlike h h' hposition, ?_⟩
  intro hline hexplained hescape hescape'
  have halike := (line_eq_line_iff_listedAlike h h' hposition).mp hline
  have hplain : ∀ {s : List Char}, ControlSequence.escape ∉ s →
      plain (trim isBlank s) = trim isBlank s := by
    intro s hs
    have htrim : ControlSequence.escape ∉ trim isBlank s :=
      fun hmem => hs ((trim_sublist isBlank s).subset hmem)
    simpa using plain_append_of_not_mem htrim []
  rw [← hplain hescape, halike.explanation hexplained, hplain hescape']

/-- Blanks around the linters and behind the explanation are not listed. -/
theorem blanks_listed_alike :
    let comment : Comment := { text := "// nolint:a,b // why ", position := ⟨"a.go", 0, 1, 1⟩ }
    let comment' : Comment := { text := "//\tnolint: a ,b// why", position := ⟨"a.go", 0, 1, 1⟩ }
    ∃ d d', Directive.read comment = .ok d ∧ Directive.read comment' = .ok d' ∧
      comment.line = comment'.line ∧ d ≠ d' ∧ ListedAlike d d' ∧
      trim isBlank d.explanation.toList = trim isBlank d'.explanation.toList := by
  intro comment comment'
  have hread : Directive.read comment =
      .ok ⟨comment.text, comment.position, " ", ["a", "b"], "// why "⟩ := by decide +kernel
  have hread' : Directive.read comment' =
      .ok ⟨comment'.text, comment'.position, "\t", ["a", "b"], "// why"⟩ := by decide +kernel
  have hline : comment.line = comment'.line := by decide +kernel
  obtain ⟨halike, hexplanation⟩ := line_tells_directive hread hread' rfl
  exact ⟨_, _, hread, hread', hline, by decide +kernel, halike.mp hline,
    hexplanation hline (by decide) (by decide) (by decide)⟩

/-- What the listing of a Go file with this text prints. -/
def listingOf (text : String) : String :=
  let fs : FileSystem := { files := [(["a.go"], text.toList.map Char.toUInt8)] }
  (Command.run fs ⟨false, .directives [⟨"", ["a.go"]⟩]⟩).stdout

/-- The comment of such a file that is one comment and nothing else. -/
def firstComment (text : String) : Comment where
  text := text
  position := ⟨"a.go", 0, 1, 1⟩

/-- **What a line does not tell**: a linter named by a hyphen from no linter at all, and an
explanation with a control sequence from the same without. -/
theorem line_hides_hyphen_and_control_sequence :
    (∃ d d', Directive.read (firstComment "//nolint") = .ok d ∧
      Directive.read (firstComment "//nolint:-") = .ok d' ∧ d.linters = [] ∧ d'.linters = ["-"]) ∧
    (firstComment "//nolint").line = (firstComment "//nolint:-").line ∧
    listingOf "//nolint" = "a.go:1:1: space=0 linters=- explanation=-\n" ∧
    listingOf "//nolint:-" = "a.go:1:1: space=0 linters=- explanation=-\n" ∧
    (∃ d d', Directive.read (firstComment "//nolint // why") = .ok d ∧
      Directive.read (firstComment "//nolint // \x1b[1mwhy") = .ok d' ∧
      trim isBlank d.explanation.toList = "// why".toList ∧
      trim isBlank d'.explanation.toList = "// \x1b[1mwhy".toList) ∧
    (firstComment "//nolint // why").line = (firstComment "//nolint // \x1b[1mwhy").line := by
  refine ⟨⟨⟨"//nolint", ⟨"a.go", 0, 1, 1⟩, "", [], ""⟩,
    ⟨"//nolint:-", ⟨"a.go", 0, 1, 1⟩, "", ["-"], ""⟩, ?_⟩, ?_, ?_, ?_,
    ⟨⟨"//nolint // why", ⟨"a.go", 0, 1, 1⟩, "", [], "// why"⟩,
      ⟨"//nolint // \x1b[1mwhy", ⟨"a.go", 0, 1, 1⟩, "", [], "// \x1b[1mwhy"⟩, ?_⟩, ?_⟩
  all_goals decide +kernel

end DirectiveLint
