import DirectiveLint.Directive.Recognition

/-!
# The layout of a directive

The strict grammar of directives is

    // blanks nolint [: name, name, …] blanks [// explanation] blanks

and a `Layout` is one way to lay a comment out along it: the pieces of the comment in order, blanks
included.  The grammar is then two definitions that can be held against each other.

* `Layout.chars` — the comment that a layout stands for: its pieces one after the other.
* `Layout.WellFormed` — the pieces are what the grammar allows in their places.
* `Layout.ofChars?` — the layout of a comment, if it has one.

`Layout.ofChars?` never looks back.  No piece in front of the explanation can hold a slash, so the
first slash after the keyword decides where the explanation starts; and names hold no comma, so
the list of linters is cut at every comma.
-/

namespace DirectiveLint.Directive

open Text

/-! ## The pieces -/

/-- One linter of the list, with the blanks around its name. -/
structure Target where
  lead : List Char
  name : List Char
  trail : List Char
  deriving DecidableEq

def Target.chars (t : Target) : List Char :=
  t.lead ++ t.name ++ t.trail

structure Target.WellFormed (t : Target) : Prop where
  lead_blank : t.lead.all isAsciiBlank = true
  name_ne_nil : t.name ≠ []
  name_chars : t.name.all isNameChar = true
  trail_blank : t.trail.all isAsciiBlank = true

/-- The pieces of a directive between the marker and the end, the keyword left out. -/
structure Layout where
  /-- Between the marker and the keyword. -/
  lead : List Char
  /-- The linters named after the keyword; none for a directive that covers every linter. -/
  targets : List Target
  /-- Between the keyword, or the last linter, and the explanation. -/
  gap : List Char
  /-- From the second marker to the end of its line; empty if there is no second marker. -/
  explanation : List Char
  /-- Behind the explanation. -/
  tail : List Char
  deriving DecidableEq

namespace Layout

/-- The list of linters as it stands in the comment: a colon, and commas between the linters. -/
def listChars : List Target → List Char
  | [] => []
  | ts => ':' :: [','].intercalate (ts.map Target.chars)

def chars (l : Layout) : List Char :=
  marker ++ l.lead ++ keyword ++ listChars l.targets ++ l.gap ++ l.explanation ++ l.tail

def IsExplanation (s : List Char) : Prop :=
  s = [] ∨ ∃ line, s = marker ++ line ∧ '\n' ∉ line

structure WellFormed (l : Layout) : Prop where
  lead_blank : l.lead.all isAsciiBlank = true
  targets_wf : ∀ t ∈ l.targets, t.WellFormed
  gap_blank : l.gap.all isAsciiBlank = true
  explanation_line : IsExplanation l.explanation
  tail_blank : l.tail.all isAsciiBlank = true

end Layout

/-! ## Reading a layout -/

/-- One linter with the blanks around it, from what stands between two commas. -/
def Target.ofChars? (s : List Char) : Option Target :=
  let rest := s.dropWhile isAsciiBlank
  let name := rest.takeWhile isNameChar
  let trail := rest.dropWhile isNameChar
  if name.isEmpty || !trail.all isAsciiBlank then none
  else some ⟨s.takeWhile isAsciiBlank, name, trail⟩

namespace Layout

/-- What may stand between the keyword and the explanation: the linters, and the blanks behind the
keyword when there are none.  Blanks behind the last linter belong to it. -/
def list? : List Char → Option (List Target × List Char)
  | ':' :: list => ((list.splitOn ',').mapM Target.ofChars?).map (·, [])
  | gap => if gap.all isAsciiBlank then some ([], gap) else none

/-- The explanation and the blanks behind it.  Only what follows the explanation's line has to be
blank. -/
def explanation? : List Char → Option (List Char × List Char)
  | [] => some ([], [])
  | '/' :: '/' :: rest =>
    let tail := rest.dropWhile (· != '\n')
    if tail.all isAsciiBlank then some (marker ++ rest.takeWhile (· != '\n'), tail) else none
  | _ => none

/-- **The layout of a comment**, if it follows the strict grammar. -/
def ofChars? (s : List Char) : Option Layout := do
  let rest ← marker.isPrefixOf? s
  let afterKeyword ← keyword.isPrefixOf? (rest.dropWhile isAsciiBlank)
  let (targets, gap) ← list? (afterKeyword.takeWhile (· != '/'))
  let (explanation, tail) ← explanation? (afterKeyword.dropWhile (· != '/'))
  return ⟨rest.takeWhile isAsciiBlank, targets, gap, explanation, tail⟩

end Layout

/-! ## What is read is what was written -/

theorem Target.chars_of_ofChars? {s : List Char} {t : Target} (h : ofChars? s = some t) :
    t.chars = s := by
  simp only [ofChars?] at h
  split at h
  · simp at h
  · obtain rfl := Option.some.inj h
    simp [chars, List.append_assoc, List.takeWhile_append_dropWhile]

theorem Target.wellFormed_of_ofChars? {s : List Char} {t : Target} (h : ofChars? s = some t) :
    t.WellFormed := by
  simp only [ofChars?] at h
  split at h
  · simp at h
  · next hc =>
    obtain rfl := Option.some.inj h
    simp only [Bool.or_eq_true, Bool.not_eq_true', not_or, Bool.not_eq_true,
      Bool.not_eq_false] at hc
    exact ⟨List.all_takeWhile, by simpa using hc.1, List.all_takeWhile, hc.2⟩

end DirectiveLint.Directive
