import DirectiveLint.Text.Blank

/-!
# Recognising directives

A directive is a `//` comment whose first word is `nolint`.  Reading one happens in two tiers: a
permissive test that keeps ordinary comments out, and a strict grammar (`Directive.Layout`) for what
passes the test.  This module is the permissive tier.  Its functions answer for *every* comment, so
that a directive with a mistake in it can still be talked about.

* `resembles` — the comment claims to be a directive.
* `leadingBlanks` — what stands between the marker and the keyword.
* `head` — the text between the first two markers, up to the first colon.
* `targets` — the comment lists a given linter.
* `normalForm` — the head behind the marker, with at most one space between them.

Everything here reads the comment up to its second marker and no further, so an explanation never
changes an answer.  The functions are on lists of characters; `Text.isAsciiBlank` says which
characters are skipped.
-/

namespace DirectiveLint.Directive

open Text

/-! ## The two fixed words -/

/-- The marker that opens a line comment and, inside a directive, the explanation. -/
def marker : List Char := ['/', '/']

/-- The word that makes a comment a directive. -/
def keyword : List Char := ['n', 'o', 'l', 'i', 'n', 't']

/-- The characters of linter names: ASCII letters and digits, the underscore and the hyphen. -/
def isNameChar (c : Char) : Bool :=
  c.isAlphanum || c == '_' || c == '-'

theorem isAsciiBlank_eq_false_of_isNameChar {c : Char} (h : isNameChar c = true) :
    isAsciiBlank c = false := by
  rw [Bool.eq_false_iff]
  intro hb
  simp only [isAsciiBlank, Bool.or_eq_true, beq_iff_eq, Bool.and_eq_true,
    decide_eq_true_eq] at hb
  rcases hb with rfl | ⟨h₁, h₂⟩
  · revert h
    decide
  · have hc : c = Char.ofNat c.toNat := (Char.ofNat_toNat c).symm
    have hn : c.toNat = 9 ∨ c.toNat = 10 ∨ c.toNat = 11 ∨ c.toNat = 12 ∨ c.toNat = 13 := by
      omega
    rcases hn with hn | hn | hn | hn | hn <;>
      · rw [hc, hn] at h
        revert h
        decide

/-! ## The permissive test -/

/-- The word right after a comment's marker and blanks is the keyword: the end of the comment
follows, or a character that no linter name could have.  A hyphen is such a name character, so
`nolint-style` is prose. -/
def opensDirective (s : List Char) : Bool :=
  match keyword.isPrefixOf? (trimStart isAsciiBlank s) with
  | none => false
  | some [] => true
  | some (c :: _) => !isNameChar c

/-- **The comment claims to be a directive.** -/
def resembles (s : List Char) : Bool :=
  match marker.isPrefixOf? s with
  | none => false
  | some rest => opensDirective rest

/-! ## Looking at any comment -/

/-- The blanks right after the marker; none if the comment does not start with the marker. -/
def leadingBlanks (s : List Char) : List Char :=
  match marker.isPrefixOf? s with
  | none => []
  | some rest => rest.takeWhile isAsciiBlank

/-- The text before the first marker, and what follows that marker if there is one. -/
def cutAtMarker : List Char → List Char × Option (List Char)
  | [] => ([], none)
  | '/' :: '/' :: rest => ([], some rest)
  | c :: rest =>
    let (before, after) := cutAtMarker rest
    (c :: before, after)

/-- The text between the first two markers, or up to the end if there is only one. -/
def body (s : List Char) : List Char :=
  match (cutAtMarker s).2 with
  | none => []
  | some rest => (cutAtMarker rest).1

/-- The part of the body before its first colon: in a directive, the keyword and the blanks around
it. -/
def head (s : List Char) : List Char :=
  (body s).takeWhile (· != ':')

/-- The comma-separated items after the body's first colon, blanks trimmed; none without a colon. -/
def listed (s : List Char) : List (List Char) :=
  match (body s).dropWhile (· != ':') with
  | [] => []
  | _ :: list => (list.splitOn ',').map (trim isBlank)

def targets (s name : List Char) : Bool :=
  (listed s).contains name

/-- **The head behind the marker**, with one space between them if the comment has any blank there
and none otherwise. -/
def normalForm (s : List Char) : List Char :=
  marker ++ (if (leadingBlanks s).isEmpty then [] else [' ']) ++ trim isBlank (head s)

/-! ## Two facts about the cut -/

/-- Cutting at the marker loses nothing. -/
theorem cutAtMarker_spec (s : List Char) :
    s = (cutAtMarker s).1 ++ (match (cutAtMarker s).2 with
      | none => []
      | some rest => marker ++ rest) := by
  fun_induction cutAtMarker s with
  | case1 => rfl
  | case2 rest => rfl
  | case3 c rest _ before after hcut ih =>
    rw [hcut] at ih
    simpa using ih

theorem cutAtMarker_marker_append (rest : List Char) :
    cutAtMarker (marker ++ rest) = ([], some rest) := rfl

end DirectiveLint.Directive
