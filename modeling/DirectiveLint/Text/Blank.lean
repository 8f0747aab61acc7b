/-!
# Blank characters

Two classes of blank characters live side by side in directive comments.

* `isAsciiBlank` — what the directive grammar itself skips: the space and the five control
  characters from tab to carriage return.  Everything that decides whether a comment is a
  directive, and which linters it names, reads blanks this way.
* `isBlank` — every character with the Unicode property *White_Space*, together with the four
  information separators U+001C to U+001F.  Trimming a name or an explanation reads blanks this
  way.

Every grammar blank is a Unicode blank (`isBlank_of_isAsciiBlank`), so trimming never leaves a
character at an end which the grammar would have skipped.

The cuts `trimStart`, `trimEnd` and `trim` are on lists of characters; the class of characters to
cut is a parameter, because both classes are trimmed somewhere.
-/

namespace DirectiveLint.Text

/-! ## The two classes -/

/-- The blanks of the directive grammar: space, tab, line feed, vertical tab, form feed and
carriage return. -/
def isAsciiBlank (c : Char) : Bool :=
  c == ' ' || (9 ≤ c.toNat && c.toNat ≤ 13)

def blankRanges : List (Nat × Nat) :=
  [(0x09, 0x0D), (0x1C, 0x20), (0x85, 0x85), (0xA0, 0xA0), (0x1680, 0x1680), (0x2000, 0x200A),
   (0x2028, 0x2029), (0x202F, 0x202F), (0x205F, 0x205F), (0x3000, 0x3000)]

/-- A Unicode blank.  The zero-width characters (U+200B, U+2060, U+FEFF) are not blanks. -/
def isBlank (c : Char) : Bool :=
  blankRanges.any fun (first, last) => first ≤ c.toNat && c.toNat ≤ last

/-- **The grammar's blanks are Unicode blanks.** -/
theorem isBlank_of_isAsciiBlank {c : Char} (h : isAsciiBlank c = true) : isBlank c = true := by
  simp only [isAsciiBlank, Bool.or_eq_true, beq_iff_eq, Bool.and_eq_true,
    decide_eq_true_eq] at h
  rcases h with rfl | ⟨h₁, h₂⟩
  · decide
  · simp [isBlank, blankRanges, h₁, h₂]

/-! ## Cutting blanks off

All three cuts take the class as their first argument and never look past the first character
that is not in it.
-/

/-- The text from its first character outside the class on. -/
def trimStart (blank : Char → Bool) (s : List Char) : List Char :=
  s.dropWhile blank

/-- The text up to its last character outside the class. -/
def trimEnd (blank : Char → Bool) (s : List Char) : List Char :=
  (s.reverse.dropWhile blank).reverse

/-- The text between its first and its last character outside the class. -/
def trim (blank : Char → Bool) (s : List Char) : List Char :=
  trimEnd blank (trimStart blank s)

@[simp] theorem trimStart_nil (blank : Char → Bool) : trimStart blank [] = [] := rfl

@[simp] theorem trimEnd_nil (blank : Char → Bool) : trimEnd blank [] = [] := rfl

@[simp] theorem trim_nil (blank : Char → Bool) : trim blank [] = [] := rfl

/-- **Nothing but blanks is cut off at the front.** -/
theorem takeWhile_append_trimStart (blank : Char → Bool) (s : List Char) :
    s.takeWhile blank ++ trimStart blank s = s :=
  List.takeWhile_append_dropWhile

theorem trimStart_eq_nil_of_all {blank : Char → Bool} {s : List Char}
    (h : s.all blank = true) : trimStart blank s = [] := by
  induction s with
  | nil => rfl
  | cons c s ih =>
    simp only [List.all_cons, Bool.and_eq_true] at h
    simpa [trimStart, h.1] using ih h.2

end DirectiveLint.Text
