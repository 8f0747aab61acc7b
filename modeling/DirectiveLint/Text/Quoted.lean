import DirectiveLint.Text.Printable

/-!
# Quoted text

Comments and paths appear in messages between quotation marks, on one line, and so that two
different texts never look alike.  `quote` writes them that way.

* `mark` — the quotation mark of a text: single, or double when the text holds a single mark and
  no double one.
* `escape` — one character between the marks.  The backslash and the mark in use are preceded by a
  backslash; line feed, carriage return and tab have short names; any other character without a
  visible form is written by its code point in two, four or eight hexadecimal digits.
* `quote` — the whole text.
-/

namespace DirectiveLint.Text.Quoted

/-- The hexadecimal digits of a number, filled up with zeros to `width` digits. -/
def hexDigits (width n : Nat) : List Char :=
  let digits := Nat.toDigits 16 n
  List.replicate (width - digits.length) '0' ++ digits

/-- **The quotation mark of a text.**  Single marks are used unless that would force an escape
which double marks avoid. -/
def mark (s : List Char) : Char :=
  if s.contains '\'' && !s.contains '"' then '"' else '\''

/-- A character without a visible form, by its code point: the shortest of the three widths that
holds it. -/
def codePoint (c : Char) : List Char :=
  if c.toNat < 0x100 then '\\' :: 'x' :: hexDigits 2 c.toNat
  else if c.toNat < 0x10000 then '\\' :: 'u' :: hexDigits 4 c.toNat
  else '\\' :: 'U' :: hexDigits 8 c.toNat

/-- One character as it stands between the quotation marks `m`. -/
def escape (m c : Char) : List Char :=
  if c == m || c == '\\' then ['\\', c]
  else if c == '\n' then ['\\', 'n']
  else if c == '\r' then ['\\', 'r']
  else if c == '\t' then ['\\', 't']
  else if isPrintable c then [c]
  else codePoint c

def quote (s : String) : String :=
  let m := mark s.toList
  String.ofList (m :: s.toList.flatMap (escape m) ++ [m])

/-- **A text without quotation marks, backslashes and invisible characters** stands between single
marks as it is. -/
theorem flatMap_escape_of_plain {m : Char} {s : List Char}
    (h : ∀ c ∈ s, (c == m || c == '\\') = false ∧ c ∉ ['\n', '\r', '\t'] ∧ isPrintable c = true) :
    s.flatMap (escape m) = s := by
  induction s with
  | nil => rfl
  | cons c s ih =>
    obtain ⟨hm, hc, hp⟩ := h c (by simp)
    have hs := ih fun d hd => h d (by simp [hd])
    have hone : escape m c = [c] := by
      simp only [List.mem_cons, List.not_mem_nil, or_false, not_or] at hc
      simp [escape, hm, hc, hp]
    rw [List.flatMap_cons, hone, hs, List.singleton_append]

end DirectiveLint.Text.Quoted
