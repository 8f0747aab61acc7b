import DirectiveLint.Language.Scanner

/-!
# Comments of Go sources

A Go comment is `/* … */`, which may span lines, or `//` up to the end of its line.  Neither starts
inside a literal.

* Interpreted strings have escapes with a backslash and end at their line's end at the latest.  A
  backslash that begins no escape breaks the string: what follows is read as code.
* Raw strings stand between backquotes, have no escapes and may span lines.
* A rune literal is one character, or one escape, between single quotation marks.  What begins like
  one and goes on differently is skipped as far as it is alike (`runeLength`).

`Go.scanner` remembers which of these surrounds the current byte.
-/

namespace DirectiveLint.Go

/-- What surrounds a byte. -/
inductive Mode where
  | code
  /-- Inside a comment that ends with its line. -/
  | line (start : Mark)
  /-- In front of the star that opens a comment between delimiters. -/
  | opening (start : Mark)
  /-- Inside a comment between delimiters. -/
  | block (start : Mark)
  /-- Inside such a comment, behind a star. -/
  | blockStar (start : Mark)
  /-- Inside an interpreted string. -/
  | text
  /-- Inside such a string, behind the backslash of an escape. -/
  | escaped
  /-- Behind what broke such a string.  Up to the next blank, a quotation mark ends it still. -/
  | broken
  /-- Inside a rune literal, which takes so many more bytes behind this one. -/
  | rune (more : Nat)
  | raw
  deriving DecidableEq, Repr

/-! ## Literals -/

/-- The backquote, which delimits raw strings. -/
def backquote : UInt8 := 0x60

/-- The length of the quotation mark that ends a rune literal, zero if none stands here. -/
def runeEnd : List UInt8 → Nat
  | b :: _ => if b == '\''.toUInt8 then 1 else 0
  | [] => 0

/-- The length of a run of so many digits, as far as it goes, and of the quotation mark behind a
run that is complete. -/
def runeDigits (isDigit : UInt8 → Bool) : Nat → List UInt8 → Nat
  | 0, ahead => runeEnd ahead
  | _ + 1, [] => 0
  | count + 1, b :: ahead => if isDigit b then runeDigits isDigit count ahead + 1 else 0

def isOctalDigit (b : UInt8) : Bool :=
  '0'.toUInt8 ≤ b && b ≤ '7'.toUInt8

/-- The letters and marks that are an escape of a rune literal by themselves. -/
def runeEscapes : List UInt8 :=
  ['a', 'b', 'f', 'n', 'r', 't', 'v', '\\', '\'', '"'].map Char.toUInt8

/-- The length of a rune literal behind its backslash, as far as it goes. -/
def runeEscape : List UInt8 → Nat
  | [] => 0
  | b :: ahead =>
    if runeEscapes.contains b then runeEnd ahead + 1
    else if b == 'x'.toUInt8 then runeDigits isHexDigit 2 ahead + 1
    else if b == 'u'.toUInt8 then runeDigits isHexDigit 4 ahead + 1
    else if b == 'U'.toUInt8 then runeDigits isHexDigit 8 ahead + 1
    else runeDigits isOctalDigit 3 (b :: ahead)

/-- A byte that continues a character of several bytes. -/
def continuesCharacter (b : UInt8) : Bool :=
  0x80 ≤ b && b < 0xC0

/-- **The length of a rune literal behind its first quotation mark**, as far as it goes. -/
def runeLength : List UInt8 → Nat
  | [] => 0
  | b :: ahead =>
    if b == '\''.toUInt8 || b == zeroByte then 0
    else if b == '\\'.toUInt8 then runeEscape ahead + 1
    else
      (ahead.takeWhile continuesCharacter).length + runeEnd (ahead.dropWhile continuesCharacter) + 1

theorem runeEnd_le_length (ahead : List UInt8) : runeEnd ahead ≤ ahead.length := by
  cases ahead with
  | nil => exact Nat.le_refl 0
  | cons b ahead =>
    simp only [runeEnd]
    split <;> simp

theorem runeDigits_le_length (isDigit : UInt8 → Bool) (count : Nat) (ahead : List UInt8) :
    runeDigits isDigit count ahead ≤ ahead.length := by
  induction ahead generalizing count with
  | nil => cases count <;> exact Nat.le_refl 0
  | cons b ahead ih =>
    cases count with
    | zero => exact runeEnd_le_length _
    | succ count =>
      simp only [runeDigits]
      split
      · exact Nat.succ_le_succ (ih count)
      · exact Nat.zero_le _

theorem runeEscape_le_length (ahead : List UInt8) : runeEscape ahead ≤ ahead.length := by
  cases ahead with
  | nil => exact Nat.le_refl 0
  | cons b ahead =>
    simp only [runeEscape]
    split
    · exact Nat.succ_le_succ (runeEnd_le_length ahead)
    · split
      · exact Nat.succ_le_succ (runeDigits_le_length _ _ ahead)
      · split
        · exact Nat.succ_le_succ (runeDigits_le_length _ _ ahead)
        · split
          · exact Nat.succ_le_succ (runeDigits_le_length _ _ ahead)
          · exact runeDigits_le_length _ _ _

/-- **A rune literal ends with its source at the latest.** -/
theorem runeLength_le_length (ahead : List UInt8) : runeLength ahead ≤ ahead.length := by
  cases ahead with
  | nil => exact Nat.le_refl 0
  | cons b ahead =>
    simp only [runeLength]
    split
    · exact Nat.zero_le _
    · split
      · exact Nat.succ_le_succ (runeEscape_le_length ahead)
      · have hcut := congrArg List.length
          (List.takeWhile_append_dropWhile (p := continuesCharacter) (l := ahead))
        rw [List.length_append] at hcut
        have hend := runeEnd_le_length (ahead.dropWhile continuesCharacter)
        rw [List.length_cons]
        omega

/-! ## What one byte does -/

def code (here : Mark) (b : UInt8) (ahead : List UInt8) : Mode :=
  match opens? b ahead with
  | some .line => .line here
  | some .block => .opening here
  | none =>
    if b == '"'.toUInt8 then .text
    else if b == '\''.toUInt8 then
      match runeLength ahead with
      | 0 => .code
      | more + 1 => .rune more
    else if b == backquote then .raw
    else .code

/-- A byte behind what broke a string. -/
def broken (here : Mark) (b : UInt8) (ahead : List UInt8) : Mode :=
  if b == '"'.toUInt8 || isBlankByte b then .code
  else
    match opens? b ahead with
    | some .line => .line here
    | some .block => .opening here
    | none => .broken

/-- What one byte does. -/
def step : Mode → Mark → UInt8 → List UInt8 → Mode × Option SyntaxNode
  | .code, here, b, ahead => (code here b ahead, none)
  | .line start, here, b, _ =>
    if b == lineFeed || b == zeroByte then (.code, some (start.comment here.offset))
    else (.line start, none)
  | .opening start, _, _, _ => (.block start, none)
  | .block start, _, b, _ => (if b == '*'.toUInt8 then .blockStar start else .block start, none)
  | .blockStar start, here, b, _ =>
    if b == '/'.toUInt8 then (.code, some (start.comment (here.offset + 1)))
    else (if b == '*'.toUInt8 then .blockStar start else .block start, none)
  | .text, _, b, ahead =>
    (if b == '\\'.toUInt8 then if isEscape 2 ahead then .escaped else .broken
      else if b == '"'.toUInt8 || b == lineFeed then .code
      else if b == zeroByte then .broken
      else .text, none)
  | .escaped, _, _, _ => (.text, none)
  | .broken, here, b, ahead => (broken here b ahead, none)
  | .rune 0, _, _, _ => (.code, none)
  | .rune (more + 1), _, _, _ => (.rune more, none)
  | .raw, _, b, _ => (if b == backquote then .code else .raw, none)

/-- At the end of a source only a comment up to its line's end is complete. -/
def finish : Mode → Mark → Option SyntaxNode
  | .line start, here => some (start.comment here.offset)
  | _, _ => none

def scanner : Scanner Mode :=
  ⟨.code, step, finish⟩

end DirectiveLint.Go
