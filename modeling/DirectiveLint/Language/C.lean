import DirectiveLint.Language.Scanner

/-!
# Comments of C sources

A C comment is `/* … */`, which may span lines, or `//` up to the end of its line.  Neither starts
inside a string.  Four things make C different.

**Spliced lines.**  In a `//` comment, backslashes right in front of a line end make the comment go
on in the next line.  Between tokens, a backslash with a line end behind it is a blank.

**Preprocessor lines.**  A preprocessor line starts with a `#`, wherever that stands in the code,
and has comments between its parts like any other code.  But the path of an `#include <…>` is no
code; and the replacement text of a `#define`, or what follows the name of any other line that is
no conditional, is one token, the *argument*.  A comment that opens where the argument would start
is a comment.  Inside the argument two slashes open none, and a slash with a star ends it.

**Digit separators.**  A single quotation mark between the digits of a number opens no literal.

**Literals.**  The text of a string is one token up to the next backslash, but a character literal
is read character by character, and two slashes in it open a comment all the same.  A string with a
backslash that begins no escape is read on like that, too.  A literal that its line leaves
unfinished may still be ended in a later line, if the first token there is its quotation mark.

`C.scanner` remembers which of these surrounds the current byte.
-/

namespace DirectiveLint.C

/-! ## What surrounds a byte -/

/-- Where a token may start, and before it blanks and comments. -/
inductive Place where
  | code
  /-- Behind `#include`. -/
  | includePath
  /-- Behind `#define`. -/
  | macroName
  | parameterList
  /-- Where an argument may start.  A parameter list may start there instead if `parameters` says
  so, and the line may end there without one; both only if `adjacent` says that no blank is in
  front. -/
  | argument (parameters adjacent : Bool)
  | text
  /-- In a literal that is read character by character, up to this quotation mark. -/
  | characters (quote : UInt8)
  /-- In a later line than the beginning of a literal that has not ended. -/
  | unfinished (quote : UInt8)
  deriving DecidableEq, Repr

/-- The inside of a literal with this quotation mark. -/
def Place.inside (quote : UInt8) : Place :=
  if quote == '"'.toUInt8 then text else characters quote

def Place.behindComment : Place → Place
  | argument parameters _ => argument parameters true
  | unfinished quote => inside quote
  | place => place

/-- The last bytes of a line, as far as they decide whether the next line belongs to it. -/
inductive Splice where
  | none
  | backslash
  | carriageReturn
  deriving DecidableEq, Repr

/-- What surrounds a byte. -/
inductive Mode where
  | between (place : Place)
  /-- Inside a comment that ends with its line. -/
  | line (start : Mark) (place : Place) (splice : Splice)
  /-- In front of the star that opens a comment between delimiters. -/
  | opening (start : Mark) (place : Place)
  /-- Inside a comment between delimiters. -/
  | block (start : Mark) (place : Place)
  /-- Inside such a comment, behind a star. -/
  | blockStar (start : Mark) (place : Place)
  /-- Behind the backslash of an escape, in a literal with this quotation mark. -/
  | escaped (quote : UInt8)
  | word
  /-- In a number, whose digits may be hexadecimal; the last byte may have been such a digit. -/
  | number (hexadecimal behindDigit : Bool)
  /-- In the name of a preprocessor line; the bytes read so far, last first. -/
  | lineName (read : List UInt8)
  | anglePath
  | macroName
  | argument (splice : Splice)
  /-- In such an argument, behind a slash that takes the next byte with it. -/
  | argumentSlash
  deriving DecidableEq, Repr

/-! ## Classes of bytes -/

def isAlphanum (b : UInt8) : Bool :=
  (Char.ofNat b.toNat).isAlphanum

/-- A byte of a word.  Letters outside ASCII have bytes from 128 on. -/
def isWordByte (b : UInt8) : Bool :=
  isAlphanum b || b == '_'.toUInt8 || 0x80 ≤ b

def endsLine (b : UInt8) (ahead : List UInt8) : Bool :=
  b == lineFeed || (b == '\r'.toUInt8 && ahead.head? == some lineFeed)

/-- A backslash in front of the end of a line. -/
def isSplice (b : UInt8) : List UInt8 → Bool
  | [] => false
  | c :: ahead => b == '\\'.toUInt8 && endsLine c ahead

def isGap (b : UInt8) (ahead : List UInt8) : Bool :=
  isBlankByte b || isSplice b ahead

/-- A byte of a name: of a word, a dollar sign, or the backslash of a letter that is spelled by its
code point. -/
def isNameByte (b : UInt8) (ahead : List UInt8) : Bool :=
  isWordByte b || b == '$'.toUInt8 ||
    (b == '\\'.toUInt8 && (ahead.head? == some 'u'.toUInt8 || ahead.head? == some 'U'.toUInt8))

def isDigit (hexadecimal : Bool) (b : UInt8) : Bool :=
  (Char.ofNat b.toNat).isDigit || (hexadecimal && isHexDigit b)

/-- The angle brackets of an included path close in its line. -/
def closesPath (ahead : List UInt8) : Bool :=
  (ahead.takeWhile fun b => b != lineFeed && b != zeroByte).contains '>'.toUInt8

/-- What the last bytes of a line are after one more byte. -/
def Splice.next (splice : Splice) (b : UInt8) : Splice :=
  if b == '\\'.toUInt8 then .backslash
  else if b == '\r'.toUInt8 && splice == .backslash then .carriageReturn
  else .none

/-! ## What one byte does -/

/-- A byte of code that opens no comment. -/
def code (b : UInt8) (ahead : List UInt8) : Mode :=
  if b == '"'.toUInt8 || b == '\''.toUInt8 then .between (.inside b)
  else if b == '#'.toUInt8 then .lineName []
  else if isDigit false b then
    let base := ahead.head?
    .number (b == '0'.toUInt8 && (base == some 'x'.toUInt8 || base == some 'X'.toUInt8)) true
  else if isWordByte b then .word
  else .between .code

/-- A byte of a literal.  `goesOn` is the place behind a byte that means nothing else. -/
def literal (quote : UInt8) (goesOn : Place) (b : UInt8) (ahead : List UInt8) : Mode :=
  if b == quote then .between .code
  else if b == '\\'.toUInt8 then
    if isEscape 1 ahead then .escaped quote else .between (.characters quote)
  else if b == lineFeed then .between (.unfinished quote)
  else if b == zeroByte then .between (.characters quote)
  else .between goesOn

/-- A byte behind the line end that left a literal unfinished.  What cannot end the literal, or go
on with it, is code. -/
def unfinished (quote b : UInt8) (ahead : List UInt8) : Mode :=
  if isBlankByte b then .between (.unfinished quote)
  else if b == quote || b == '\\'.toUInt8 then literal quote .code b ahead
  else code b ahead

/-- A byte that opens no comment. -/
def token (b : UInt8) (ahead : List UInt8) : Place → Mode
  | .code => code b ahead
  | .includePath => if b == '<'.toUInt8 && closesPath ahead then .anglePath else code b ahead
  | .macroName => if isNameByte b ahead then .macroName else code b ahead
  | .parameterList =>
    .between (if b == ')'.toUInt8 then .argument false true else .parameterList)
  | .argument parameters adjacent =>
    if parameters && adjacent && b == '('.toUInt8 then .between .parameterList
    else if b == zeroByte then .between .code
    else .argument .none
  | .text => literal '"'.toUInt8 .text b ahead
  | .characters quote => literal quote (.characters quote) b ahead
  | .unfinished quote => unfinished quote b ahead

/-- A blank, or a byte of a token. -/
def blankOrToken (b : UInt8) (ahead : List UInt8) : Place → Mode
  | .text => token b ahead .text
  | .characters quote => token b ahead (.characters quote)
  | .unfinished quote => token b ahead (.unfinished quote)
  | .argument parameters adjacent =>
    if adjacent && endsLine b ahead then .between .code
    else if isGap b ahead then .between (.argument parameters false)
    else token b ahead (.argument parameters adjacent)
  | place => if isGap b ahead then .between place else token b ahead place

/-- **A byte between tokens.** -/
def between (place : Place) (here : Mark) (b : UInt8) (ahead : List UInt8) : Mode :=
  if place == .text then token b ahead .text
  else
    match opens? b ahead with
    | some .line => .line here place.behindComment .none
    | some .block => .opening here place.behindComment
    | none => blankOrToken b ahead place

/-- A byte behind the first one of a number.  The digits of an exponent may be hexadecimal. -/
def number (hexadecimal behindDigit : Bool) (here : Mark) (b : UInt8) (ahead : List UInt8) :
    Mode :=
  if behindDigit && b == '\''.toUInt8 && ahead.head?.any (isDigit hexadecimal) then
    .number hexadecimal false
  else if isWordByte b then
    .number (hexadecimal || ['e'.toUInt8, 'E'.toUInt8, 'p'.toUInt8, 'P'.toUInt8].contains b)
      (isDigit hexadecimal b)
  else between .code here b ahead

/-- The preprocessor lines behind whose names code goes on. -/
def conditionals : List String :=
  ["if", "ifdef", "ifndef", "elif", "elifdef", "elifndef", "else", "endif"]

/-- Where a preprocessor line goes on behind its name. -/
def afterLineName (name : String) : Place :=
  if name == "include" then .includePath
  else if name == "define" then .macroName
  else if name.isEmpty || conditionals.contains name then .code
  else .argument false true

/-- The text of a name that was read last byte first. -/
def nameText (read : List UInt8) : String :=
  String.ofList (read.reverse.map fun b => Char.ofNat b.toNat)

/-- A byte behind the `#` of a preprocessor line.  Blanks may stand in front of the name. -/
def lineName (read : List UInt8) (here : Mark) (b : UInt8) (ahead : List UInt8) : Mode :=
  if (if read.isEmpty then isAlphanum b else isWordByte b) then .lineName (b :: read)
  else if read.isEmpty && (b == ' '.toUInt8 || b == '\t'.toUInt8) then .lineName []
  else between (afterLineName (nameText read)) here b ahead

/-- A byte of an argument.  A line end ends it unless a backslash is in front, and so does the
opening of a comment between delimiters. -/
def argument (splice : Splice) (here : Mark) (b : UInt8) (ahead : List UInt8) : Mode :=
  if b == zeroByte || (b == lineFeed && splice == .none) then .between .code
  else if b == '/'.toUInt8 then
    if ahead.head? == some '*'.toUInt8 then between .code here b ahead else .argumentSlash
  else .argument (splice.next b)

/-- A comment up to the end of its line ends in front of this byte.  The last backslash of a source
is in no comment if it stands alone. -/
def endsComment (splice : Splice) (b : UInt8) (ahead : List UInt8) : Bool :=
  b == zeroByte || (b == lineFeed && splice == .none) ||
    (b == '\\'.toUInt8 && splice != .backslash && (ahead.isEmpty || ahead.head? == some zeroByte))

/-- **What one byte does.** -/
def step : Mode → Mark → UInt8 → List UInt8 → Mode × Option SyntaxNode
  | .between place, here, b, ahead => (between place here b ahead, none)
  | .line start place splice, here, b, ahead =>
    if endsComment splice b ahead then
      (between place here b ahead, some (start.comment here.offset))
    else (.line start place (splice.next b), none)
  | .opening start place, _, _, _ => (.block start place, none)
  | .block start place, _, b, _ =>
    (if b == '*'.toUInt8 then .blockStar start place else .block start place, none)
  | .blockStar start place, here, b, _ =>
    if b == '/'.toUInt8 then (.between place, some (start.comment (here.offset + 1)))
    else (if b == '*'.toUInt8 then .blockStar start place else .block start place, none)
  | .escaped quote, _, _, _ => (.between (.inside quote), none)
  | .word, here, b, ahead => (if isWordByte b then .word else between .code here b ahead, none)
  | .number hexadecimal behindDigit, here, b, ahead =>
    (number hexadecimal behindDigit here b ahead, none)
  | .lineName read, here, b, ahead => (lineName read here b ahead, none)
  | .anglePath, _, b, _ =>
    (if b == '>'.toUInt8 || b == lineFeed then .between .code else .anglePath, none)
  | .macroName, here, b, ahead =>
    (if isNameByte b ahead then .macroName
    else between (.argument true true) here b ahead, none)
  | .argument splice, here, b, ahead => (argument splice here b ahead, none)
  | .argumentSlash, _, b, _ =>
    (if b == zeroByte then .between .code else .argument .none, none)

/-- At the end of a source only a comment up to its line's end is complete. -/
def finish : Mode → Mark → Option SyntaxNode
  | .line start _ _, here => some (start.comment here.offset)
  | _, _ => none

def scanner : Scanner Mode :=
  ⟨.between .code, step, finish⟩

end DirectiveLint.C
