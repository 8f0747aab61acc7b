/-!
# TOML: blanks, comments, strings and keys

The small readers that everything in a TOML document is made of.  Each takes the characters still
to be read and gives what it read with the characters behind it, or nothing if the text is not
TOML.

* `skipSpace`, `skipComment`, `skipFiller` — what stands between the parts of a document.
* `basicString`, `literalString` — the text of a string, behind its opening quotation mark.
* `key?` — a key, dotted or not.

Control characters are refused everywhere except the tab, and the line feed where a string may span
lines.  In a document that was read, line ends are single line feeds.
-/

namespace DirectiveLint.Toml

/-! ## Characters -/

def isSpace (c : Char) : Bool :=
  c == ' ' || c == '\t'

def isFiller (c : Char) : Bool :=
  isSpace c || c == '\n'

/-- A control character that may not appear in a comment or in a string within one line. -/
def isControl (c : Char) : Bool :=
  (c.toNat < 0x20 && c != '\t') || c.toNat == 0x7F

/-- A control character that may not appear in a string; a line end may if the string spans
lines. -/
def isRefused (multiline : Bool) (c : Char) : Bool :=
  isControl c && !(multiline && c == '\n')

/-- A character of a key that is not quoted. -/
def isKeyChar (c : Char) : Bool :=
  c.isAlphanum || c == '-' || c == '_'

/-- Line ends of two characters become line feeds. -/
def joinLineEnds : List Char → List Char
  | [] => []
  | '\r' :: '\n' :: rest => '\n' :: joinLineEnds rest
  | c :: rest => c :: joinLineEnds rest

/-! ## Between the parts of a document -/

def skipSpace (s : List Char) : List Char :=
  s.dropWhile isSpace

/-- The text from the end of the line on, if a comment starts here; the same text otherwise. -/
def skipComment : List Char → Option (List Char)
  | '#' :: rest =>
    if (rest.takeWhile (· != '\n')).any isControl then none
    else some (rest.dropWhile (· != '\n'))
  | s => some s

/-- The text behind blanks, line ends and comments; `inComment` says that a comment has begun. -/
def skipFiller (inComment : Bool) : List Char → Option (List Char)
  | [] => some []
  | c :: rest =>
    if c == '\n' then skipFiller false rest
    else if inComment then
      if isControl c then none else skipFiller true rest
    else if isSpace c then skipFiller false rest
    else if c == '#' then skipFiller true rest
    else some (c :: rest)

/-! ## Strings -/

def hexValue? (c : Char) : Option Nat :=
  if c.isDigit then some (c.toNat - '0'.toNat)
  else if 'a' ≤ c && c ≤ 'f' then some (c.toNat - 'a'.toNat + 10)
  else if 'A' ≤ c && c ≤ 'F' then some (c.toNat - 'A'.toNat + 10)
  else none

/-- The character of a code point in hexadecimal digits.  Surrogates and numbers past U+10FFFF are
no characters. -/
def scalar? (digits : List Char) : Option Char := do
  let values ← digits.mapM hexValue?
  let n := values.foldl (fun n v => 16 * n + v) 0
  if n.isValidChar then some (Char.ofNat n) else none

/-- The character that stands behind a backslash for another one. -/
def escape? (c : Char) : Option Char :=
  if c == 'b' then some '\x08'
  else if c == 't' then some '\t'
  else if c == 'n' then some '\n'
  else if c == 'f' then some '\x0c'
  else if c == 'r' then some '\r'
  else if c == '"' || c == '\\' then some c
  else none

/-- A backslash in front of this text takes the line end, and the blanks around it, out of a string
that spans lines. -/
def continuesLine (s : List Char) : Bool :=
  match skipSpace s with
  | '\n' :: _ => true
  | _ => false

/-- At most two more quotation marks belong to a string that ends with three. -/
def moreQuotes (quote : Char) : List Char → List Char × List Char
  | [] => ([], [])
  | a :: rest =>
    if a != quote then ([], a :: rest)
    else match rest with
      | [] => ([quote], [])
      | b :: rest' => if b == quote then ([quote, quote], rest') else ([quote], b :: rest')

def before (c : Char) : Option (List Char × List Char) → Option (List Char × List Char) :=
  Option.map fun (s, rest) => (c :: s, rest)

/-- **A string with escapes**, behind its opening quotation mark.  `trimming` says that a backslash
at a line end is taking out blanks. -/
def basicString (multiline : Bool) (trimming : Bool) :
    List Char → Option (List Char × List Char)
  | [] => none
  | c :: rest =>
    if trimming && isFiller c then basicString multiline true rest
    else if c == '"' then
      if !multiline then some ([], rest)
      else match rest with
        | '"' :: '"' :: behind => some (moreQuotes '"' behind)
        | _ => before '"' (basicString multiline false rest)
    else if c == '\\' then
      match rest with
      | 'u' :: a :: b :: c :: d :: behind => do
        before (← scalar? [a, b, c, d]) (basicString multiline false behind)
      | 'U' :: a :: b :: c :: d :: e :: f :: g :: h :: behind => do
        before (← scalar? [a, b, c, d, e, f, g, h]) (basicString multiline false behind)
      | e :: behind =>
        if multiline && continuesLine (e :: behind) then basicString multiline true behind
        else do before (← escape? e) (basicString multiline false behind)
      | [] => none
    else if isRefused multiline c then none
    else before c (basicString multiline false rest)

/-- **A string without escapes**, behind its opening quotation mark. -/
def literalString (multiline : Bool) : List Char → Option (List Char × List Char)
  | [] => none
  | c :: rest =>
    if c == '\'' then
      if !multiline then some ([], rest)
      else match rest with
        | '\'' :: '\'' :: behind => some (moreQuotes '\'' behind)
        | _ => before '\'' (literalString multiline rest)
    else if isRefused multiline c then none
    else before c (literalString multiline rest)

/-- A line end right behind the opening marks of a string that spans lines is not part of it. -/
def skipLineEnd : List Char → List Char
  | '\n' :: rest => rest
  | s => s

/-- Any of the four kinds of strings, if one starts here. -/
def string? : List Char → Option (List Char × List Char)
  | '"' :: '"' :: '"' :: rest => basicString true false (skipLineEnd rest)
  | '"' :: rest => basicString false false rest
  | '\'' :: '\'' :: '\'' :: rest => literalString true (skipLineEnd rest)
  | '\'' :: rest => literalString false rest
  | _ => none

/-! ## Keys -/

/-- One part of a key: a string within one line, or characters that need no quotation marks. -/
def keyPart? : List Char → Option (String × List Char)
  | '"' :: rest => (basicString false false rest).map fun (s, behind) => (String.ofList s, behind)
  | '\'' :: rest => (literalString false rest).map fun (s, behind) => (String.ofList s, behind)
  | s =>
    let name := s.takeWhile isKeyChar
    if name.isEmpty then none else some (String.ofList name, s.dropWhile isKeyChar)

/-- The parts of a key, dots and blanks between them.  Every part takes a character at least, so the
length of the text is fuel enough. -/
def keyParts? : Nat → List Char → Option (List String × List Char)
  | 0, _ => none
  | fuel + 1, s => do
    let (part, rest) ← keyPart? s
    match skipSpace rest with
    | '.' :: rest => do
      let (parts, behind) ← keyParts? fuel (skipSpace rest)
      return (part :: parts, behind)
    | rest => return ([part], rest)

/-- **A key**, with the blanks behind it. -/
def key? (s : List Char) : Option (List String × List Char) :=
  keyParts? s.length s

end DirectiveLint.Toml
