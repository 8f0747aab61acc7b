import DirectiveLint.Data.Value
import DirectiveLint.Toml.Fault

/-!
# TOML: numbers

A number is a whole number in one of four bases, or a decimal number with a fraction, an exponent
or both.  Single underscores may stand between digits.  Infinity and not-a-number are spelled as
words.

`number` reads the longest number that starts here.  What follows it is not looked at: that `0x`,
`01` and `1.` are no numbers shows in what is left over.

Numbers are as great as they are written, but the digits of a decimal whole number are limited
(`maxDigits`).
-/

namespace DirectiveLint.Toml

open Data

/-! ## Digits -/

/-- Digits behind a digit, each with an underscore before it or none, and the text behind them. -/
def moreDigits (isDigit : Char → Bool) : List Char → List Char × List Char
  | [] => ([], [])
  | c :: rest =>
    if isDigit c then
      let (digits, behind) := moreDigits isDigit rest
      (c :: digits, behind)
    else if c == '_' then
      match rest with
      | d :: rest' =>
        if isDigit d then
          let (digits, behind) := moreDigits isDigit rest'
          (d :: digits, behind)
        else ([], c :: rest)
      | [] => ([], [c])
    else ([], c :: rest)

/-- A run of at least one digit. -/
def digits? (isDigit : Char → Bool) : List Char → Option (List Char × List Char)
  | [] => none
  | c :: rest =>
    if isDigit c then
      let (digits, behind) := moreDigits isDigit rest
      some (c :: digits, behind)
    else none

def digitValue (c : Char) : Nat :=
  if c.isDigit then c.toNat - '0'.toNat else c.toLower.toNat - 'a'.toNat + 10

def ofDigits (base : Nat) (digits : List Char) : Nat :=
  digits.foldl (fun n c => base * n + digitValue c) 0

def isHexDigit (c : Char) : Bool :=
  c.isDigit || ('a' ≤ c && c ≤ 'f') || ('A' ≤ c && c ≤ 'F')

/-! ## Whole numbers in other bases -/

/-- A number in base sixteen, two or eight, behind the letter of its base. -/
def based? : List Char → Option (Except Fault Value × List Char)
  | '0' :: 'x' :: rest =>
    (digits? isHexDigit rest).map fun (ds, behind) => (.ok (.integer (ofDigits 16 ds)), behind)
  | '0' :: 'b' :: rest =>
    (digits? (fun c => c == '0' || c == '1') rest).map fun (ds, behind) =>
      (.ok (.integer (ofDigits 2 ds)), behind)
  | '0' :: 'o' :: rest =>
    (digits? (fun c => '0' ≤ c && c ≤ '7') rest).map fun (ds, behind) =>
      (.ok (.integer (ofDigits 8 ds)), behind)
  | _ => none

/-! ## Decimal numbers -/

/-- The sign of a number, and whether there is one. -/
def sign : List Char → Bool × List Char
  | '+' :: rest => (false, rest)
  | '-' :: rest => (true, rest)
  | s => (false, s)

/-- The digits in front of the point.  A zero in front of other digits stands alone. -/
def wholePart? : List Char → Option (List Char × List Char)
  | '0' :: rest => some (['0'], rest)
  | s => digits? Char.isDigit s

def fraction? : List Char → Option (List Char × List Char)
  | '.' :: rest => digits? Char.isDigit rest
  | _ => none

def exponent? : List Char → Option (Int × List Char)
  | [] => none
  | e :: rest =>
    if e == 'e' || e == 'E' then
      let (negative, rest) := sign rest
      (digits? Char.isDigit rest).map fun (ds, behind) =>
        (if negative then -(ofDigits 10 ds : Int) else ofDigits 10 ds, behind)
    else none

def maxDigits : Nat := 4300

def whole (negative : Bool) (digits : List Char) : Except Fault Value :=
  if maxDigits < digits.length then .error (.tooManyDigits digits.length)
  else
    let n : Int := ofDigits 10 digits
    .ok (.integer (if negative then -n else n))

/-- A decimal number: whole, unless it has a fraction or an exponent. -/
def decimal? (s : List Char) : Option (Except Fault Value × List Char) := do
  let (negative, rest) := sign s
  let (integral, rest) ← wholePart? rest
  let fraction := fraction? rest
  let (places, rest) := fraction.getD ([], rest)
  let exponent := exponent? rest
  let (power, rest) := exponent.getD (0, rest)
  if fraction.isNone && exponent.isNone then return (whole negative integral, rest)
  else
    let digits := ofDigits 10 (integral ++ places)
    return (.ok (.float (some ⟨negative, digits, power - places.length⟩)), rest)

/-- Infinity or not-a-number, with a sign or without. -/
def special? (s : List Char) : Option (Except Fault Value × List Char) :=
  match (sign s).2 with
  | 'i' :: 'n' :: 'f' :: rest => some (.ok (.float none), rest)
  | 'n' :: 'a' :: 'n' :: rest => some (.ok (.float none), rest)
  | _ => none

/-- **The longest number that starts here.** -/
def number (s : List Char) : Except Fault (Value × List Char) := do
  let (value, rest) ← required (based? s <|> decimal? s <|> special? s)
  return (← value, rest)

/-- A decimal whole number is read if it has no more digits than are read. -/
theorem whole_eq_ok_iff (negative : Bool) (digits : List Char) :
    (∃ value, whole negative digits = .ok value) ↔ digits.length ≤ maxDigits := by
  unfold whole
  split
  · next h => simpa using h
  · next h => simpa using h

end DirectiveLint.Toml
