/-!
# TOML: dates and times

A moment is a date, a time of day, or a date with a time behind a `T` or a blank, the latter with
or without an offset from universal time.  Nothing reads a moment's value, so only its extent is
found and whether it exists: the thirtieth of February does not, nor does the year zero.
-/

namespace DirectiveLint.Toml

def twoDigits? (a b : Char) : Option Nat :=
  if a.isDigit && b.isDigit then some (10 * (a.toNat - '0'.toNat) + (b.toNat - '0'.toNat)) else none

def daysOfMonth (year month : Nat) : Nat :=
  if month == 2 then
    if year % 4 == 0 && (year % 100 != 0 || year % 400 == 0) then 29 else 28
  else if [4, 6, 9, 11].contains month then 30
  else 31

/-- The year, month and day of a date, and the text behind it.  The month and the day are in the
range of months and days; whether the month has that day is not asked. -/
def date? : List Char → Option ((Nat × Nat × Nat) × List Char)
  | y₁ :: y₂ :: y₃ :: y₄ :: '-' :: m₁ :: m₂ :: '-' :: d₁ :: d₂ :: rest => do
    let century ← twoDigits? y₁ y₂
    let year ← twoDigits? y₃ y₄
    let month ← twoDigits? m₁ m₂
    let day ← twoDigits? d₁ d₂
    if 1 ≤ month && month ≤ 12 && 1 ≤ day && day ≤ 31 then
      return ((100 * century + year, month, day), rest)
    else none
  | _ => none

/-- The text behind a fraction of a second, if one starts here. -/
def skipFraction : List Char → List Char
  | '.' :: d :: rest => if d.isDigit then rest.dropWhile Char.isDigit else '.' :: d :: rest
  | s => s

def time? : List Char → Option (List Char)
  | h₁ :: h₂ :: ':' :: m₁ :: m₂ :: ':' :: s₁ :: s₂ :: rest => do
    let hour ← twoDigits? h₁ h₂
    let minute ← twoDigits? m₁ m₂
    let second ← twoDigits? s₁ s₂
    if hour ≤ 23 && minute ≤ 59 && second ≤ 59 then return skipFraction rest else none
  | _ => none

/-- The text behind an offset from universal time, if one starts here. -/
def skipOffset : List Char → List Char
  | 'Z' :: rest => rest
  | 'z' :: rest => rest
  | s :: h₁ :: h₂ :: ':' :: m₁ :: m₂ :: rest =>
    match twoDigits? h₁ h₂, twoDigits? m₁ m₂ with
    | some hour, some minute =>
      if (s == '+' || s == '-') && hour ≤ 23 && minute ≤ 59 then rest
      else s :: h₁ :: h₂ :: ':' :: m₁ :: m₂ :: rest
    | _, _ => s :: h₁ :: h₂ :: ':' :: m₁ :: m₂ :: rest
  | s => s

/-- The text behind a date: behind its time too, if one follows. -/
def skipTime : List Char → List Char
  | c :: rest =>
    if c == 'T' || c == 't' || c == ' ' then
      match time? rest with
      | some behind => skipOffset behind
      | none => c :: rest
    else c :: rest
  | [] => []

inductive MomentRead where
  | absent
  /-- A date starts here that does not exist. -/
  | impossible
  /-- A moment starts here; this is the text behind it. -/
  | found (rest : List Char)
  deriving DecidableEq

/-- **The longest moment that starts here.** -/
def moment (s : List Char) : MomentRead :=
  match date? s with
  | some ((year, month, day), rest) =>
    if year == 0 || daysOfMonth year month < day then .impossible else .found (skipTime rest)
  | none =>
    match time? s with
    | some rest => .found rest
    | none => .absent

end DirectiveLint.Toml
