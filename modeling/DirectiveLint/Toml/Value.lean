import DirectiveLint.Data.Table
import DirectiveLint.Toml.Moment
import DirectiveLint.Toml.Number
import DirectiveLint.Toml.Text

/-!
# TOML: values

A value is a string, a number, a moment, a boolean, an array or an inline table.  Arrays may span
lines, hold comments and end with a comma; inline tables may do none of these.

Arrays and tables may stand inside each other at any depth, as the nodes of a syntax tree may.

The readers call each other for what is inside, so they carry fuel.  An array costs two units for
one character, its opening bracket, and everything else costs less, so twice the length of the text
is fuel enough (`value`).
-/

namespace DirectiveLint.Toml

open Data

/-- The key ends here: what stands before its last part, and its last part. -/
def splitKey? (key : List String) : Option (List String × String) :=
  key.getLast?.map (key.dropLast, ·)

/-- A table or an array, whose inside is settled once it has been written. -/
def isContainer : Value → Bool
  | .table _ | .array _ => true
  | _ => false

mutual

/-- The value that starts here. -/
def valueFrom : Nat → List Char → Except Fault (Value × List Char)
  | 0, _ => .error .malformed
  | _ + 1, 't' :: 'r' :: 'u' :: 'e' :: rest => .ok (.boolean true, rest)
  | _ + 1, 'f' :: 'a' :: 'l' :: 's' :: 'e' :: rest => .ok (.boolean false, rest)
  | fuel + 1, '[' :: rest => do
    let (items, behind) ← itemsFrom fuel (← required (skipFiller false rest))
    return (.array items, behind)
  | fuel + 1, '\x7b' :: rest =>
    match skipSpace rest with
    | '\x7d' :: behind => return (.table [], behind)
    | rest => do
      let (table, behind) ← membersFrom fuel [] [] rest
      return (.table table, behind)
  | _ + 1, s =>
    match string? s with
    | some (text, rest) => .ok (.text (String.ofList text), rest)
    | none =>
      match moment s with
      | .found rest => .ok (.moment, rest)
      | .impossible => .error .malformed
      | .absent => number s

/-- The items of an array up to its closing bracket. -/
def itemsFrom : Nat → List Char → Except Fault (List Value × List Char)
  | 0, _ => .error .malformed
  | _ + 1, ']' :: rest => .ok ([], rest)
  | fuel + 1, s => do
    let (item, rest) ← valueFrom fuel s
    match ← required (skipFiller false rest) with
    | ']' :: behind => return ([item], behind)
    | ',' :: rest =>
      let (items, behind) ← itemsFrom fuel (← required (skipFiller false rest))
      return (item :: items, behind)
    | _ => throw .malformed

/-- The members of an inline table up to its closing brace, added to those before.  Nothing can be
added inside a member that is written; `settled` holds the keys of such members. -/
def membersFrom :
    Nat → List (List String) → Table → List Char → Except Fault (Table × List Char)
  | 0, _, _, _ => .error .malformed
  | fuel + 1, settled, table, s => do
    let (key, rest) ← required (key? s)
    match rest with
    | '=' :: rest =>
      let (value, rest) ← valueFrom fuel (skipSpace rest)
      if settled.any (·.isPrefixOf key) then throw .malformed
      let (path, last) ← required (splitKey? key)
      let table ← required (Table.at? false (Table.insert? last value) path table)
      match skipSpace rest with
      | '\x7d' :: behind => return (table, behind)
      | ',' :: rest =>
        membersFrom fuel (if isContainer value then key :: settled else settled) table
          (skipSpace rest)
      | _ => throw .malformed
    | _ => throw .malformed

end

/-- **The value that starts here**, with the text behind it. -/
def value (s : List Char) : Except Fault (Value × List Char) :=
  valueFrom (2 * s.length + 2) s

end DirectiveLint.Toml
