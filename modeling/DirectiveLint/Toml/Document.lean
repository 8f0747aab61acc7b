import DirectiveLint.Toml.Value

/-!
# TOML: documents

A document is a series of statements, one a line, and the statements build one table.

* `Statement` — a table header, a header for one more table of an array, or a key with its value.
* `Builder` — the table built so far, and what may no longer be changed in it.
* `build` — what the statements of a text build, one after the other.
* `parse` — the table of a document.

**What may not be written twice.**  A table may have one header, and no header if it was opened by
a dotted key; an array or an inline table is settled once written.  A new table of an array
lifts these bans for everything below it, since it starts out empty.
-/

namespace DirectiveLint.Toml

open Data

/-- A key: its parts from the outside in. -/
abbrev Key := List String

/-! ## Statements -/

inductive Statement where
  /-- The following keys belong to this table. -/
  | header (key : Key)
  /-- The following keys belong to a new table at the end of this array. -/
  | arrayHeader (key : Key)
  | assign (key : Key) (value : Value)

/-- The text behind the line, if nothing but blanks and a comment is left of it. -/
def endOfLine? (s : List Char) : Option (List Char) := do
  match ← skipComment (skipSpace s) with
  | [] => return []
  | '\n' :: rest => return rest
  | _ => none

def statement : List Char → Except Fault (Statement × List Char)
  | '[' :: '[' :: rest => do
    let (key, rest) ← required (key? (skipSpace rest))
    match rest with
    | ']' :: ']' :: behind => return (.arrayHeader key, behind)
    | _ => throw .malformed
  | '[' :: rest => do
    let (key, rest) ← required (key? (skipSpace rest))
    match rest with
    | ']' :: behind => return (.header key, behind)
    | _ => throw .malformed
  | s => do
    let (key, rest) ← required (key? s)
    match rest with
    | '=' :: rest =>
      let (value, behind) ← value (skipSpace rest)
      return (.assign key value, behind)
    | _ => throw .malformed

/-! ## Building the table -/

structure Builder where
  root : Table := []
  /-- The table that keys belong to. -/
  current : Key := []
  /-- Tables that may not get a header. -/
  opened : List Key := []
  /-- Tables that may not get a header once the next one begins. -/
  openedHere : List Key := []
  /-- Values in which nothing may be changed. -/
  settled : List Key := []

namespace Builder

/-- The value at this key, or one that it is part of, is settled. -/
def isSettled (builder : Builder) (key : Key) : Bool :=
  builder.settled.any (·.isPrefixOf key)

/-- The tables that a dotted key goes through, as seen from the root. -/
def dottedTables (builder : Builder) (key : Key) : List Key :=
  (List.range (key.length - 1)).map fun n => builder.current ++ key.take (n + 1)

/-- The tables opened by dotted keys may not get a header from now on. -/
def close (builder : Builder) : Builder :=
  { builder with opened := builder.openedHere ++ builder.opened, openedHere := [] }

/-- **What a statement does.**  A statement that writes what may not be written has no result. -/
def run? (builder : Builder) : Statement → Option Builder
  | .header key => do
    let builder := builder.close
    if builder.opened.contains key || builder.isSettled key then none
    let root ← Table.at? true some key builder.root
    return { builder with root, current := key, opened := key :: builder.opened }
  | .arrayHeader key => do
    let builder := builder.close
    if builder.isSettled key then none
    let (path, last) ← splitKey? key
    let root ← Table.at? true (Table.append? last) path builder.root
    return { builder with
      root
      current := key
      opened := key :: builder.opened.filter fun k => !key.isPrefixOf k
      settled := builder.settled.filter fun k => !key.isPrefixOf k }
  | .assign key value => do
    let tables := builder.dottedTables key
    if tables.any builder.opened.contains then none
    let (path, last) ← splitKey? key
    let place := builder.current ++ path
    if builder.isSettled place then none
    let root ← Table.at? true (Table.insert? last value) place builder.root
    return { builder with
      root
      openedHere := tables ++ builder.openedHere
      settled :=
        if isContainer value then (builder.current ++ key) :: builder.settled
        else builder.settled }

end Builder

/-! ## Documents -/

/-- Builds along the statements of a text.  Every line takes a character at least, so a little more
than the length of the text is fuel enough. -/
def build : Nat → Builder → List Char → Except Fault Builder
  | 0, _, _ => .error .malformed
  | fuel + 1, builder, s =>
    match skipSpace s with
    | [] => .ok builder
    | '\n' :: rest => build fuel builder rest
    | '#' :: rest => do build fuel builder (← required (endOfLine? ('#' :: rest)))
    | s => do
      let (statement, rest) ← statement s
      let builder ← required (builder.run? statement)
      build fuel builder (← required (endOfLine? rest))

/-- **The table of a document**, or the first fault of its text. -/
def parse (text : List Char) : Except Fault Table :=
  let s := joinLineEnds text
  (build (s.length + 1) {} s).map Builder.root

theorem parse_nil : parse [] = .ok [] := rfl

end DirectiveLint.Toml
