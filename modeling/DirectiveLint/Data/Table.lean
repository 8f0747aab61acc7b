import DirectiveLint.Data.Value

/-!
# Building tables

Tables are built key by key.  A dotted key names a place inside tables inside tables; going there
creates the tables that are missing.

* `Table.find?` — the value of a key.
* `Table.put` — a new value for a key, in the key's old place if it has one.
* `Table.at?` — a change at a place inside.  `enterArrays` says whether an array on the way stands
  for the table at its end; anything else on the way that is no table makes the change fail.
* `Table.append?` — a new empty table at the end of an array of tables.
-/

namespace DirectiveLint.Data.Table

def find? (table : Table) (key : String) : Option Value :=
  table.lookup key

/-- A new value for a key, in the key's old place if it has one and at the end otherwise. -/
def put (table : Table) (key : String) (value : Value) : Table :=
  match table with
  | [] => [(key, value)]
  | (k, v) :: rest => if k == key then (key, value) :: rest else (k, v) :: put rest key value

@[simp] theorem find?_put_self (table : Table) (key : String) (value : Value) :
    find? (put table key value) key = some value := by
  induction table with
  | nil => simp [put, find?]
  | cons entry rest ih =>
    obtain ⟨k, v⟩ := entry
    unfold put
    split
    · simp [find?]
    · next hk =>
      have : (key == k) = false := by
        rw [Bool.eq_false_iff]
        intro hc
        exact hk (by simpa using (beq_iff_eq.1 hc).symm)
      simpa [find?, List.lookup_cons, this] using ih

/-- **Other keys keep their values.** -/
theorem find?_put_of_ne {key other : String} (h : other ≠ key) (table : Table) (value : Value) :
    find? (put table key value) other = find? table other := by
  have hb : (other == key) = false := beq_eq_false_iff_ne.2 h
  induction table with
  | nil => simp [put, find?, List.lookup_cons, hb]
  | cons entry rest ih =>
    obtain ⟨k, v⟩ := entry
    unfold put
    split
    · next hk =>
      obtain rfl := beq_iff_eq.1 hk
      simp [find?, List.lookup_cons, hb]
    · simp only [find?, List.lookup_cons] at ih ⊢
      rw [ih]

/-- **A change at a place inside**, with empty tables for those that are missing on the way. -/
def at? (enterArrays : Bool) (change : Table → Option Table) : List String → Table → Option Table
  | [], table => change table
  | key :: keys, table =>
    match find? table key with
    | none => do
      let inner ← at? enterArrays change keys []
      return put table key (.table inner)
    | some (.table inner) => do
      let inner ← at? enterArrays change keys inner
      return put table key (.table inner)
    | some (.array items) =>
      if enterArrays then
        match items.getLast? with
        | some (.table inner) => do
          let inner ← at? enterArrays change keys inner
          return put table key (.array (items.dropLast ++ [.table inner]))
        | _ => none
      else none
    | some _ => none

/-- A new key with its value; a key that is there already is a fault. -/
def insert? (key : String) (value : Value) (table : Table) : Option Table :=
  match find? table key with
  | none => some (put table key value)
  | some _ => none

/-- A new empty table at the end of the array under a key, which is created if it is missing. -/
def append? (key : String) (table : Table) : Option Table :=
  match find? table key with
  | none => some (put table key (.array [.table []]))
  | some (.array items) => some (put table key (.array (items ++ [.table []])))
  | some _ => none

end DirectiveLint.Data.Table
