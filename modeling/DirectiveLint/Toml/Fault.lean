/-!
# TOML: faults

Why a text has no table.  Most faults are those of the author, who did not write what the grammar
asks for or wrote something twice.  The other one is a limit of the reader.

* `Fault` — what can be wrong.
* `required` — a step of the grammar, whose absence is a fault of the author.

The first fault of a text is the one that counts.
-/

namespace DirectiveLint.Toml

inductive Fault where
  /-- The text does not follow the grammar, or defines something twice. -/
  | malformed
  /-- A decimal whole number has more digits than are read. -/
  | tooManyDigits (count : Nat)
  deriving DecidableEq, Repr

/-- What a step of the grammar yields; without it the text is malformed. -/
def required {α : Type} : Option α → Except Fault α
  | some a => .ok a
  | none => .error .malformed

@[simp] theorem required_some {α : Type} (a : α) : required (some a) = .ok a := rfl

@[simp] theorem required_none {α : Type} : required (none : Option α) = .error .malformed := rfl

end DirectiveLint.Toml
