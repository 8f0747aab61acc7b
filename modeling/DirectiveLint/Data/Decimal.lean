/-!
# Decimal numbers and their nearest doubles

Settings may spell a number with a fraction or an exponent.  Such a number means the double nearest
to it, and all that matters here is which whole number that double is, if it is one.  The question
is answered exactly, on whole numbers.

* `Decimal` — a sign, digits and a power of ten.
* `roundQuotient` — the whole number nearest to a quotient.
* `nearestDouble` — the double nearest to a quotient.
* `Decimal.whole?` — the whole number that the nearest double is.

A double is a significand of at most 53 bits times a power of two, of which the lowest is `2⁻¹⁰⁷⁴`.
A number halfway between two doubles goes to the one with an even significand.
-/

namespace DirectiveLint.Data

/-- A decimal number: `digits` times ten to the power of `exponent`, or the negative of that. -/
structure Decimal where
  negative : Bool
  digits : Nat
  exponent : Int
  deriving DecidableEq, Repr

/-- How many digits a number is written with. -/
def width (n : Nat) : Nat :=
  (Nat.toDigits 10 n).length

/-! ## Rounding -/

/-- **The whole number nearest to a quotient**; of two that are equally near, the even one. -/
def roundQuotient (num den : Nat) : Nat :=
  let quotient := num / den
  let rest := num % den
  if 2 * rest < den || (2 * rest == den && quotient % 2 == 0) then quotient else quotient + 1

/-- The quotient with the power of two moved into its two parts. -/
def scale (num den : Nat) (power : Int) : Nat × Nat :=
  (num * Nat.pow 2 power.toNat, den * Nat.pow 2 (-power).toNat)

/-- The greatest power of two that a quotient reaches. -/
def floorLog (num den : Nat) : Int :=
  let guess : Int := num.log2 - den.log2
  let (num, den) := scale num den (-guess)
  if den ≤ num then guess else guess - 1

/-- **The double nearest to a quotient** that is not zero: its significand and its power of two. -/
def nearestDouble (num den : Nat) : Nat × Int :=
  let power := max (floorLog num den - 52) (-1074)
  let (num, den) := scale num den (-power)
  (roundQuotient num den, power)

namespace Decimal

def quotient (d : Decimal) : Nat × Nat :=
  (d.digits * Nat.pow 10 d.exponent.toNat, Nat.pow 10 (-d.exponent).toNat)

/-- The whole number that the nearest double of the number without its sign is.  Doubles end before
`2¹⁰²⁴`, and what rounds to more is infinite. -/
def wholeMagnitude? (d : Decimal) : Option Nat :=
  let (num, den) := d.quotient
  let (significand, power) := nearestDouble num den
  let (num, den) := scale significand 1 power
  if num % den == 0 && num / den < Nat.pow 2 1024 then some (num / den) else none

/-- **The whole number that the nearest double is**, if it is one.  A number with its first digit
more than 400 places from the point is far beyond the doubles, or far below the lowest, which
spares computing a huge power. -/
def whole? (d : Decimal) : Option Int :=
  let places := width d.digits + d.exponent
  if d.digits == 0 || places < -400 then some 0
  else if 400 < places then none
  else d.wholeMagnitude?.map fun n => if d.negative then -(n : Int) else n

/-- Trailing zeros change nothing, nor does a difference too small for a double; and doubles above
`2⁵²` are whole. -/
example :
    whole? ⟨true, 10, -1⟩ = some (-1) ∧ whole? ⟨false, 199999999999999999999, -20⟩ = some 2 ∧
      whole? ⟨false, 15, -1⟩ = none ∧ whole? ⟨true, 1, -400⟩ = some 0 ∧
      whole? ⟨false, 45035996273704975, -1⟩ = some 4503599627370498 := by
  decide +kernel

end Decimal

end DirectiveLint.Data
