import DirectiveLint.Data.Decimal

/-!
# Data values

The values that settings are made of before anything is known about what they should be: what a
settings file or any other data format of its kind can hold.

A table keeps its keys in the order in which they were given, since problems are reported in that
order.
-/

namespace DirectiveLint.Data

inductive Value where
  | null
  | boolean (value : Bool)
  | integer (value : Int)
  /-- A number with a fraction or an exponent; `none` for an infinity and for what is no number. -/
  | float (value : Option Decimal)
  | text (value : String)
  /-- A date, a time of day, or both.  Which one it is never matters. -/
  | moment
  | array (items : List Value)
  | table (members : List (String × Value))
  deriving Inhabited

/-- The members of a table in the order in which they were given. -/
abbrev Table := List (String × Value)

end DirectiveLint.Data
