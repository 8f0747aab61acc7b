/-!
# Severities

How bad an issue is.  Severities are ordered by `Severity.rank`; a report shows the issues from a
threshold rank on.

The threshold is named by the user in free text (`Severity.threshold`): the label of a severity in
any mixture of cases.  A text that is no label asks for everything.
-/

namespace DirectiveLint

inductive Severity where
  | info
  | style
  | warning
  | error
  deriving DecidableEq, Repr

namespace Severity

def all : List Severity :=
  [.info, .style, .warning, .error]

/-- The order of severities, as a number from one on. -/
def rank : Severity → Nat
  | .info => 1
  | .style => 2
  | .warning => 3
  | .error => 4

def label : Severity → String
  | .info => "INFO"
  | .style => "STYLE"
  | .warning => "WARNING"
  | .error => "ERROR"

theorem rank_injective {a b : Severity} (h : a.rank = b.rank) : a = b := by
  revert h
  cases a <;> cases b <;> decide

/-! ## The threshold

Labels are matched against the upper-case form of what the user wrote.  Besides the ASCII letters,
four characters have an upper-case form in the letters of the labels: the dotless i, the long s,
and the two ligatures of s and t.
-/

/-- The upper-case form of a character, as far as it can matter to a label.  Any other character
stays as it is and then matches none. -/
def upperCase (c : Char) : List Char :=
  if c == '\u0131' then ['I']
  else if c == '\u017f' then ['S']
  else if c == '\ufb05' || c == '\ufb06' then ['S', 'T']
  else [c.toUpper]

/-- **The lowest rank that is shown** when the user asks for `name`. -/
def threshold (name : String) : Nat :=
  match all.find? fun s => s.label.toList == name.toList.flatMap upperCase with
  | some s => s.rank
  | none => 1

/-- A label in lower case is a label; anything around it makes it none. -/
example : threshold "warning" = 3 ∧ threshold "Error" = 4 ∧ threshold "error " = 1 := by
  decide

theorem one_le_threshold (name : String) : 1 ≤ threshold name := by
  simp only [threshold]
  split
  · next s _ => cases s <;> decide
  · exact Nat.le_refl 1

end Severity

end DirectiveLint
