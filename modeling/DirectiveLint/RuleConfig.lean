import DirectiveLint.Text.Quoted

/-!
# Configuring the rule

Four checks of the rule can be switched on and off one by one.  `Checks` is the set of those that
are on, `RuleConfig` adds the linters that need no explanation and the name under which a directive
exempts itself from the rule.

Looking for unused directives needs a later pass to confirm what is found, so this check is off
unless it is asked for.
-/

namespace DirectiveLint

inductive Check where
  | explanation
  | machineReadable
  | specific
  | unused
  deriving DecidableEq, Repr

namespace Check

def all : List Check :=
  [.explanation, .machineReadable, .specific, .unused]

def name : Check → String
  | .explanation => "explanation"
  | .machineReadable => "machine-readable"
  | .specific => "specific"
  | .unused => "unused"

def ofName? (name : String) : Option Check :=
  all.find? fun check => check.name == name

theorem ofName?_name (check : Check) : ofName? check.name = some check := by
  cases check <;> decide

/-- The fault of naming a check that does not exist. -/
structure Unknown where
  name : String
  deriving DecidableEq, Repr

def Unknown.message (fault : Unknown) : String :=
  Text.Quoted.quote fault.name ++ " is not a valid Check"

end Check

structure Checks where
  explanation : Bool
  machineReadable : Bool
  specific : Bool
  unused : Bool
  deriving DecidableEq, Repr

namespace Checks

/-- The checks that are on unless a configuration says otherwise. -/
def standard : Checks :=
  ⟨true, true, true, false⟩

def has (checks : Checks) : Check → Bool
  | .explanation => checks.explanation
  | .machineReadable => checks.machineReadable
  | .specific => checks.specific
  | .unused => checks.unused

def ofList (list : List Check) : Checks :=
  ⟨list.contains .explanation, list.contains .machineReadable, list.contains .specific,
    list.contains .unused⟩

def toList (checks : Checks) : List Check :=
  Check.all.filter checks.has

@[simp] theorem has_ofList (list : List Check) (check : Check) :
    (ofList list).has check = list.contains check := by
  cases check <;> rfl

theorem ofList_toList (checks : Checks) : ofList checks.toList = checks := by
  obtain ⟨e, m, s, u⟩ := checks
  revert e m s u
  decide

end Checks

structure RuleConfig where
  checks : Checks := .standard
  /-- The linters that need no explanation.  Only membership counts. -/
  exempt : List String := []
  /-- The name of the rule: a directive that names it is left alone. -/
  ruleName : String := "nolintlint"
  deriving DecidableEq, Repr

namespace RuleConfig

/-- The linters that need no explanation, each once, in the order of code points. -/
def exemptNames (config : RuleConfig) : List String :=
  (config.exempt.mergeSort fun a b => decide (a ≤ b)).eraseDups

/-- The checks of a list of names; the first name that is no check is a fault. -/
def checksOfNames (names : List String) : Except Check.Unknown Checks := do
  let checks ← names.mapM fun name =>
    match Check.ofName? name with
    | some check => .ok check
    | none => .error ⟨name⟩
  return Checks.ofList checks

end RuleConfig

end DirectiveLint
