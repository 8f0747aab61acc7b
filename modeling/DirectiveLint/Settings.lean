import DirectiveLint.Data.Value
import DirectiveLint.RuleConfig

/-!
# Settings

The settings that a project writes down, and how they are read from data of any shape.

* `Settings` — one value for each field.
* `Settings.Field` — the fields, in order.  A field has a key in words joined by hyphens, and may
  also be given under the same words joined by underscores.
* `Settings.Problem` — what is wrong with one place of the data.
* `Settings.read` — the settings of a value, or everything that is wrong with it.
* `Settings.toRuleConfig` — the rule configuration that the settings ask for.

**Both spellings.**  If a field is given under both keys, the one with hyphens counts and the other
is an unknown key.

**All problems are reported**: those of the fields in the order of fields, each under the key as it
is written in the data, and then the unknown keys in the order of the data.
-/

namespace DirectiveLint

open Data

structure Settings where
  requireMachineReadable : Bool := true
  requireSpecific : Bool := true
  requireExplanation : Bool := true
  allowUnused : Bool := true
  /-- The linters that need no explanation, as they were given. -/
  allowNoExplanation : List String := []
  ruleName : String := "nolintlint"
  deriving DecidableEq, Repr

namespace Settings

/-! ## Fields and problems -/

inductive Field where
  | requireMachineReadable
  | requireSpecific
  | requireExplanation
  | allowUnused
  | allowNoExplanation
  | ruleName
  deriving DecidableEq, Repr

namespace Field

/-- The fields in the order in which their problems are reported. -/
def all : List Field :=
  [.requireMachineReadable, .requireSpecific, .requireExplanation, .allowUnused,
    .allowNoExplanation, .ruleName]

def words : Field → List String
  | requireMachineReadable => ["require", "machine", "readable"]
  | requireSpecific => ["require", "specific"]
  | requireExplanation => ["require", "explanation"]
  | allowUnused => ["allow", "unused"]
  | allowNoExplanation => ["allow", "no", "explanation"]
  | ruleName => ["rule", "name"]

def key (field : Field) : String :=
  "-".intercalate field.words

/-- The other key under which a field may be given. -/
def otherKey (field : Field) : String :=
  "_".intercalate field.words

end Field

inductive Fault where
  /-- It is neither a boolean nor anything that could stand for one. -/
  | notBoolean
  /-- It could stand for a boolean and does not. -/
  | unclearBoolean
  | notList
  | notText
  | notTable
  | unknownKey
  deriving DecidableEq, Repr

/-- One step from a value to a value inside it. -/
inductive Step where
  | key (key : String)
  | index (index : Nat)
  deriving DecidableEq, Repr

/-- A fault and its place, from the outside in. -/
structure Problem where
  place : List Step
  fault : Fault
  deriving DecidableEq, Repr

/-- The problem as seen from one step further out. -/
def Problem.behind (step : Step) (problem : Problem) : Problem :=
  { problem with place := step :: problem.place }

/-! ## Reading single values -/

/-- The texts that stand for true, in any mixture of ASCII cases. -/
def trueTexts : List String :=
  ["1", "on", "t", "true", "y", "yes"]

/-- The texts that stand for false, in any mixture of ASCII cases. -/
def falseTexts : List String :=
  ["0", "off", "f", "false", "n", "no"]

/-- The boolean that a whole number stands for.  Only zero and one stand for any, and only a number
that fits a machine word could. -/
def ofNumber (fits : Bool) (n : Int) : Except Fault Bool :=
  if n == 0 then .ok false
  else if n == 1 then .ok true
  else .error (if fits then .unclearBoolean else .notBoolean)

/-- **Booleans** may also be given as zero and one, and by words.  The lowest machine word cannot be
given with a fraction or an exponent. -/
def boolean : Value → Except Fault Bool
  | .boolean value => .ok value
  | .integer n => ofNumber (Int64.minValue.toInt ≤ n && n ≤ Int64.maxValue.toInt) n
  | .float number =>
    match number.bind Decimal.whole? with
    | some n => ofNumber (Int64.minValue.toInt < n && n ≤ Int64.maxValue.toInt) n
    | none => .error .notBoolean
  | .text text =>
    let folded := String.ofList (text.toList.map Char.toLower)
    if trueTexts.contains folded then .ok true
    else if falseTexts.contains folded then .ok false
    else .error .unclearBoolean
  | _ => .error .notBoolean

def text : Value → Except Fault String
  | .text value => .ok value
  | _ => .error .notText

/-! ## Reading with problems -/

/-- A value that was read, and what is wrong.  The value counts only if nothing is wrong. -/
structure Reading (α : Type) where
  value : α
  problems : List Problem := []

def Reading.ofExcept {α : Type} (fallback : α) : Except Fault α → Reading α
  | .ok value => ⟨value, []⟩
  | .error fault => ⟨fallback, [⟨[], fault⟩]⟩

/-- The texts of a list from some place on, with every item that is no text a problem. -/
def textsFrom : Nat → List Value → Reading (List String)
  | _, [] => ⟨[], []⟩
  | i, item :: items =>
    let rest := textsFrom (i + 1) items
    match text item with
    | .ok value => ⟨value :: rest.value, rest.problems⟩
    | .error fault => ⟨rest.value, ⟨[.index i], fault⟩ :: rest.problems⟩

def texts : Value → Reading (List String)
  | .array items => textsFrom 0 items
  | _ => ⟨[], [⟨[], .notList⟩]⟩

def given? (table : Table) (field : Field) : Option (String × Value) :=
  match table.lookup field.key with
  | some value => some (field.key, value)
  | none => (table.lookup field.otherKey).map (field.otherKey, ·)

/-- The value of a field, or the one it has when it is not given. -/
def setting {α : Type} (table : Table) (field : Field) (standard : α) (read : Value → Reading α) :
    Reading α :=
  match given? table field with
  | none => ⟨standard, []⟩
  | some (key, value) =>
    let reading := read value
    ⟨reading.value, reading.problems.map (Problem.behind (.key key))⟩

def usedKeys (table : Table) : List String :=
  Field.all.filterMap fun field => (given? table field).map Prod.fst

/-- The keys that give no field, in the order of the data. -/
def unknownKeys (table : Table) : List Problem :=
  (table.filter fun (key, _) => !(usedKeys table).contains key).map fun (key, _) =>
    ⟨[.key key], .unknownKey⟩

def ofTable (table : Table) : Reading Settings :=
  let flag (field : Field) := setting table field true fun v => .ofExcept true (boolean v)
  let machineReadable := flag .requireMachineReadable
  let specific := flag .requireSpecific
  let explanation := flag .requireExplanation
  let unused := flag .allowUnused
  let exempt := setting table .allowNoExplanation [] texts
  let name := setting table .ruleName "nolintlint" fun v => .ofExcept "" (text v)
  { value :=
      { requireMachineReadable := machineReadable.value
        requireSpecific := specific.value
        requireExplanation := explanation.value
        allowUnused := unused.value
        allowNoExplanation := exempt.value
        ruleName := name.value }
    problems :=
      machineReadable.problems ++ specific.problems ++ explanation.problems ++ unused.problems ++
        exempt.problems ++ name.problems ++ unknownKeys table }

/-- **The settings of a value**, or everything that is wrong with it. -/
def read : Value → Except (List Problem) Settings
  | .table table =>
    let reading := ofTable table
    if reading.problems.isEmpty then .ok reading.value else .error reading.problems
  | _ => .error [⟨[], .notTable⟩]

/-! ## What the settings ask for -/

def reportingUnused (settings : Settings) : Settings :=
  { settings with allowUnused := false }

/-- **The rule configuration of the settings.**  A check is on if the settings require it;
directives that may be unused are looked for unless the settings allow them. -/
def toRuleConfig (settings : Settings) : RuleConfig where
  checks :=
    { machineReadable := settings.requireMachineReadable
      specific := settings.requireSpecific
      explanation := settings.requireExplanation
      unused := !settings.allowUnused }
  exempt := settings.allowNoExplanation
  ruleName := settings.ruleName

/-- Settings that were never written ask for the standard configuration. -/
theorem toRuleConfig_default : toRuleConfig {} = {} := rfl

theorem read_empty : read (.table []) = .ok {} := rfl

end Settings

end DirectiveLint
