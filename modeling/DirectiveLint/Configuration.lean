import DirectiveLint.FileSystem
import DirectiveLint.Settings
import DirectiveLint.Text.Utf8
import DirectiveLint.Toml.Document

/-!
# Configuration files

The settings of a project stand in the table `tool.nolintlint` of a TOML file.

* `Configuration.Wording` — the words in which a text is refused.
* `Configuration.ofBytes` — the settings of a file's content, or why it has none.
* `Configuration.load` — the settings of a path.  A file that does not exist has the settings that
  were never written; so does one without that table.

The steps fail one after the other: the content must be UTF-8, the text TOML, `tool` a table, and
the settings in it without problems.

**The words of a refusal** are those of whoever reads TOML and settings, and nothing is assumed of
them.  What stands in front of them says which file is refused, and for which of the two reasons.
-/

namespace DirectiveLint.Configuration

open Data

/-- **The words in which a text is refused.** -/
class Wording where
  /-- What is said about a text that has no table. -/
  toml : List Char → String
  /-- What is said about a text whose settings have these problems. -/
  settings : List Char → List Settings.Problem → String

inductive Fault where
  | unreadable (failure : FileSystem.Failure)
  | notText
  /-- Its text has no table. -/
  | notToml (fault : Toml.Fault) (detail : String)
  /-- Its value of `tool` is no table. -/
  | toolNotTable
  | settings (problems : List Settings.Problem) (detail : String)
  deriving DecidableEq

/-- The file's own words are at fault, which its author is told; the other faults are taken for
faults of the surroundings. -/
def Fault.isReported : Fault → Bool
  | notToml .malformed _ | settings _ _ => true
  | unreadable _ | notText | notToml (.tooManyDigits _) _ | toolNotTable => false

/-- What the author is told.  Of the other faults there is nothing to tell but where they are. -/
def Fault.message (path : FilePath) : Fault → String
  | notToml .malformed detail => path.render ++ ": invalid TOML: " ++ detail
  | settings _ detail => path.render ++ ": invalid [tool.nolintlint] settings:\n" ++ detail
  | unreadable _ | notText | notToml (.tooManyDigits _) _ | toolNotTable => path.render

/-- The value in which the settings of a document stand. -/
def section? (document : Table) : Except Fault Value :=
  match document.lookup "tool" with
  | none => .ok (.table [])
  | some (.table tools) => .ok ((tools.lookup "nolintlint").getD (.table []))
  | some _ => .error .toolNotTable

variable [Wording]

/-- **The settings of a file's content.** -/
def ofBytes (bytes : List UInt8) : Except Fault Settings :=
  match Text.Utf8.decode? bytes with
  | none => .error .notText
  | some text =>
    match Toml.parse text with
    | .error fault => .error (.notToml fault (Wording.toml text))
    | .ok document =>
      match section? document with
      | .error fault => .error fault
      | .ok value =>
        (Settings.read value).mapError fun problems =>
          .settings problems (Wording.settings text problems)

def load (fs : FileSystem) (path : FilePath) : Except Fault Settings :=
  match fs.read path with
  | .ok bytes => ofBytes bytes
  | .error failure =>
    if failure.reason.isAbsence then .ok {} else .error (.unreadable failure)

/-- A path that leads nowhere has the settings that were never written. -/
theorem load_of_isAbsence {fs : FileSystem} {path : FilePath} {failure : FileSystem.Failure}
    (h : fs.read path = .error failure) (ha : failure.reason.isAbsence = true) :
    load fs path = .ok {} := by
  simp [load, h, ha]

/-- **An empty file has the settings that were never written.** -/
theorem ofBytes_nil : ofBytes [] = .ok {} := by
  rfl

end DirectiveLint.Configuration
